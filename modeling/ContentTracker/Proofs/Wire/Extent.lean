import ContentTracker.Proofs.Wire.SelfDelimiting

/-! What is read has one extent. The octets that a step took for a value give the same value in
front of any others, so no message is part of another one. The count of a sequence is checked
against what is left, so the least number of octets that a step takes is followed along. -/

namespace ContentTracker.Wire

variable {α β : Type} {r : Reader α} {least more : Nat}

/-- For all that it accepts the step took at least so many octets, and it reads them alike whatever
follows. -/
def Steady (least : Nat) (r : Reader α) : Prop :=
  ∀ c a d, r c = .ok a d →
    ∃ taken, least ≤ taken.length ∧ c.rest = taken ++ d.rest ∧ Reads r taken a

theorem bind_eq_ok {f : α → Reader β} {c d : Cursor} {b : β} (h : (r >>= f) c = .ok b d) :
    ∃ a e, r c = .ok a e ∧ f a e = .ok b d := by
  change EStateM.bind r f c = _ at h
  unfold EStateM.bind at h
  cases first : r c with
  | ok a e => exact ⟨a, e, rfl, by simpa only [first] using h⟩
  | error fault e => simp [first] at h

theorem map_eq_ok {f : α → β} {c d : Cursor} {b : β} (h : (f <$> r) c = .ok b d) :
    ∃ a, r c = .ok a d ∧ f a = b := by
  change EStateM.map f r c = _ at h
  unfold EStateM.map at h
  cases first : r c with
  | ok a e =>
      simp only [first, EStateM.Result.ok.injEq] at h
      exact ⟨a, by rw [h.2], h.1⟩
  | error fault e => simp [first] at h

theorem Steady.weaken (h : Steady more r) (fewer : least ≤ more) : Steady least r := by
  intro c a d accepted
  obtain ⟨taken, size, parts, reads⟩ := h c a d accepted
  exact ⟨taken, Nat.le_trans fewer size, parts, reads⟩

/-- Octets that read to something are as many as the step takes at least. -/
theorem Steady.le_length (h : Steady least r) {bs : Octets} {a : α} (reads : Reads r bs a) :
    least ≤ bs.length := by
  obtain ⟨taken, enough, parts, _⟩ := h _ _ _ (reads 0 [])
  simp only [List.append_nil] at parts
  rwa [parts]

theorem steady_pure (a : α) : Steady 0 (pure a : Reader α) := by
  rintro c _ _ ⟨⟩
  exact ⟨[], Nat.le_refl 0, rfl, reads_pure a⟩

theorem Steady.bind {f : α → Reader β} (first : Steady least r)
    (later : ∀ a, Steady more (f a)) : Steady (least + more) (r >>= f) := by
  intro c b d accepted
  obtain ⟨a, e, read, rest⟩ := bind_eq_ok accepted
  obtain ⟨taken, size, parts, reads⟩ := first c a e read
  obtain ⟨taken', size', parts', reads'⟩ := later a e b d rest
  refine ⟨taken ++ taken', ?_, ?_, reads.bind reads'⟩
  · rw [List.length_append]
    omega
  · rw [parts, parts', List.append_assoc]

/-- A step that is followed by a decision on its value alone. -/
theorem Steady.decide {f : α → Reader β} (first : Steady least r)
    (later : ∀ a, Steady 0 (f a)) : Steady least (r >>= f) := first.bind later

theorem Steady.map (f : α → β) (h : Steady least r) : Steady least (f <$> r) := by
  intro c b d accepted
  obtain ⟨a, read, rfl⟩ := map_eq_ok accepted
  obtain ⟨taken, size, parts, reads⟩ := h c a d read
  exact ⟨taken, size, parts, reads.map f⟩

theorem steady_throw (fault : DecodeFault) : Steady least (throw fault : Reader α) := by
  rintro c a d ⟨⟩

/-- A fault that tells where it was found. -/
theorem steady_throw_at (fault : Nat → DecodeFault) :
    Steady least (do throw (fault (← Reader.offset)) : Reader α) := by
  rintro c a d ⟨⟩

theorem steady_take (size : Nat) : Steady size (Reader.take size) := by
  intro c bs d accepted
  unfold Reader.take at accepted
  split at accepted
  · cases accepted
  · next enough =>
    cases accepted
    have taken : (c.rest.take size).length = size := by
      rw [List.length_take]
      omega
    refine ⟨c.rest.take size, Nat.le_of_eq taken.symm, (List.take_append_drop _ _).symm, ?_⟩
    have reads := reads_take (c.rest.take size)
    rwa [taken] at reads

theorem steady_octet : Steady 1 Reader.octet := by
  rintro ⟨offset, rest⟩ n d accepted
  cases rest with
  | nil => cases accepted
  | cons b rest =>
      cases accepted
      exact ⟨[b], Nat.le_refl 1, rfl, reads_octet b⟩

theorem steady_varint : Steady 1 Reader.varint := by
  intro c n d accepted
  obtain ⟨taken, parts, _, fits, spelled, small⟩ := varint_eq_ok_iff.1 accepted
  exact ⟨taken, spelled.length_pos, parts, fun offset rest =>
    varint_eq_ok_iff.2 ⟨taken, rfl, rfl, fits, spelled, small⟩⟩

theorem steady_flag : Steady 1 Reader.flag := by
  refine steady_octet.decide fun b => ?_
  split
  · exact steady_throw_at fun offset => .badFlag b (offset - 1)
  · exact steady_pure _

theorem steady_octets : Steady 1 Reader.octets :=
  steady_varint.decide fun size => (steady_take size).weaken (Nat.zero_le size)

theorem steady_text : Steady 1 Reader.text := by
  refine steady_octets.decide fun bs => ?_
  split
  · exact steady_pure _
  · exact steady_throw _

theorem steady_option (h : Steady least r) : Steady 1 (Reader.option r) := by
  refine steady_octet.decide fun tag => ?_
  split
  · exact steady_pure _
  · split
    · exact (h.map some).weaken (Nat.zero_le least)
    · exact steady_throw_at fun offset => .badOptionTag tag (offset - 1)

/-- Every item takes an octet at least, so as many octets as items are taken. -/
theorem steady_times (h : Steady 1 r) (count : Nat) : Steady count (Reader.times r count) := by
  induction count with
  | zero => exact steady_pure []
  | succ count ih =>
      refine ((h.bind fun a => ih.decide fun as => steady_pure (a :: as))).weaken ?_
      omega

/-- The count that was checked against the octets there were is no larger than the octets that its
items took, so the check comes out the same with others behind them. -/
theorem steady_seq (h : Steady 1 r) : Steady 1 (Reader.seq r) := by
  refine steady_varint.decide fun count => ?_
  intro c as d accepted
  have guarded (c : Cursor) : (do
      let unread ← Reader.remaining
      if unread < count then throw (.countTooLarge count unread (← Reader.offset))
      else Reader.times r count : Reader (List α)) c =
        if c.rest.length < count then .error (.countTooLarge count c.rest.length c.offset) c
        else Reader.times r count c := by
    change (if c.rest.length < count then _ else _ : Reader (List α)) c = _
    split <;> rfl
  rw [guarded] at accepted
  split at accepted
  · cases accepted
  · obtain ⟨taken, size, parts, reads⟩ := steady_times h count c as d accepted
    refine ⟨taken, Nat.zero_le _, parts, fun offset rest => ?_⟩
    rw [guarded, if_neg (by rw [List.length_append]; omega)]
    exact reads offset rest

/-! Whole messages. -/

theorem whole_eq (r : Reader α) (bs : Octets) : Reader.whole r bs =
    match r ⟨0, bs⟩ with
    | .ok a d => if d.rest.length = 0 then .ok a else .error (.trailing d.rest.length d.offset)
    | .error fault _ => .error fault := by
  unfold Reader.whole
  change (match (EStateM.bind r _ ⟨0, bs⟩ : EStateM.Result DecodeFault Cursor α) with
    | .ok a _ => Except.ok a
    | .error fault _ => .error fault) = _
  unfold EStateM.bind
  cases r ⟨0, bs⟩ with
  | error fault d => rfl
  | ok a d =>
      obtain ⟨offset, rest⟩ := d
      cases rest <;> rfl

theorem whole_eq_ok {bs : Octets} {a : α} (h : Reader.whole r bs = .ok a) :
    ∃ d, r ⟨0, bs⟩ = .ok a d ∧ d.rest = [] := by
  rw [whole_eq] at h
  cases read : r ⟨0, bs⟩ with
  | error fault d => simp [read] at h
  | ok b d =>
      simp only [read] at h
      split at h
      · next empty =>
        cases h
        exact ⟨d, rfl, List.length_eq_zero_iff.1 empty⟩
      · cases h

/-- A message is exactly the octets that were read for it. -/
theorem Steady.of_whole (steady : Steady least r) {bs : Octets} {a : α}
    (h : Reader.whole r bs = .ok a) : Reads r bs a := by
  obtain ⟨d, read, empty⟩ := whole_eq_ok h
  obtain ⟨taken, _, parts, reads⟩ := steady _ _ _ read
  rw [empty, List.append_nil] at parts
  subst parts
  exact reads

theorem Steady.whole_append (steady : Steady least r) {bs : Octets} {a : α}
    (h : Reader.whole r bs = .ok a) {extra : Octets} (some : extra ≠ []) :
    Reader.whole r (bs ++ extra) = .error (.trailing extra.length bs.length) := by
  have left : extra.length ≠ 0 := fun empty => some (List.length_eq_zero_iff.1 empty)
  rw [whole_eq, steady.of_whole h 0 extra]
  simp only [if_neg left, Nat.zero_add]

/-- The beginning of a message is none: all that it lacks would be trailing. -/
theorem Steady.whole_beginning (steady : Steady least r) {bs : Octets} {a : α}
    {lacking : Octets} (h : Reader.whole r (bs ++ lacking) = .ok a) (some : lacking ≠ []) :
    ∃ fault, Reader.whole r bs = .error fault := by
  cases read : Reader.whole r bs with
  | error fault => exact ⟨fault, rfl⟩
  | ok b =>
      rw [steady.whole_append read some] at h
      cases h

end ContentTracker.Wire
