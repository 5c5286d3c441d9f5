import ContentTracker.Proofs.Text.Utf8
import ContentTracker.Proofs.Wire.Varint

/-! Reading undoes writing, field by field. A reading step takes exactly the octets that were
written and leaves what follows them, so fields compose without separators. -/

namespace ContentTracker.Wire

/-- The step reads exactly these octets, whatever follows them, and gives the value. -/
def Reads {α : Type} (r : Reader α) (bs : Octets) (a : α) : Prop :=
  ∀ offset rest, r ⟨offset, bs ++ rest⟩ = .ok a ⟨offset + bs.length, rest⟩

/-- Where writing succeeds, the step reads what was written and gives the value. -/
def Undoes {α : Type} (r : Reader α) (w : Written) (a : α) : Prop :=
  w.fault = none → Reads r w.octets a

variable {α β : Type}

theorem reads_pure (a : α) : Reads (pure a) [] a := fun _ _ => rfl

theorem Reads.bind {r : Reader α} {f : α → Reader β} {bs cs : Octets} {a : α} {b : β}
    (first : Reads r bs a) (second : Reads (f a) cs b) : Reads (r >>= f) (bs ++ cs) b := by
  intro offset rest
  change EStateM.bind r f _ = _
  rw [List.append_assoc, EStateM.bind, first]
  change f a _ = _
  rw [second, List.length_append, Nat.add_assoc]

/-- A step that is followed by a decision on its value alone. -/
theorem Reads.decide {r : Reader α} {f : α → Reader β} {bs : Octets} {a : α} {b : β}
    (first : Reads r bs a) (second : Reads (f a) [] b) : Reads (r >>= f) bs b := by
  simpa only [List.append_nil] using first.bind second

theorem Reads.map {r : Reader α} (f : α → β) {bs : Octets} {a : α} (h : Reads r bs a) :
    Reads (f <$> r) bs (f a) := by
  intro offset rest
  change EStateM.map f r _ = _
  rw [EStateM.map, h]

/-- A step that reads all octets there are reads them as one message. -/
theorem Reads.whole {r : Reader α} {bs : Octets} {a : α} (h : Reads r bs a) :
    Reader.whole r bs = .ok a := by
  have all : r ⟨0, bs⟩ = .ok a ⟨bs.length, []⟩ := by
    simpa only [List.append_nil, Nat.zero_add] using h 0 []
  have reading : (do let a ← r; Reader.finish; pure a : Reader α).run (.start bs) =
      .ok a ⟨bs.length, []⟩ := by
    change EStateM.bind r _ ⟨0, bs⟩ = _
    rw [EStateM.bind, all]
    rfl
  simp only [Reader.whole, reading]

theorem Undoes.andThen {r : Reader α} {f : α → Reader β} {v w : Written} {a : α} {b : β}
    (first : Undoes r v a) (second : Undoes (f a) w b) : Undoes (r >>= f) (v.andThen w) b := by
  intro unhindered
  unfold Written.andThen at unhindered ⊢
  cases h : v.fault with
  | some fault => simp [h] at unhindered
  | none =>
      simp only [h] at unhindered ⊢
      exact (first h).bind (second unhindered)

theorem undoes_pure (a : α) : Undoes (pure a) ⟨[], none⟩ a := fun _ => reads_pure a

theorem Undoes.map {r : Reader α} (f : α → β) {w : Written} {a : α} (h : Undoes r w a) :
    Undoes (f <$> r) w (f a) := fun unhindered => (h unhindered).map f

theorem reads_octet (b : UInt8) : Reads Reader.octet [b] b.toNat := fun _ _ => rfl

theorem reads_varint {n : Nat} (h : n < varintBound) : Reads Reader.varint (varint n) n := by
  have short : (varint n).length ≤ 10 :=
    length_varint_le (by decide) (Nat.lt_trans h (by decide))
  exact fun offset rest => varint_eq_ok_iff.2 ⟨varint n, rfl, rfl, short, spells_varint n, h⟩

theorem undoes_writeInteger (n : Nat) : Undoes Reader.varint (writeInteger n) n := by
  intro unhindered
  by_cases h : n < varintBound
  · simpa [writeInteger, h] using reads_varint h
  · simp [writeInteger, h, Written.stopped] at unhindered

theorem undoes_writeFlag (b : Bool) : Undoes Reader.flag (writeFlag (.bool b)) b := by
  cases b <;> exact fun _ _ _ => rfl

theorem reads_take (bs : Octets) : Reads (Reader.take bs.length) bs bs := by
  intro offset rest
  simp [Reader.take]

/-- A counted field: the octets behind their number. -/
theorem undoes_writeOctets (bs : Octets) : Undoes Reader.octets (writeOctets bs) bs :=
  (undoes_writeInteger bs.length).andThen fun _ => reads_take bs

theorem undoes_text (s : String) : Undoes Reader.text (write (.text s)) s := by
  intro unhindered
  rw [write] at unhindered ⊢
  refine (undoes_writeOctets (Utf8.encode s) unhindered).decide ?_
  rw [Utf8.decode_encode]
  exact reads_pure s

theorem undoes_option_none (r : Reader α) :
    Undoes (Reader.option r) (write (.option none)) none := fun _ _ _ => rfl

theorem undoes_option_some {r : Reader α} {content : Item} {a : α}
    (h : Undoes r (write content) a) :
    Undoes (Reader.option r) (write (.option (some content))) (some a) := by
  rw [write]
  have tag : Undoes Reader.octet ⟨[1], none⟩ 1 := fun _ => reads_octet 1
  exact tag.andThen (h.map some)

/-! Sequences. The count is checked against the octets that are left, so an item must take one at
least. -/

theorem writeAll_cons (item : Item) (items : List Item) :
    writeAll (item :: items) = (write item).andThen (writeAll items) := by
  rw [writeAll]

theorem writeAll_nil : writeAll [] = ⟨[], none⟩ := by rw [writeAll]

theorem writeAll_map {α : Type} {item : α → Item} {octets : α → Octets}
    (each : ∀ a, write (item a) = ⟨octets a, none⟩) (as : List α) :
    writeAll (as.map item) = ⟨(as.map octets).flatten, none⟩ := by
  induction as with
  | nil => rw [List.map_nil, writeAll_nil]; rfl
  | cons a as ih => rw [List.map_cons, writeAll_cons, each, ih]; rfl

theorem andThen_nil (w : Written) : w.andThen ⟨[], none⟩ = w := by
  obtain ⟨bs, fault⟩ := w
  cases fault <;> simp [Written.andThen]

/-- The first fault stops the writing. -/
theorem andThen_fault (v w : Written) : (v.andThen w).fault = v.fault.or w.fault := by
  unfold Written.andThen
  cases h : v.fault <;> simp [h]

theorem andThen_octets {v w : Written} (h : v.fault = none) :
    (v.andThen w).octets = v.octets ++ w.octets := by
  simp only [Written.andThen, h]

theorem length_le_writeAll {items : List Item}
    (solid : ∀ item ∈ items, (write item).fault = none → (write item).octets ≠ [])
    (unhindered : (writeAll items).fault = none) :
    items.length ≤ (writeAll items).octets.length := by
  induction items with
  | nil => exact Nat.zero_le _
  | cons item items ih =>
      rw [writeAll_cons] at unhindered ⊢
      obtain ⟨first, later⟩ := Option.or_eq_none_iff.1 ((andThen_fault _ _).symm.trans unhindered)
      have head := List.length_pos_iff.2 (solid item (by simp) first)
      have tail := ih (fun other member => solid other (List.mem_cons_of_mem _ member)) later
      rw [andThen_octets first, List.length_append, List.length_cons]
      omega

theorem undoes_times {r : Reader α} {item : α → Item} {as : List α}
    (each : ∀ a ∈ as, Undoes r (write (item a)) a) :
    Undoes (Reader.times r as.length) (writeAll (as.map item)) as := by
  induction as with
  | nil =>
      rw [List.map_nil, writeAll_nil]
      exact undoes_pure []
  | cons a as ih =>
      rw [List.map_cons, writeAll_cons]
      refine (each a (by simp)).andThen ?_
      have later := ih fun other member => each other (List.mem_cons_of_mem _ member)
      exact fun unhindered => (later unhindered).decide (reads_pure (a :: as))

theorem undoes_seq {r : Reader α} {item : α → Item} {as : List α}
    (each : ∀ a ∈ as, Undoes r (write (item a)) a)
    (solid : ∀ a ∈ as, (write (item a)).fault = none → (write (item a)).octets ≠ []) :
    Undoes (Reader.seq r) (write (.seq (as.map item))) as := by
  rw [write, List.length_map]
  refine (undoes_writeInteger as.length).andThen fun unhindered offset rest => ?_
  have enough : (as.map item).length ≤ (writeAll (as.map item)).octets.length :=
    length_le_writeAll (by simpa using solid) unhindered
  have unread : ¬ ((writeAll (as.map item)).octets ++ rest).length < as.length := by
    rw [List.length_map] at enough
    rw [List.length_append]
    omega
  change (if _ then _ else _ : Reader (List α)) _ = _
  rw [if_neg unread]
  exact undoes_times each unhindered offset rest

/-! Whole items. -/

theorem encode_eq_ok {item : Item} {bs : Octets} (h : encode item = .ok bs) :
    (write item).fault = none ∧ (write item).octets = bs := by
  unfold encode Written.result at h
  cases fault : (write item).fault with
  | some f => simp [fault] at h
  | none => exact ⟨rfl, by simpa [fault] using h⟩

theorem encode_eq_error_iff {item : Item} {f : EncodeFault} :
    encode item = .error f ↔ (write item).fault = some f := by
  unfold encode Written.result
  cases (write item).fault <;> simp

theorem whole_encode {α : Type} {r : Reader α} {item : Item} {a : α} {bs : Octets}
    (h : Undoes r (write item) a) (encoded : encode item = .ok bs) : Reader.whole r bs = .ok a := by
  obtain ⟨unhindered, rfl⟩ := encode_eq_ok encoded
  exact (h unhindered).whole

end ContentTracker.Wire
