import ContentTracker.Proofs.Text.Utf8
import ContentTracker.Proofs.Wire.Extent
import ContentTracker.SortedSet
import Mathlib.Algebra.Order.BigOperators.Group.List
import Mathlib.Data.List.Perm.Subperm

/-! What was read can be written again, in no more octets than it was read from. Only numbers have
longer spellings than the one that is written, and members of a set may have been repeated. -/

namespace ContentTracker.Wire

/-- What was read between two places can be written, in no more octets than lie between them. -/
structure Respelled (c d : Cursor) (w : Written) : Prop where
  unhindered : w.fault = none
  shorter : w.octets.length + d.rest.length ≤ c.rest.length

variable {α : Type} {c d e : Cursor}

theorem respelled_nothing (c : Cursor) : Respelled c c ⟨[], none⟩ := ⟨rfl, by simp⟩

theorem Respelled.andThen {v w : Written} (first : Respelled c d v) (later : Respelled d e w) :
    Respelled c e (v.andThen w) := by
  have before := first.shorter
  have after := later.shorter
  refine ⟨by rw [andThen_fault, first.unhindered, later.unhindered]; rfl, ?_⟩
  rw [andThen_octets first.unhindered, List.length_append]
  omega

/-! Numbers. -/

theorem length_varint_mono {m n : Nat} (h : m ≤ n) : (varint m).length ≤ (varint n).length := by
  induction m using Nat.strongRecOn generalizing n with
  | ind m ih =>
      by_cases digit : n < 128
      · rw [varint_of_lt digit, varint_of_lt (Nat.lt_of_le_of_lt h digit)]
        exact Nat.le_refl 1
      rw [varint_of_ge (Nat.le_of_not_lt digit)]
      by_cases small : m < 128
      · rw [varint_of_lt small]
        exact Nat.le_add_left 1 _
      · rw [varint_of_ge (Nat.le_of_not_lt small)]
        exact Nat.succ_le_succ (ih _ (by omega) (Nat.div_le_div_right h))

theorem octet_eq_ok {n : Nat} (h : Reader.octet c = .ok n d) :
    c.rest.length = d.rest.length + 1 := by
  obtain ⟨offset, rest⟩ := c
  cases rest with
  | nil => cases h
  | cons b rest =>
      cases h
      rfl

theorem respelled_varint {n : Nat} (h : Reader.varint c = .ok n d) :
    Respelled c d (writeInteger n) := by
  obtain ⟨taken, parts, _, _, spelled, small⟩ := varint_eq_ok_iff.1 h
  have length : (varint n).length ≤ taken.length := by
    rcases spelled.shortest with rfl | shorter
    · exact Nat.le_refl _
    · exact Nat.le_of_lt shorter
  rw [writeInteger_of_lt small]
  refine ⟨rfl, ?_⟩
  rw [parts, List.length_append]
  exact Nat.add_le_add_right length _

/-! Fields. -/

theorem respelled_flag {b : Bool} (h : Reader.flag c = .ok b d) :
    Respelled c d (writeFlag (.bool b)) := by
  obtain ⟨n, e, read, h⟩ := bind_eq_ok h
  have one := octet_eq_ok read
  split at h
  · cases h
  · cases h
    exact ⟨rfl, by simp only [writeFlag, List.length_singleton]; omega⟩

theorem take_eq_ok {size : Nat} {bs : Octets} (h : Reader.take size c = .ok bs d) :
    bs.length = size ∧ c.rest.length = d.rest.length + size := by
  unfold Reader.take at h
  split at h
  · cases h
  · cases h
    simp only [List.length_take, List.length_drop]
    omega

theorem respelled_take {size : Nat} {bs : Octets} (h : Reader.take size c = .ok bs d) :
    Respelled c d ⟨bs, none⟩ := by
  obtain ⟨length, octets⟩ := take_eq_ok h
  exact ⟨rfl, by dsimp only; omega⟩

theorem respelled_octets {bs : Octets} (h : Reader.octets c = .ok bs d) :
    Respelled c d (writeOctets bs) := by
  obtain ⟨size, e, number, octets⟩ := bind_eq_ok h
  have length := (take_eq_ok octets).1
  rw [writeOctets, length]
  exact (respelled_varint number).andThen (respelled_take octets)

theorem respelled_text {s : String} (h : Reader.text c = .ok s d) :
    Respelled c d (write (.text s)) := by
  obtain ⟨bs, e, octets, h⟩ := bind_eq_ok h
  cases decoded : Utf8.decode bs with
  | error fault =>
      rw [decoded] at h
      cases h
  | ok t =>
      rw [decoded] at h
      cases h
      rw [write, Utf8.encode_of_decode decoded]
      exact respelled_octets octets

section Items

variable {r : Reader α} {item : α → Item}

theorem respelled_option {o : Option α}
    (each : ∀ c d a, r c = .ok a d → Respelled c d (write (item a)))
    (h : Reader.option r c = .ok o d) : Respelled c d (write (.option (o.map item))) := by
  obtain ⟨tag, e, read, h⟩ := bind_eq_ok h
  have one := octet_eq_ok read
  split at h
  · cases h
    rw [Option.map_none, write]
    exact ⟨rfl, by simp only [List.length_singleton]; omega⟩
  · split at h
    · obtain ⟨a, content, rfl⟩ := map_eq_ok h
      have mark : Respelled c e ⟨[1], none⟩ := ⟨rfl, by simp only [List.length_singleton]; omega⟩
      rw [Option.map_some, write]
      exact mark.andThen (each e d a content)
    · cases h

theorem respelled_times {count : Nat} {as : List α}
    (each : ∀ c d a, r c = .ok a d → Respelled c d (write (item a)))
    (h : Reader.times r count c = .ok as d) :
    as.length = count ∧ Respelled c d (writeAll (as.map item)) := by
  induction count generalizing c as with
  | zero =>
      cases h
      rw [List.map_nil, writeAll_nil]
      exact ⟨rfl, respelled_nothing d⟩
  | succ count ih =>
      obtain ⟨a, e, first, h⟩ := bind_eq_ok h
      obtain ⟨rest, e', later, h⟩ := bind_eq_ok h
      cases h
      obtain ⟨length, respelled⟩ := ih later
      rw [List.map_cons, writeAll_cons, List.length_cons, length]
      exact ⟨rfl, (each c e a first).andThen respelled⟩

theorem respelled_seq {as : List α}
    (each : ∀ c d a, r c = .ok a d → Respelled c d (write (item a)))
    (h : Reader.seq r c = .ok as d) : Respelled c d (write (.seq (as.map item))) := by
  obtain ⟨count, e, number, h⟩ := bind_eq_ok h
  obtain ⟨unread, e', remains, h⟩ := bind_eq_ok h
  cases remains
  split at h
  · cases h
  · obtain ⟨length, respelled⟩ := respelled_times each h
    rw [write, List.length_map, length]
    exact (respelled_varint number).andThen respelled

theorem seq_members {P : α → Prop} {as : List α} (each : ∀ c d a, r c = .ok a d → P a)
    (h : Reader.seq r c = .ok as d) : ∀ a ∈ as, P a := by
  have times (count : Nat) : ∀ c as, Reader.times r count c = .ok as d → ∀ a ∈ as, P a := by
    induction count with
    | zero =>
        intro c as h
        cases h
        exact fun a member => absurd member List.not_mem_nil
    | succ count ih =>
        intro c as h
        obtain ⟨a, e, first, h⟩ := bind_eq_ok h
        obtain ⟨rest, e', later, h⟩ := bind_eq_ok h
        cases h
        exact List.forall_mem_cons.2 ⟨each c e a first, ih e rest later⟩
  obtain ⟨count, e, _, h⟩ := bind_eq_ok h
  obtain ⟨unread, e', remains, h⟩ := bind_eq_ok h
  cases remains
  split at h
  · cases h
  · exact times count _ as h

/-! Members of a set are written once each. -/

theorem writeAll_unhindered {items : List Item} :
    (writeAll items).fault = none ↔ ∀ item ∈ items, (write item).fault = none := by
  induction items with
  | nil => simp [writeAll_nil]
  | cons item items ih =>
      rw [writeAll_cons, andThen_fault, Option.or_eq_none_iff, ih, List.forall_mem_cons]

theorem length_writeAll {items : List Item} (h : ∀ item ∈ items, (write item).fault = none) :
    (writeAll items).octets.length = (items.map fun item => (write item).octets.length).sum := by
  induction items with
  | nil => rw [writeAll_nil]; rfl
  | cons item items ih =>
      rw [List.forall_mem_cons] at h
      rw [writeAll_cons, andThen_octets h.1, List.length_append, ih h.2, List.map_cons,
        List.sum_cons]

theorem respelled_seq_iff {as : List α} : Respelled c d (write (.seq (as.map item))) ↔
    as.length < varintBound ∧ (∀ a ∈ as, (write (item a)).fault = none) ∧
      (varint as.length).length + (as.map fun a => (write (item a)).octets.length).sum +
        d.rest.length ≤ c.rest.length := by
  have written : write (.seq (as.map item)) =
      (writeInteger as.length).andThen (writeAll (as.map item)) := by
    rw [write, List.length_map]
  have sizes (h : as.length < varintBound) (k : ∀ a ∈ as, (write (item a)).fault = none) :
      (write (.seq (as.map item))).octets.length = (varint as.length).length +
        (as.map fun a => (write (item a)).octets.length).sum := by
    rw [written, andThen_octets (writeInteger_unhindered.2 h), List.length_append,
      writeInteger_of_lt h, length_writeAll (List.forall_mem_map.2 k), List.map_map]
    rfl
  have unhindered : (write (.seq (as.map item))).fault = none ↔
      as.length < varintBound ∧ ∀ a ∈ as, (write (item a)).fault = none := by
    rw [written, andThen_fault, Option.or_eq_none_iff, writeInteger_unhindered,
      writeAll_unhindered, List.forall_mem_map]
  constructor
  · rintro ⟨fine, shorter⟩
    obtain ⟨few, each⟩ := unhindered.1 fine
    exact ⟨few, each, sizes few each ▸ shorter⟩
  · rintro ⟨few, each, shorter⟩
    exact ⟨unhindered.2 ⟨few, each⟩, (sizes few each).symm ▸ shorter⟩

theorem sum_le_of_nodup {as ms : List α} (distinct : ms.Nodup) (within : ms ⊆ as) (f : α → Nat) :
    (ms.map f).sum ≤ (as.map f).sum := by
  obtain ⟨ls, perm, sublist⟩ := List.subperm_of_subset distinct within
  rw [← (perm.map f).sum_nat]
  exact (sublist.map f).sum_le_sum fun _ _ => Nat.zero_le _

/-- Different items out of those that were read take no more octets than all of them. -/
theorem Respelled.distinct {as ms : List α} (distinct : ms.Nodup) (within : ms ⊆ as)
    (h : Respelled c d (write (.seq (as.map item)))) :
    Respelled c d (write (.seq (ms.map item))) := by
  obtain ⟨few, each, shorter⟩ := respelled_seq_iff.1 h
  have fewer : ms.length ≤ as.length := (List.subperm_of_subset distinct within).length_le
  have count := length_varint_mono fewer
  have sum := sum_le_of_nodup distinct within fun a => (write (item a)).octets.length
  exact respelled_seq_iff.2 ⟨Nat.lt_of_le_of_lt fewer few, fun a member => each a (within member),
    by omega⟩

theorem Respelled.members [Ranked α] {as : List α}
    (h : Respelled c d (write (.seq (as.map item)))) :
    Respelled c d (write (.seq ((SortedSet.ofList as).members.map item))) :=
  h.distinct (SortedSet.nodup_members _) fun _ member => SortedSet.mem_ofList.1 member

end Items

theorem encode_of_whole {r : Reader α} {item : Item} {bs : Octets} {a : α}
    (respelled : ∀ c d, r c = .ok a d → Respelled c d (write item))
    (h : Reader.whole r bs = .ok a) : ∃ e, encode item = .ok e ∧ e.length ≤ bs.length := by
  obtain ⟨d, read, _⟩ := whole_eq_ok h
  obtain ⟨unhindered, shorter⟩ := respelled _ _ read
  refine ⟨(write item).octets, ?_, Nat.le_of_add_right_le shorter⟩
  rw [encode, Written.result, unhindered]

end ContentTracker.Wire
