import ContentTracker.Wire.Decoding
import Mathlib.Data.Nat.Digits.Lemmas

/-! Which octets spell a number. Reading stops at the first octet whose high bit is clear and takes
the groups of seven bits before and in it as one number, the lowest first. A number has many
spellings, since groups of zeros may come behind it; the one that is written is the shortest. -/

namespace ContentTracker.Wire

/-- Octets that are one number, however many there are. -/
inductive Spells : Octets → Nat → Prop
  | last {b : UInt8} : b.toNat < 128 → Spells [b] b.toNat
  | more {b : UInt8} {bs : Octets} {n : Nat} : 128 ≤ b.toNat → Spells bs n →
      Spells (b :: bs) (b.toNat % 128 + n * 128)

variable {bs : Octets} {budget value scale offset n : Nat}

theorem Spells.length_pos (h : Spells bs n) : 0 < bs.length := by
  cases h <;> exact Nat.succ_pos _

/-! What is written. -/

theorem varint_of_lt (h : n < 128) : varint n = [UInt8.ofNat n] := by
  rw [varint, dif_pos h]

theorem varint_of_ge (h : 128 ≤ n) : varint n = UInt8.ofNat (n % 128 + 128) :: varint (n / 128) := by
  rw [varint, dif_neg (by omega)]

theorem writeInteger_of_lt (h : n < varintBound) : writeInteger n = ⟨varint n, none⟩ := if_pos h

theorem writeInteger_unhindered : (writeInteger n).fault = none ↔ n < varintBound := by
  change (if n < varintBound then (⟨varint n, none⟩ : Written)
    else .stopped (.outOfRange n)).fault = none ↔ _
  split <;> simp_all [Written.stopped]

/-- An integer is written if it is in range. Otherwise nothing is. -/
theorem writeInteger_eq (v : Int) : writeInteger v =
    if 0 ≤ v ∧ v < 2 ^ 64 then ⟨varint v.toNat, none⟩ else ⟨[], some (.outOfRange v)⟩ := by
  have bound : varintBound = 2 ^ 64 := by decide
  cases v with
  | ofNat k =>
      change (if k < varintBound then _ else _ : Written) = _
      have same : k < varintBound ↔ 0 ≤ Int.ofNat k ∧ Int.ofNat k < 2 ^ 64 := by
        rw [bound, Int.ofNat_eq_natCast]
        omega
      simp only [same]
      rfl
  | negSucc k => rw [if_neg (by omega)]; rfl

theorem varint_ne_nil (n : Nat) : varint n ≠ [] := by
  rw [varint]
  split <;> exact List.cons_ne_nil _ _

theorem length_varint_le {size : Nat} (some : 0 < size) (h : n < 128 ^ size) :
    (varint n).length ≤ size := by
  induction size generalizing n with
  | zero => exact absurd some (Nat.lt_irrefl 0)
  | succ size ih =>
      by_cases digit : n < 128
      · rw [varint_of_lt digit]
        exact Nat.le_add_left 1 size
      · have long : 0 < size := by
          by_contra none
          obtain rfl : size = 0 := by omega
          exact digit (by simpa using h)
        have rest := ih (n := n / 128) long (by
          rw [Nat.div_lt_iff_lt_mul (by decide)]
          rwa [Nat.pow_succ] at h)
        rw [varint_of_ge (Nat.le_of_not_lt digit), List.length_cons]
        omega

theorem spells_varint (n : Nat) : Spells (varint n) n := by
  induction n using Nat.strongRecOn with
  | ind n ih =>
      by_cases digit : n < 128
      · have octet := UInt8.toNat_ofNat_of_lt' (show n < 256 by omega)
        have one := Spells.last (b := UInt8.ofNat n) (by rwa [octet])
        rwa [octet, ← varint_of_lt digit] at one
      · have octet := UInt8.toNat_ofNat_of_lt' (show n % 128 + 128 < 256 by omega)
        have more := Spells.more (b := UInt8.ofNat (n % 128 + 128)) (by rw [octet]; omega)
          (ih (n / 128) (by omega))
        have sum : (n % 128 + 128) % 128 + n / 128 * 128 = n := by omega
        rwa [octet, sum, ← varint_of_ge (Nat.le_of_not_lt digit)] at more

/-- Behind the number there can only be groups of zeros, which are not written. -/
theorem Spells.shortest (h : Spells bs n) : bs = varint n ∨ (varint n).length < bs.length := by
  induction h with
  | @last b digit =>
      left
      rw [varint_of_lt digit, UInt8.ofNat_toNat]
  | @more b bs n high later ih =>
      have octet := b.toNat_lt
      by_cases zero : n = 0
      · right
        rw [varint_of_lt (by omega)]
        exact Nat.succ_lt_succ later.length_pos
      · have low : (b.toNat % 128 + n * 128) % 128 + 128 = b.toNat := by omega
        have rest : (b.toNat % 128 + n * 128) / 128 = n := by omega
        rw [varint_of_ge (by omega), low, rest, UInt8.ofNat_toNat, List.length_cons,
          List.length_cons]
        rcases ih with same | shorter
        · exact .inl (by rw [← same])
        · exact .inr (Nat.succ_lt_succ shorter)

/-! What is read. One of three things happens, and the octets tell which. -/

theorem varintFrom_cons (budget value scale offset : Nat) (b : UInt8) (rest : Octets) :
    Reader.varintFrom (budget + 1) value scale ⟨offset, b :: rest⟩ =
      if b.toNat < 128 then
        if value + b.toNat % 128 * scale < varintBound
        then .ok (value + b.toNat % 128 * scale) ⟨offset + 1, rest⟩
        else .error (.varintTooLong (offset + 1)) ⟨offset + 1, rest⟩
      else Reader.varintFrom budget (value + b.toNat % 128 * scale) (scale * 128)
        ⟨offset + 1, rest⟩ := by
  rw [Reader.varintFrom]
  change (if b.toNat < 128 then _ else _ : Reader Nat) ⟨offset + 1, rest⟩ = _
  split
  · split <;> rfl
  · rfl

theorem Spells.read (h : Spells bs n) (fits : bs.length ≤ budget) (value scale offset : Nat)
    (rest : Octets) : Reader.varintFrom budget value scale ⟨offset, bs ++ rest⟩ =
      if value + n * scale < varintBound
      then .ok (value + n * scale) ⟨offset + bs.length, rest⟩
      else .error (.varintTooLong (offset + bs.length)) ⟨offset + bs.length, rest⟩ := by
  induction h generalizing budget value scale offset with
  | @last b digit =>
      obtain ⟨budget, rfl⟩ := Nat.exists_eq_succ_of_ne_zero (Nat.ne_of_gt fits)
      rw [List.singleton_append, varintFrom_cons, if_pos digit, Nat.mod_eq_of_lt digit]
      rfl
  | @more b bs n high later ih =>
      obtain ⟨budget, rfl⟩ := Nat.exists_eq_succ_of_ne_zero
        (Nat.ne_of_gt (Nat.lt_of_lt_of_le (Nat.succ_pos _) fits))
      have sum : value + b.toNat % 128 * scale + n * (scale * 128) =
          value + (b.toNat % 128 + n * 128) * scale := by ring
      rw [List.cons_append, varintFrom_cons, if_neg (Nat.not_lt.2 high),
        ih (Nat.le_of_succ_le_succ fits), sum, List.length_cons, Nat.add_right_comm offset,
        Nat.add_assoc offset]

/-- Octets that all have their high bit set end inside a number. -/
theorem varintFrom_cutOff (high : ∀ b ∈ bs, 128 ≤ b.toNat) (short : bs.length < budget)
    (value scale offset : Nat) : Reader.varintFrom budget value scale ⟨offset, bs⟩ =
      .error (.endOfMessage 1 0 (offset + bs.length)) ⟨offset + bs.length, []⟩ := by
  induction bs generalizing budget value scale offset with
  | nil =>
      obtain ⟨budget, rfl⟩ := Nat.exists_eq_succ_of_ne_zero (Nat.ne_of_gt short)
      rfl
  | cons b bs ih =>
      obtain ⟨budget, rfl⟩ := Nat.exists_eq_succ_of_ne_zero (Nat.ne_of_gt (Nat.zero_lt_of_lt short))
      obtain ⟨first, later⟩ := List.forall_mem_cons.1 high
      rw [varintFrom_cons, if_neg (Nat.not_lt.2 first), ih later (Nat.lt_of_succ_lt_succ short),
        List.length_cons, Nat.add_right_comm offset, Nat.add_assoc offset]

theorem varintFrom_spent (high : ∀ b ∈ bs, 128 ≤ b.toNat) (value scale offset : Nat)
    (rest : Octets) : Reader.varintFrom bs.length value scale ⟨offset, bs ++ rest⟩ =
      .error (.varintTooLong (offset + bs.length)) ⟨offset + bs.length, rest⟩ := by
  induction bs generalizing value scale offset with
  | nil => rfl
  | cons b bs ih =>
      obtain ⟨first, later⟩ := List.forall_mem_cons.1 high
      rw [List.length_cons, List.cons_append, varintFrom_cons, if_neg (Nat.not_lt.2 first),
        ih later, Nat.add_right_comm offset, Nat.add_assoc offset]

/-- How octets begin where a number of at most `budget` octets is to be read. -/
inductive Begins (budget : Nat) (bs : Octets) : Prop
  | spelled {taken rest : Octets} {n : Nat} : bs = taken ++ rest → taken.length ≤ budget →
      Spells taken n → Begins budget bs
  | cutOff : bs.length < budget → (∀ b ∈ bs, 128 ≤ b.toNat) → Begins budget bs
  | spent {taken rest : Octets} : bs = taken ++ rest → taken.length = budget →
      (∀ b ∈ taken, 128 ≤ b.toNat) → Begins budget bs

theorem begins (budget : Nat) (bs : Octets) : Begins budget bs := by
  induction budget generalizing bs with
  | zero => exact .spent (List.nil_append bs).symm rfl nofun
  | succ budget ih =>
      cases bs with
      | nil => exact .cutOff (Nat.succ_pos budget) nofun
      | cons b bs =>
          by_cases digit : b.toNat < 128
          · exact .spelled List.singleton_append.symm (Nat.succ_le_succ (Nat.zero_le budget))
              (.last digit)
          have high := Nat.le_of_not_lt digit
          rcases ih bs with ⟨rfl, fits, later⟩ | ⟨short, later⟩ | ⟨rfl, size, later⟩
          · exact .spelled (List.cons_append ..).symm (Nat.succ_le_succ fits) (.more high later)
          · exact .cutOff (Nat.succ_lt_succ short) (List.forall_mem_cons.2 ⟨high, later⟩)
          · exact .spent (List.cons_append ..).symm (congrArg Nat.succ size)
              (List.forall_mem_cons.2 ⟨high, later⟩)

/-- A number is read where one is spelled that is small enough, from octets that are not too many. -/
theorem varint_eq_ok_iff {d : Cursor} : Reader.varint ⟨offset, bs⟩ = .ok n d ↔
    ∃ taken, bs = taken ++ d.rest ∧ d.offset = offset + taken.length ∧ taken.length ≤ 10 ∧
      Spells taken n ∧ n < varintBound := by
  constructor
  · intro read
    unfold Reader.varint at read
    rcases begins 10 bs with ⟨rfl, fits, spelled⟩ | ⟨short, high⟩ | ⟨rfl, size, high⟩
    · rw [spelled.read fits, Nat.zero_add, Nat.mul_one] at read
      split at read
      · next small =>
        cases read
        exact ⟨_, rfl, rfl, fits, spelled, small⟩
      · cases read
    · rw [varintFrom_cutOff high short] at read
      cases read
    · rw [← size, varintFrom_spent high] at read
      cases read
  · rintro ⟨taken, rfl, place, fits, spelled, small⟩
    rw [Reader.varint, spelled.read fits, Nat.zero_add, Nat.mul_one, if_pos small, ← place]

/-- Where no number is read, the octets ended inside one, or it was too long or too large. -/
theorem varint_eq_error {fault : DecodeFault} {d : Cursor}
    (h : Reader.varint ⟨offset, bs⟩ = .error fault d) :
    fault = .varintTooLong d.offset ∨ fault = .endOfMessage 1 0 d.offset ∧ d.rest = [] ∧
      bs.length < 10 ∧ ∀ b ∈ bs, 128 ≤ b.toNat := by
  unfold Reader.varint at h
  rcases begins 10 bs with ⟨rfl, fits, spelled⟩ | ⟨short, high⟩ | ⟨rfl, size, high⟩
  · rw [spelled.read fits] at h
    split at h
    · cases h
    · cases h
      exact .inl rfl
  · rw [varintFrom_cutOff high short] at h
    cases h
    exact .inr ⟨rfl, rfl, short, high⟩
  · rw [← size, varintFrom_spent high] at h
    cases h
    exact .inl rfl

/-! Numbers as sums of their groups. -/

/-- Whether more octets of the number follow. -/
def Continues (b : UInt8) : Prop := b.toNat.testBit 7 = true

theorem continues_iff (b : UInt8) : Continues b ↔ 128 ≤ b.toNat := by
  have octet := b.toNat_lt
  rw [Continues, Nat.testBit_eq_decide_div_mod_eq, decide_eq_true_eq]
  omega

/-- The groups of seven bits of all octets as one number. -/
def groupSum (bs : Octets) : Nat :=
  ((bs.map fun b => b.toNat % 128).mapIdx fun i group => group * 128 ^ i).sum

theorem groupSum_cons (b : UInt8) (bs : Octets) :
    groupSum (b :: bs) = b.toNat % 128 + groupSum bs * 128 := by
  unfold groupSum
  rw [← Nat.ofDigits_eq_sum_mapIdx, ← Nat.ofDigits_eq_sum_mapIdx, List.map_cons,
    Nat.ofDigits_cons, Nat.mul_comm]

/-- One number, as long and as large as it may be. -/
structure IsNumber (bs : Octets) (n : Nat) : Prop where
  few : bs.length ≤ 10
  ends : ∃ front last, bs = front ++ [last] ∧ (∀ b ∈ front, Continues b) ∧ ¬ Continues last
  value : n = groupSum bs
  small : n < 2 ^ 64

theorem spells_iff : Spells bs n ↔ n = groupSum bs ∧
    ∃ front last, bs = front ++ [last] ∧ (∀ b ∈ front, Continues b) ∧ ¬ Continues last := by
  constructor
  · intro h
    induction h with
    | @last b digit =>
        refine ⟨?_, [], b, rfl, nofun, ?_⟩
        · rw [groupSum_cons, Nat.mod_eq_of_lt digit]
          rfl
        · rw [continues_iff]
          exact Nat.not_le.2 digit
    | @more b bs n high _ ih =>
        obtain ⟨sum, front, last, rfl, continued, ends⟩ := ih
        refine ⟨?_, b :: front, last, rfl, ?_, ends⟩
        · rw [groupSum_cons, ← sum]
        · exact List.forall_mem_cons.2 ⟨(continues_iff b).2 high, continued⟩
  · rintro ⟨rfl, front, last, rfl, continued, ends⟩
    induction front with
    | nil =>
        have digit : last.toNat < 128 := by rwa [continues_iff, Nat.not_le] at ends
        have value : groupSum [last] = last.toNat := by
          rw [groupSum_cons, Nat.mod_eq_of_lt digit]
          rfl
        rw [List.nil_append, value]
        exact .last digit
    | cons b front ih =>
        obtain ⟨first, later⟩ := List.forall_mem_cons.1 continued
        rw [List.cons_append, groupSum_cons]
        exact .more ((continues_iff b).1 first) (ih later)

theorem isNumber_iff : IsNumber bs n ↔ bs.length ≤ 10 ∧ Spells bs n ∧ n < varintBound := by
  have bound : varintBound = 2 ^ 64 := by decide
  rw [bound, spells_iff]
  constructor
  · rintro ⟨few, ends, value, small⟩
    exact ⟨few, ⟨value, ends⟩, small⟩
  · rintro ⟨few, ⟨value, ends⟩, small⟩
    exact ⟨few, ends, value, small⟩

/-- An integer is written exactly if it is in range, in one to ten octets, and nothing is written of
any other. A number is read exactly from octets that begin with one, and is their groups' sum; other
octets end too early, or spell a number that is too long or too large. What was written is read back
in front of any octets, and no fewer octets, nor as many others, are read to the same number. -/
theorem varint_exact :
    (∀ v : Int, write (.varint (.int v)) =
      if 0 ≤ v ∧ v < 2 ^ 64 then ⟨varint v.toNat, none⟩ else ⟨[], some (.outOfRange v)⟩) ∧
    (∀ n < 2 ^ 64, 1 ≤ (varint n).length ∧ (varint n).length ≤ 10) ∧
    (∀ offset bs n d, Reader.varint ⟨offset, bs⟩ = .ok n d ↔
      ∃ taken, bs = taken ++ d.rest ∧ d.offset = offset + taken.length ∧ IsNumber taken n) ∧
    (∀ offset bs, (¬ ∃ taken rest n, bs = taken ++ rest ∧ IsNumber taken n) ↔
      ∃ d, Reader.varint ⟨offset, bs⟩ = .error (.varintTooLong d.offset) d ∨
        Reader.varint ⟨offset, bs⟩ = .error (.endOfMessage 1 0 d.offset) d ∧ d.rest = [] ∧
          bs.length < 10 ∧ ∀ b ∈ bs, Continues b) ∧
    (∀ n < 2 ^ 64, ∀ offset rest, Reader.varint ⟨offset, varint n ++ rest⟩ =
      .ok n ⟨offset + (varint n).length, rest⟩) ∧
    ∀ offset bs n d, Reader.varint ⟨offset, bs⟩ = .ok n d →
      bs = varint n ∨ (varint n).length < bs.length := by
  have bound : varintBound = 2 ^ 64 := by decide
  have reads (offset bs n d) : Reader.varint ⟨offset, bs⟩ = .ok n d ↔
      ∃ taken, bs = taken ++ d.rest ∧ d.offset = offset + taken.length ∧ IsNumber taken n := by
    simp only [varint_eq_ok_iff, isNumber_iff]
  refine ⟨fun v => ?_, fun n small => ⟨?_, ?_⟩, reads, fun offset bs => ⟨?_, ?_⟩, ?_, ?_⟩
  · rw [write]
    exact writeInteger_eq v
  · exact List.length_pos_iff.2 (varint_ne_nil n)
  · exact length_varint_le (by decide) (Nat.lt_trans small (by decide))
  · intro none
    cases read : Reader.varint ⟨offset, bs⟩ with
    | ok n d =>
        obtain ⟨taken, parts, _, number⟩ := (reads offset bs n d).1 read
        exact absurd ⟨taken, d.rest, n, parts, number⟩ none
    | error fault d =>
        refine ⟨d, ?_⟩
        rcases varint_eq_error read with rfl | ⟨rfl, empty, short, high⟩
        · exact .inl rfl
        · exact .inr ⟨rfl, empty, short, fun b member => (continues_iff b).2 (high b member)⟩
  · rintro ⟨d, failed⟩ ⟨taken, rest, n, parts, number⟩
    have read := (reads offset bs n ⟨offset + taken.length, rest⟩).2 ⟨taken, parts, rfl, number⟩
    rcases failed with tooLong | ⟨cutOff, _⟩
    · cases read.symm.trans tooLong
    · cases read.symm.trans cutOff
  · intro n small offset rest
    exact varint_eq_ok_iff.2 ⟨_, rfl, rfl, length_varint_le (by decide)
      (Nat.lt_trans small (by decide)), spells_varint n, bound ▸ small⟩
  · intro offset bs n d read
    obtain ⟨taken, rfl, _, _, spelled, _⟩ := varint_eq_ok_iff.1 read
    rw [List.length_append]
    rcases spelled.shortest with rfl | shorter
    · cases d.rest with
      | nil => exact .inl (List.append_nil _)
      | cons b rest => exact .inr (Nat.lt_add_of_pos_right (Nat.succ_pos _))
    · exact .inr (Nat.lt_add_right _ shorter)

/-- The largest number fills ten octets, with a single bit in the last. -/
example : varint (2 ^ 64 - 1) = List.replicate 9 255 ++ [1] := by decide +kernel

/-- A zero that is read from more octets than it is written in. -/
example : Reader.varint ⟨0, [128, 0, 7]⟩ = .ok 0 ⟨2, [7]⟩ := rfl

end ContentTracker.Wire
