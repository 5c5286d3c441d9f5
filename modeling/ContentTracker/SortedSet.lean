import ContentTracker.Octets

/-!
Finite sets kept as rising lists: two sets with the same members are the same value.
-/

namespace ContentTracker

/-- A strict total order that can be decided. -/
class Ranked (α : Type) where
  before : α → α → Bool
  irrefl : ∀ a, before a a = false
  trans : ∀ a b c, before a b = true → before b c = true → before a c = true
  total : ∀ a b, before a b = false → before b a = false → a = b

export Ranked (before)

/-- Octet strings in dictionary order. -/
def Octets.before : Octets → Octets → Bool
  | _, [] => false
  | [], _ :: _ => true
  | a :: as, b :: bs => a < b || (a == b && Octets.before as bs)

theorem Octets.before_irrefl (as : Octets) : Octets.before as as = false := by
  induction as with
  | nil => rfl
  | cons a as ih => simp [Octets.before, ih]

theorem Octets.before_trans (as bs cs : Octets) (h : Octets.before as bs = true)
    (k : Octets.before bs cs = true) : Octets.before as cs = true := by
  induction as generalizing bs cs with
  | nil => cases bs <;> cases cs <;> simp_all [Octets.before]
  | cons a as ih =>
    cases bs with
    | nil => simp [Octets.before] at h
    | cons b bs =>
      cases cs with
      | nil => simp [Octets.before] at k
      | cons c cs =>
        simp only [Octets.before, Bool.or_eq_true, Bool.and_eq_true, decide_eq_true_eq,
          beq_iff_eq] at h k ⊢
        rcases h with h | ⟨rfl, h⟩
        · rcases k with k | ⟨rfl, _⟩
          · exact .inl (UInt8.lt_trans h k)
          · exact .inl h
        · rcases k with k | ⟨rfl, k⟩
          · exact .inl k
          · exact .inr ⟨rfl, ih _ _ h k⟩

theorem Octets.before_total (as bs : Octets) (h : Octets.before as bs = false)
    (k : Octets.before bs as = false) : as = bs := by
  induction as generalizing bs with
  | nil => cases bs <;> simp_all [Octets.before]
  | cons a as ih =>
    cases bs with
    | nil => simp [Octets.before] at k
    | cons b bs =>
      simp only [Octets.before, Bool.or_eq_false_iff, Bool.and_eq_false_imp, decide_eq_false_iff_not,
        beq_iff_eq] at h k
      have hab : a = b := UInt8.le_antisymm (UInt8.not_lt.1 k.1) (UInt8.not_lt.1 h.1)
      subst hab
      rw [ih bs (h.2 rfl) (k.2 rfl)]

instance : Ranked Octets where
  before := Octets.before
  irrefl := Octets.before_irrefl
  trans := Octets.before_trans
  total := Octets.before_total

/-- Values ordered by an octet string that tells them apart. -/
abbrev Ranked.byKey {α : Type} (key : α → Octets) (key_injective : ∀ a b, key a = key b → a = b) :
    Ranked α where
  before a b := Octets.before (key a) (key b)
  irrefl a := Octets.before_irrefl (key a)
  trans a b c := Octets.before_trans (key a) (key b) (key c)
  total a b h k := key_injective a b (Octets.before_total _ _ h k)

/-- A finite set as the rising list of its members. -/
structure SortedSet (α : Type) [Ranked α] where
  members : List α
  rising : members.Pairwise fun a b => before a b = true

namespace SortedSet

variable {α : Type} [Ranked α]

/-- Puts a value at its place in a rising list, unless it is there already. -/
def insertRising (a : α) : List α → List α
  | [] => [a]
  | b :: rest =>
    if before a b then a :: b :: rest
    else if before b a then b :: insertRising a rest
    else b :: rest

theorem mem_insertRising {a x : α} {xs : List α} :
    x ∈ insertRising a xs ↔ x = a ∨ x ∈ xs := by
  induction xs with
  | nil => simp [insertRising]
  | cons b rest ih =>
    simp only [insertRising]
    split
    · simp
    · split
      · simp only [List.mem_cons, ih]
        constructor <;> (rintro (h | h | h) <;> simp_all)
      · next h k =>
        have := Ranked.total a b (by simpa using h) (by simpa using k)
        simp_all

theorem rising_insertRising {a : α} {xs : List α}
    (h : xs.Pairwise fun a b => before a b = true) :
    (insertRising a xs).Pairwise fun a b => before a b = true := by
  induction xs with
  | nil => simp [insertRising]
  | cons b rest ih =>
    simp only [insertRising]
    rw [List.pairwise_cons] at h
    split
    · next hab =>
      refine List.pairwise_cons.2 ⟨fun x hx => ?_, List.pairwise_cons.2 h⟩
      rcases List.mem_cons.1 hx with rfl | hx
      · exact hab
      · exact Ranked.trans _ _ _ hab (h.1 x hx)
    · split
      · next hba =>
        refine List.pairwise_cons.2 ⟨fun x hx => ?_, ih h.2⟩
        rcases mem_insertRising.1 hx with rfl | hx
        · exact hba
        · exact h.1 x hx
      · exact List.pairwise_cons.2 h

def empty : SortedSet α := ⟨[], List.Pairwise.nil⟩

def insert (s : SortedSet α) (a : α) : SortedSet α :=
  ⟨insertRising a s.members, rising_insertRising s.rising⟩

/-- The set of the members of a list. -/
def ofList (xs : List α) : SortedSet α := xs.foldl insert empty

instance : Membership α (SortedSet α) := ⟨fun s a => a ∈ s.members⟩

theorem mem_def {s : SortedSet α} {a : α} : a ∈ s ↔ a ∈ s.members := Iff.rfl

theorem mem_insert {s : SortedSet α} {a x : α} : x ∈ s.insert a ↔ x = a ∨ x ∈ s :=
  mem_insertRising

theorem mem_ofList {xs : List α} {x : α} : x ∈ ofList xs ↔ x ∈ xs := by
  have general : ∀ (xs : List α) (s : SortedSet α), x ∈ xs.foldl insert s ↔ x ∈ xs ∨ x ∈ s := by
    intro xs
    induction xs with
    | nil => simp
    | cons y ys ih =>
      intro s
      rw [List.foldl_cons, ih, mem_insert, List.mem_cons]
      constructor
      · rintro (h | h | h) <;> simp_all
      · rintro ((h | h) | h) <;> simp_all
  have hempty : ¬ x ∈ (empty : SortedSet α) := by simp [mem_def, empty]
  simp [ofList, general, hempty]

theorem rising_unique {as bs : List α} (has : as.Pairwise fun a b => before a b = true)
    (hbs : bs.Pairwise fun a b => before a b = true) (same : ∀ x, x ∈ as ↔ x ∈ bs) : as = bs := by
  induction as generalizing bs with
  | nil =>
    cases bs with
    | nil => rfl
    | cons b bs => exact absurd ((same b).2 (by simp)) (by simp)
  | cons a as ih =>
    cases bs with
    | nil => exact absurd ((same a).1 (by simp)) (by simp)
    | cons b bs =>
      rw [List.pairwise_cons] at has hbs
      have never (x : α) (h : before x x = true) : False := by simp [Ranked.irrefl] at h
      have head : a = b := by
        rcases List.mem_cons.1 ((same a).1 (by simp)) with h | later
        · exact h
        · rcases List.mem_cons.1 ((same b).2 (by simp)) with h | earlier
          · exact h.symm
          · exact (never a (Ranked.trans _ _ _ (has.1 b earlier) (hbs.1 a later))).elim
      subst head
      congr 1
      refine ih has.2 hbs.2 fun x => ⟨fun h => ?_, fun h => ?_⟩
      · rcases List.mem_cons.1 ((same x).1 (List.mem_cons_of_mem a h)) with rfl | h'
        · exact (never x (has.1 x h)).elim
        · exact h'
      · rcases List.mem_cons.1 ((same x).2 (List.mem_cons_of_mem a h)) with rfl | h'
        · exact (never x (hbs.1 x h)).elim
        · exact h'

/-- Sets with the same members are equal. -/
theorem eq_of_mem {s t : SortedSet α} (same : ∀ x, x ∈ s ↔ x ∈ t) : s = t := by
  obtain ⟨as, has⟩ := s
  obtain ⟨bs, hbs⟩ := t
  have members : as = bs := rising_unique has hbs same
  subst members
  rfl

theorem nodup_members (s : SortedSet α) : s.members.Nodup :=
  s.rising.imp fun {a b} rising same => by
    rw [same, Ranked.irrefl] at rising
    cases rising

theorem ofList_members (s : SortedSet α) : ofList s.members = s :=
  eq_of_mem fun _ => mem_ofList

end SortedSet

end ContentTracker
