/-!
Words that resemble a misspelt one: how much of two words agrees, and the best few of a list.
-/

namespace ContentTracker.CommandLine

/-- How many characters two words have in common at their beginnings. -/
def commonStart : List Char → List Char → Nat
  | a :: as, b :: bs => if a = b then commonStart as bs + 1 else 0
  | _, _ => 0

/-- A stretch that two words share, by its positions in both and its length. -/
structure Shared where
  first : Nat := 0
  second : Nat := 0
  length : Nat := 0
deriving Repr, DecidableEq

/-- The longest shared stretch; of several the first in the first word, then in the second. -/
def longestShared (a b : List Char) : Shared :=
  (List.range a.length).foldl (fun best i =>
    (List.range b.length).foldl (fun best j =>
      let n := commonStart (a.drop i) (b.drop j)
      if best.length < n then ⟨i, j, n⟩ else best) best) {}

/-- How many characters agree: those of the longest shared stretch, and those that agree on either
side of it. -/
def agreement (a b : List Char) : Nat :=
  match longestShared a b with
  | ⟨i, j, n⟩ =>
    if _h : 0 < n ∧ i + n ≤ a.length then
      agreement (a.take i) (b.take j) + n + agreement (a.drop (i + n)) (b.drop (j + n))
    else 0
termination_by a.length
decreasing_by
  · simp only [List.length_take]; omega
  · simp only [List.length_drop]; omega

/-- How much of two words agrees: a part and the whole. -/
structure Likeness where
  part : Nat
  whole : Nat
deriving Repr, DecidableEq

def Likeness.of (a b : String) : Likeness :=
  ⟨2 * agreement a.toList b.toList, a.length + b.length⟩

/-- Three fifths or more. -/
def Likeness.isClose (l : Likeness) : Bool := 3 * l.whole ≤ 5 * l.part

def Likeness.lt (l m : Likeness) : Bool := l.part * m.whole < m.part * l.whole

/-- The candidates that are close to a word, at most three, the most alike first. Of two that are
equally alike the later in the alphabet comes first. -/
def similar (word : String) (candidates : List String) : List String :=
  let close := (candidates.map fun c => (Likeness.of c word, c)).filter fun e => e.1.isClose
  let before (x y : Likeness × String) : Bool :=
    y.1.lt x.1 || (!x.1.lt y.1 && !decide (x.2 < y.2))
  ((close.mergeSort before).take 3).map (·.2)

end ContentTracker.CommandLine
