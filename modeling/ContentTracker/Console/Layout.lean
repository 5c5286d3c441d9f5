import ContentTracker.Text.Blank
import ContentTracker.Text.Cells

/-!
Text on a terminal: lines are broken before words that no longer fit, and words longer than a line are
cut.
-/

namespace ContentTracker.Console

/-- The cells of a terminal line. -/
def lineWidth : Nat := 80

open Text

/-- A word with the blanks behind it, and what follows. Blanks in front belong to it as well. Nothing
if there are only blanks. -/
def nextWord? (cs : List Char) : Option (List Char × List Char) :=
  let front := cs.takeWhile isBlank
  let rest := cs.drop front.length
  let word := rest.takeWhile (!isBlank ·)
  let rest := rest.drop word.length
  let back := rest.takeWhile isBlank
  if word.isEmpty then none else some (front ++ word ++ back, rest.drop back.length)

theorem length_nextWord {cs word rest : List Char} (h : nextWord? cs = some (word, rest)) :
    rest.length < cs.length := by
  simp only [nextWord?] at h
  split at h
  · simp at h
  · rename_i hword
    simp only [Option.some.injEq, Prod.mk.injEq] at h
    obtain ⟨_, rfl⟩ := h
    have hpos := List.length_pos_iff.2 (fun h => hword (List.isEmpty_iff.2 h))
    simp only [List.length_drop]
    have := (List.takeWhile_sublist (!isBlank ·) (l := cs.drop (cs.takeWhile isBlank).length)).length_le
    simp only [List.length_drop] at this
    omega

/-- The words of a line. -/
def words (cs : List Char) : List (List Char) :=
  match _h : nextWord? cs with
  | none => []
  | some (word, rest) => word :: words rest
termination_by cs.length
decreasing_by exact length_nextWord _h

/-- Cuts a word into pieces of at most `width` cells. -/
def chop (width : Nat) (piece : List Char) (used : Nat) : List Char → List (List Char)
  | [] => [piece.reverse]
  | c :: rest =>
    if width < used + cells c then piece.reverse :: chop width [c] (cells c) rest
    else chop width (c :: piece) (used + cells c) rest

/-- Lines being filled: the full ones, the latest first, the line under way, and its cells. -/
structure Filling where
  full : List (List Char) := []
  line : List Char := []
  used : Nat := 0
  started : Bool := false

namespace Filling

def lines (f : Filling) : List (List Char) := (f.line :: f.full).reverse

/-- Goes on in a new line, unless nothing was put down yet. -/
def turn (f : Filling) (line : List Char) : Filling :=
  { full := if f.started then f.line :: f.full else f.full
    line := line, used := cellsOf line, started := true }

/-- Puts down a word. -/
def add (width : Nat) (f : Filling) (word : List Char) : Filling :=
  let size := cellsOf ((word.reverse.dropWhile isBlank).reverse)
  if f.used + size ≤ width then
    { f with line := f.line ++ word, used := f.used + cellsOf word, started := true }
  else if width < size then (chop width [] 0 word).foldl turn f
  else if f.used ≠ 0 && f.started then f.turn word
  else { f with line := f.line ++ word, started := true }

end Filling

/-- Drops blanks from the end of a line as far as it is too long. -/
def dropExcess (width : Nat) (line : List Char) : List Char :=
  let blanks := (line.reverse.takeWhile isBlank).length
  line.take (line.length - min blanks (line.length - width))

/-- The beginning of a line that fills `width` cells. A wide character that would stand across the end
becomes a blank. -/
def crop : (width : Nat) → List Char → List Char
  | _, [] => []
  | width, c :: rest =>
    if cells c ≤ width then c :: crop (width - cells c) rest
    else if width = 0 then [] else [' ']

/-- Replaces tabs by blanks up to the next multiple of eight. -/
def expandTabs (used : Nat) : List Char → List Char
  | [] => []
  | '\t' :: rest =>
    let blanks := 8 - used % 8
    List.replicate blanks ' ' ++ expandTabs (used + blanks) rest
  | c :: rest => c :: expandTabs (used + cells c) rest

/-- The lines of the terminal that one line of text takes. -/
def wrapLine (width : Nat) (line : List Char) : List (List Char) :=
  let line := expandTabs 0 line
  let filled := match words line with
    | [] => [line]
    | ws => (ws.foldl (Filling.add width) {}).lines
  filled.map fun line => crop width (dropExcess width line)

def splitLines : List Char → List (List Char)
  | [] => [[]]
  | c :: rest =>
    if c = '\n' then [] :: splitLines rest
    else match splitLines rest with
      | [] => [[c]]
      | line :: others => (c :: line) :: others

/-- Characters that would move the cursor. -/
def movesCursor (c : Char) : Bool := [7, 8, 11, 12, 13].contains c.toNat

/-- The lines of the terminal that a text takes. -/
def wrap (width : Nat) (text : String) : List String :=
  ((splitLines (text.toList.filter (!movesCursor ·))).flatMap (wrapLine width)).map String.ofList

/-- A text as it is printed. -/
def print (text : String) : String :=
  String.join ((wrap lineWidth text).map (· ++ "\n"))

end ContentTracker.Console
