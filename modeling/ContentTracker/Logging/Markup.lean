/-!
Style tags in messages: a bracketed word such as `[red]`, or its closing form `[/red]`. They colour
the console, and are left out of files.
-/

namespace ContentTracker.Logging.Markup

/-- The characters that the name of a tag begins with. Anything else in brackets is text. -/
def opensName (c : Char) : Bool := c = '#' || ('a' ≤ c && c ≤ 'z')

/-- The text behind the name of a tag and its closing bracket. -/
def behindName? : List Char → Option (List Char)
  | [] => none
  | c :: rest => if opensName c then ((rest.dropWhile (· ≠ ']')).tail?) else none

/-- The text behind a tag whose opening bracket has been read. -/
def behindTag? : List Char → Option (List Char)
  | '/' :: rest => behindName? rest
  | cs => behindName? cs

theorem length_behindName {cs behind : List Char} (h : behindName? cs = some behind) :
    behind.length < cs.length := by
  match cs with
  | [] => simp [behindName?] at h
  | c :: rest =>
    simp only [behindName?] at h
    split at h
    · have shorter := (List.dropWhile_sublist (· ≠ ']') (l := rest)).length_le
      generalize rest.dropWhile (· ≠ ']') = left at h shorter
      match left, h with
      | _ :: _, rfl => simp only [List.length_cons] at shorter ⊢; omega
    · simp at h

/-- A tag takes up room, so what stands behind it is shorter. -/
theorem length_behindTag {cs behind : List Char} (h : behindTag? cs = some behind) :
    behind.length < cs.length := by
  unfold behindTag? at h
  split at h
  · exact Nat.lt_succ_of_lt (length_behindName h)
  · exact length_behindName h

/-- The text without its tags. -/
def stripChars (cs : List Char) : List Char :=
  match cs with
  | [] => []
  | '[' :: rest =>
    match _h : behindTag? rest with
    | some behind => stripChars behind
    | none => '[' :: stripChars rest
  | c :: rest => c :: stripChars rest
termination_by cs.length
decreasing_by
  · have := length_behindTag _h
    simp only [List.length_cons]
    omega
  · simp
  · simp

def strip (text : String) : String := String.ofList (stripChars text.toList)

end ContentTracker.Logging.Markup
