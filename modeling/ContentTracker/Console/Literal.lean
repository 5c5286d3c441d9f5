import ContentTracker.Console.Layout

/-!
Texts of unknown origin between style tags. Backslashes keep what looks like a tag in such a text from
being taken for one.
-/

namespace ContentTracker.Console

/-- Whether a style tag begins behind an opening bracket. -/
def beginsTag : List Char → Bool
  | [] => false
  | c :: rest =>
    (c = '#' || c = '/' || c = '@' || ('a' ≤ c && c ≤ 'z')) &&
      (rest.dropWhile fun c => c ≠ ']' && c ≠ '[').head? = some ']'

/-- A backslash right before a bracket that begins no tag is dropped. -/
def dropBackslashes : List Char → List Char
  | [] => []
  | '\\' :: '[' :: rest =>
    if beginsTag rest then '\\' :: '[' :: dropBackslashes rest else '[' :: dropBackslashes rest
  | c :: rest => c :: dropBackslashes rest

/-- What the console shows of a text right before a closing tag. Two or more backslashes at its end
count in pairs, each pair for one, and a last one makes the closing tag part of the text. -/
def literal (text closing : String) : String :=
  let cs := text.toList
  let tail := (cs.reverse.takeWhile (· = '\\')).length
  let shown := dropBackslashes (cs.take (cs.length - tail))
  if tail ≤ 1 then String.ofList (shown ++ List.replicate tail '\\')
  else String.ofList (shown ++ List.replicate (tail / 2) '\\') ++ (if tail % 2 = 1 then closing else "")

end ContentTracker.Console
