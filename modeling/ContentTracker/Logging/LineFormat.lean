import ContentTracker.Logging.Markup
import ContentTracker.Logging.Record
import ContentTracker.Text.Word

/-!
Records as lines of text, laid out by a template that names their parts.
-/

namespace ContentTracker.Logging

/-- The layout of a line. -/
structure LineFormat where
  template : String
deriving Repr, DecidableEq

namespace LineFormat

def isFlag (c : Char) : Bool := ['#', '0', '+', ' ', '-'].contains c

def isPlaceLetter (c : Char) : Bool := "diouxefgcrsa%".toList.contains c.toLower

/-- What is left behind a count: a star, or digits. -/
def behindCount? : List Char → Option (List Char)
  | '*' :: rest => some rest
  | cs =>
    let rest := cs.dropWhile fun c => (Text.digitValue? c).isSome
    if rest.length < cs.length then some rest else none

/-- Whether a text begins with a place for a named part. -/
def beginsPlace : List Char → Bool
  | '%' :: '(' :: rest =>
    let name := rest.takeWhile Text.isWord
    match name, rest.drop name.length with
    | _ :: _, ')' :: rest =>
      let rest := rest.dropWhile isFlag
      let rest := (behindCount? rest).getD rest
      let rest := match rest with
        | '.' :: digits => (behindCount? digits).getD rest
        | rest => rest
      match rest with
      | c :: _ => isPlaceLetter c
      | [] => false
    | _, _ => false
  | _ => false

def hasPlace : List Char → Bool
  | [] => false
  | c :: rest => beginsPlace (c :: rest) || hasPlace rest

/-- A layout must name a part. The empty text stands for the bare message. -/
def ofText (text : String) : Except Problem LineFormat :=
  let template := if text = "" then "%(message)s" else text
  if hasPlace template.toList then .ok ⟨template⟩
  else .error (.badValue s!"Invalid format '{template}' for '%' style")

/-- The layout of log files that are not structured. -/
def simple : LineFormat :=
  ⟨"%(asctime)s %(levelname)s [%(correlation_id)s] %(name)s.%(funcName)s: %(message)s"⟩

/-- A line with what is told about a problem, which begins a line of its own. -/
def withTrace (line : String) (trace : Option String) : String :=
  match trace with
  | none => line
  | some t => if line.toList.getLast? = some '\n' then line ++ t else line ++ "\n" ++ t

/-- The line of a record, without style tags. -/
def line (f : LineFormat) (r : Record) : Except Problem String := do
  let text ← r.message
  let attributes := r.attributes.put "message" (.text text)
  let line ← match Template.render f.template ⟨[.dict attributes], some attributes⟩ with
    | .error (.missingKey name) =>
      throw (.badValue s!"Formatting field not found in record: {name}")
    | r => r
  return Markup.strip (withTrace line r.trace)

end LineFormat

end ContentTracker.Logging
