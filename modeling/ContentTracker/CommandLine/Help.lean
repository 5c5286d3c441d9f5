import ContentTracker.CommandLine.Command
import ContentTracker.CommandLine.Similar
import ContentTracker.Console.Layout
import ContentTracker.Text.Quoted

/-!
Help pages, and what is said about arguments that make no sense.
-/

namespace ContentTracker.CommandLine

/-- The columns of a help page. -/
def pageWidth : Nat := 80

def blanks (n : Nat) : String := String.ofList (List.replicate n ' ')

/-- Puts words on lines of at most `width` characters. Blanks between two words are kept unless the
line ends there. -/
def fillWords (width : Nat) (line : List Char) : List (List Char) → List (List Char)
  | [] => [line]
  | word :: rest =>
    let body := word.takeWhile (· ≠ ' ')
    let blanks := word.drop body.length
    if line.isEmpty then fillWords width word rest
    else if line.length + body.length ≤ width then fillWords width (line ++ body ++ blanks) rest
    else line :: fillWords width word rest

/-- A paragraph as lines. -/
def fill (width : Nat) (text : String) : List String :=
  (fillWords width [] (Console.words text.toList)).map fun line =>
    String.ofList ((line.reverse.dropWhile (· = ' ')).reverse)

/-- Terms with an explanation each, in two columns. -/
def definitions (entries : List (String × String)) : String :=
  let first := (entries.map (·.1.length)).foldl max 0 + 2
  let rows := entries.map fun (term, text) =>
    let lines := fill (pageWidth - first - 2) text
    blanks 2 ++ term ++ blanks (first - term.length) ++
      ("\n" ++ blanks (first + 2)).intercalate lines ++ "\n"
  String.join rows

namespace Command

def usage (c : Command) : String := s!"Usage: {c.path} {c.operands}\n"

def aboutText (c : Command) : String :=
  "\n".intercalate (c.about.map fun paragraph =>
    String.join ((fill (pageWidth - 2) paragraph).map fun line => blanks 2 ++ line ++ "\n"))

/-- The subcommands with the first paragraph about each. -/
def commandList (c : Command) : String :=
  if c.mixed then ""
  else "\nCommands:\n" ++ definitions (subcommands.map fun (name, c) => (name, c.about.headD ""))

def helpPage (c : Command) : String :=
  c.usage ++ "\n" ++ c.aboutText ++ "\nOptions:\n" ++
    definitions (c.switches.map fun s => (s.term, s.help)) ++ c.commandList

end Command

/-- Why arguments make no sense. -/
inductive Misuse
  | unknownOption (name : String) (alike : List String)
  | needsValue (name : String)
  | takesNoValue (name : String)
  | unknownCommand (name : String) (alike : List String)
  | missingCommand
  | missingOperand (name : String)
  | extraOperands (operands : List String)
  /-- A value that does not fit the option or the operand that the hint names. -/
  | badValue (hint reason : String)
  | noTracker
deriving Repr, DecidableEq

namespace Misuse

/-- Words that may have been meant, which stand in the order of the alphabet. -/
def suggestion (alike : List String) : String :=
  match alike.mergeSort (fun a b => a ≤ b) with
  | [] => ""
  | [one] => s!" Did you mean '{one}'?"
  | many => " (Did you mean one of: " ++ ", ".intercalate (many.map fun m => s!"'{m}'") ++ "?)"

def message : Misuse → String
  | .unknownOption name alike => s!"No such option {Text.quoted name}." ++ suggestion alike
  | .needsValue name => s!"Option {Text.quoted name} requires an argument."
  | .takesNoValue name => s!"Option {Text.quoted name} does not take a value."
  | .unknownCommand name alike => s!"No such command {Text.quoted name}." ++ suggestion alike
  | .missingCommand => "Missing command."
  | .missingOperand name => s!"Missing argument '{name}'."
  | .extraOperands operands =>
    (if operands.length = 1 then "Got unexpected extra argument ("
      else "Got unexpected extra arguments (") ++ " ".intercalate operands ++ ")"
  | .badValue hint reason => s!"Invalid value for {hint}: {reason}"
  | .noTracker => "No --tracker given and tracker.default_tracker is not configured"

/-- Whether the usage of the command is shown with the message. -/
def showsUsage : Misuse → Bool
  | .needsValue _ | .takesNoValue _ => false
  | _ => true

/-- What is printed about a misuse of a command. -/
def report (c : Command) (m : Misuse) : String :=
  (if m.showsUsage then c.usage ++ s!"Try '{c.path} --help' for help.\n\n" else "") ++
    s!"Error: {m.message}\n"

end Misuse

end ContentTracker.CommandLine
