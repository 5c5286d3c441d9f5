import ContentTracker.CommandLine.Reading
import ContentTracker.DialAddress
import ContentTracker.Settings.Disk

/-!
What the command line is asked to do, read from arguments that have been taken apart.
-/

namespace ContentTracker.CommandLine

/-- What the options of a subcommand ask for. -/
structure Choices where
  tracker : Option PeerId := none
  trackerAddresses : List String := []
  host : Option PeerId := none
  bindPort : Option Int := none
  incomplete : Bool := false
  verified : Bool := false

def parseNode (hint text : String) : Except Misuse PeerId :=
  (PeerId.parse text).mapError fun fault =>
    .badValue hint s!"{Text.quoted text} is not a valid node id: {PeerId.faultMessage fault}"

/-- Reads a port; zero asks for any. -/
def parsePort (hint text : String) : Except Misuse Int :=
  match Numeral.readInt text with
  | .error _ => .error (.badValue hint s!"{Text.quoted text} is not a valid integer range.")
  | .ok n =>
    if 0 ≤ n ∧ n ≤ 65535 then .ok n
    else .error (.badValue hint s!"{n} is not in the range {portRange}.")

def parseContent (hint text : String) : Except Misuse Specifier :=
  (Specifier.parse text).mapError fun _ =>
    .badValue hint s!"{Text.quoted text} is not a hash, hash and format, or blob ticket"

namespace Choices

/-- Takes an option into account. Of an option that was given several times the last value counts. -/
def take (a : Arguments) (c : Choices) (s : Switch) : Except Misuse Choices :=
  let text := ((a.values s.name).getLast?).getD ""
  match s.name with
  | .tracker => (parseNode s.hint text).map fun p => { c with tracker := some p }
  | .trackerAddress => .ok { c with trackerAddresses := a.values s.name }
  | .host => (parseNode s.hint text).map fun p => { c with host := some p }
  | .bindPort => (parsePort s.hint text).map fun n => { c with bindPort := some n }
  | .incomplete => .ok { c with incomplete := true }
  | .verified => .ok { c with verified := true }
  | .config | .verbose | .help => .ok c

/-- The options are looked at in the order in which they were given. -/
def ofArguments (a : Arguments) : Except Misuse Choices := a.names.foldlM (take a) {}

end Choices

inductive Job
  | announce (choices : Choices) (content : List Specifier)
  | query (choices : Choices) (content : Specifier)

namespace Job

def readAnnounce (a : Arguments) : Except Misuse Job := do
  let choices ← Choices.ofArguments a
  return .announce choices (← a.operands.mapM (parseContent "'[CONTENT]...'"))

def readQuery (a : Arguments) : Except Misuse Job := do
  let choices ← Choices.ofArguments a
  match a.operands with
  | [] => throw (.missingOperand "CONTENT")
  | text :: extra =>
    let content ← parseContent "'CONTENT'" text
    if !extra.isEmpty then throw (.extraOperands extra)
    return .query choices content

def choices : Job → Choices
  | .announce c _ | .query c _ => c

/-- All content that the job is about. -/
def content : Job → List Specifier
  | .announce _ content => content
  | .query _ content => [content]

end Job

/-- The subcommands: each command, and how its arguments are read. -/
def Command.readJob (c : Command) (a : Arguments) : Except Misuse Job :=
  if c.path = announceCommand.path then Job.readAnnounce a else Job.readQuery a

/-- The settings file that was named, which must be a file that there is. -/
def configFile (d : Disk) (a : Arguments) : Except Misuse (Option String) :=
  match a.values .config |>.getLast? with
  | none => .ok none
  | some text =>
    let entry := if text = "" then none else d.entry? (d.placeOf text)
    match entry with
    | some (.file _) => .ok (some text)
    | some .folder =>
      .error (.badValue "'--config' / '-c'" s!"File {Text.quoted text} is a directory.")
    | none => .error (.badValue "'--config' / '-c'" s!"File {Text.quoted text} does not exist.")

end ContentTracker.CommandLine
