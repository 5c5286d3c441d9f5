import ContentTracker.Client
import ContentTracker.CommandLine.Job
import ContentTracker.Console.Grid
import ContentTracker.Console.Literal
import ContentTracker.Settings.Manager
import ContentTracker.Verbosity

/-!
The program: it reads its arguments, loads settings, does what it is asked to do and prints what came
of it.
-/

namespace ContentTracker.CommandLine

/-- What a program run makes up as it goes: correlation ids, and an id for the own node if none is
set. -/
structure Fresh where
  correlation : Nat → String
  node : PeerId

/-- The state of a program run, with what it has printed. -/
structure Program where
  session : Session
  world : World
  output : String := ""
  complaints : String := ""
  /-- Whether the way to a reported problem was printed behind the output. -/
  traced : Bool := false

/-- How a run ends before its work is done. -/
inductive Ending
  /-- Help was asked for. -/
  | helped (c : Command)
  /-- There were no arguments at all. -/
  | bare
  | misused (c : Command) (m : Misuse)
  | failed (message : String)
  /-- A problem that nobody expected. -/
  | crashed (p : Problem)

/-- Work that may end in a problem. -/
abbrev Work := EStateM Problem Program

abbrev Running := EStateM Ending Program

namespace Work

def administer {α : Type} (op : Administration α) : Work α := fun p =>
  match op p.session with
  | .ok a s => .ok a { p with session := s }
  | .error problem s => .error problem { p with session := s }

def network {α : Type} (op : Net α) : Work α := fun p =>
  match op p.world with
  | .ok a w => .ok a { p with world := w }
  | .error problem w => .error problem { p with world := w }

end Work

def printText (text : String) : Running Unit :=
  modify fun p => { p with output := p.output ++ text }

/-- The message of a failure of the tracker family. -/
def failureMessage? : Problem → Option String
  | .failure f => some f.message
  | .misconfigured _ => some "Invalid configuration"
  | _ => none

/-- Does work whose failures end the run with a message. -/
def require {α : Type} (work : Work α) : Running α := fun p =>
  match work p with
  | .ok a p => .ok a p
  | .error problem p =>
    match failureMessage? problem with
    | some message => .error (.failed message) p
    | none => .error (.crashed problem) p

/-- Does work whose failures are printed with their details before they end the run. -/
def report {α : Type} (v : Verbosity) (work : Work α) : Running α := fun p =>
  match work p with
  | .ok a p => .ok a p
  | .error problem p =>
    match failureMessage? problem with
    | some message =>
      let text := Console.print ("Error: " ++ Console.literal problem.text "[/red]")
      .error (.failed message) { p with output := p.output ++ text, traced := v.showsTrace }
    | none => .error (.crashed problem) p

/-- Reading that fails if the arguments make no sense to a command. -/
def understand {α : Type} (c : Command) (reading : Except Misuse α) : Running α :=
  match reading with
  | .ok a => pure a
  | .error m => throw (.misused c m)

/-- The addresses to dial: those of the settings, then those given for the tracker, then those in
tickets. -/
def addBook (book : AddressBook) (tracker : PeerId) (texts : List String) (content : List Specifier) :
    Except Problem AddressBook := do
  let book ← texts.foldlM (fun book text =>
    match DialAddress.parse text with
    | .ok a => .ok (book.insertAll tracker [a])
    | .error fault => .error (Problem.failure (fault.failure text))) book
  return (Plan.ticketAddresses content).foldl (fun book (peer, addresses) =>
    book.insertAll peer (addresses.map .ofSocketAddress)) book

/-- The endpoint of the settings, with what the arguments add. -/
def makeEndpoint (fresh : Fresh) (m : Manager) (tracker : PeerId) (choices : Choices)
    (content : List Specifier) : Except Problem (Endpoint × Manager) := do
  let (e, m) ← m.endpoint fresh.node
  let book ← addBook e.book tracker choices.trackerAddresses content
  return ({ e with book := book, bindPort := choices.bindPort.getD e.bindPort }, m)

/-- A client for the job. -/
def makeClient (fresh : Fresh) (m : Manager) (tracker : PeerId) (job : Job) : Work Client := do
  let (e, m) ← ofExcept (makeEndpoint fresh m tracker job.choices job.content)
  modify fun p => { p with session := { p.session with manager := some m } }
  return { endpoint := e }

/-- The tracker to ask: the given one, or the one of the settings. -/
def findTracker (c : Command) (m : Manager) (choices : Choices) : Running PeerId :=
  match choices.tracker with
  | some p => pure p
  | none =>
    match m.defaultTracker with
    | .ok (some p) => pure p
    | .ok none => throw (.misused c .noTracker)
    | .error problem => throw (.crashed problem)

/-- What is printed about an announcement. -/
def announcedText (v : Verbosity) (tracker : PeerId) (a : Announce) : String :=
  let items := a.content.members
  Console.print (s!"Announced {items.length} item(s) as {a.kind.word} for host {a.host.text} " ++
      s!"to tracker {tracker.text}") ++
    (if v.isVerbose then String.join (items.map fun i => Console.print ("  " ++ i.text)) else "")

/-- What is printed about an answer. -/
def responseText (r : QueryResponse) : String :=
  if r.hosts.isEmpty then Console.print s!"No hosts found for {r.content.text}"
  else
    Console.Grid.print
      { title := s!"Hosts for {r.content.text}"
        columns := [⟨"#", .right⟩, ⟨"Host", .left⟩]
        rows := r.hosts.mapIdx fun i host => [toString (i + 1), host.text] }

def perform (fresh : Fresh) (c : Command) (v : Verbosity) (m : Manager) (job : Job) : Running Unit := do
  let tracker ← findTracker c m job.choices
  match job with
  | .announce choices content =>
    let plan ← report v do
      let kind := AnnounceKind.ofComplete !choices.incomplete
      let plan ← ofExcept ((Plan.announces content choices.host kind).mapError fun fault =>
        Problem.failure fault.failure)
      let client ← makeClient fresh m tracker job
      Work.network (plan.forM fun a => client.announce tracker (.announce a))
      return plan
    plan.forM fun a => printText (announcedText v tracker a)
  | .query choices content =>
    let response ← report v do
      let client ← makeClient fresh m tracker job
      Work.network (client.query tracker
        (.query ⟨content.content, .bool !choices.incomplete, .bool choices.verified⟩))
    printText (responseText response)

/-- Loads settings and sets logging up by them, at the level that the verbosity asks for. -/
def loadSettings (fresh : Fresh) (v : Verbosity) (named : Option String) : Work Manager := do
  let m ← Work.administer (Session.start fresh.correlation named)
  let o := m.settings.observability
  let level := v.effective o.logLevel
  if level ≠ o.logLevel then
    Work.administer (Session.configureLogging fresh.correlation { o with logLevel := level })
  return m

/-- Reads what stands before a subcommand. -/
def readRoot (args : List String) : Running (Arguments × Option String) := do
  let a ← understand rootCommand (rootCommand.read args)
  if a.has .help then throw (.helped rootCommand)
  let p ← get
  return (a, ← understand rootCommand (configFile p.session.surroundings.disk a))

/-- A subcommand that there is none of. What looks like an option is read as one first. -/
def refuseCommand (name : String) (operands : List String) : Running Unit := do
  let _ ← readRoot operands
  throw (.misused rootCommand (.unknownCommand name (similar name (subcommands.map (·.1)))))

/-- Runs the program on its arguments. Settings are loaded before the arguments of a subcommand are
looked at. -/
def run (fresh : Fresh) (args : List String) : Running Unit := do
  if args.isEmpty then throw .bare
  let (a, named) ← readRoot args
  match a.operands with
  | [] => throw (.misused rootCommand .missingCommand)
  | name :: rest =>
    match subcommands.lookup name with
    | none => refuseCommand name a.operands
    | some c =>
      let v := Verbosity.ofCount (a.count .verbose)
      let m ← require (loadSettings fresh v named)
      let a ← understand c (c.read rest)
      if a.has .help then throw (.helped c)
      perform fresh c v m (← understand c (c.readJob a))

namespace Ending

/-- The number that the program ends with. -/
def code : Ending → Nat
  | .helped _ => 0
  | .bare | .misused .. => 2
  | .failed _ | .crashed _ => 1

def output : Ending → String
  | .helped c => c.helpPage
  | _ => ""

def complaint : Ending → String
  | .helped _ | .crashed _ => ""
  | .bare => rootCommand.helpPage
  | .misused c m => m.report c
  | .failed message => s!"Error: {message}\n"

end Ending

/-- What is left of a run: its number, what it printed, and the problem that nobody expected. -/
structure Outcome where
  code : Nat
  program : Program
  crash : Option Problem := none

def outcome (fresh : Fresh) (args : List String) (p : Program) : Outcome :=
  match run fresh args p with
  | .ok _ p => { code := 0, program := p }
  | .error e p =>
    { code := e.code
      program := { p with output := p.output ++ e.output
                          complaints := p.complaints ++ e.complaint }
      crash := match e with
        | .crashed problem => some problem
        | _ => none }

end ContentTracker.CommandLine
