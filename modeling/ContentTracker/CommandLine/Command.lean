/-!
The commands and their options, as far as reading arguments and printing help need to know them.
-/

namespace ContentTracker.CommandLine

inductive OptionName
  | config
  | verbose
  | tracker
  | trackerAddress
  | host
  | bindPort
  | incomplete
  | verified
  | help
deriving Repr, DecidableEq

/-- An option: what it is written as, the kind of value it takes if it takes one, and its help. -/
structure Switch where
  name : OptionName
  long : String
  short : Option Char := none
  value : Option String := none
  help : String

namespace Switch

def shortText? (s : Switch) : Option String := s.short.map fun c => String.ofList ['-', c]

/-- The option in messages about its value. -/
def hint (s : Switch) : String :=
  " / ".intercalate ((s.long :: s.shortText?.toList).map fun t => s!"'{t}'")

/-- The option in a help page. -/
def term (s : Switch) : String :=
  let names := ", ".intercalate (s.shortText?.toList ++ [s.long])
  match s.value with
  | some kind => names ++ " " ++ kind
  | none => names

end Switch

/-- A command. What it is about is one paragraph or more. -/
structure Command where
  path : String
  /-- What follows the name in the usage line. -/
  operands : String
  about : List String
  switches : List Switch
  /-- Whether options may stand behind operands. -/
  mixed : Bool := true

def helpSwitch : Switch :=
  { name := .help, long := "--help", help := "Show this message and exit." }

def trackerSwitch (help : String) : Switch :=
  { name := .tracker, long := "--tracker", short := some 't', value := some "NODE_ID", help := help }

def trackerAddressSwitch : Switch :=
  { name := .trackerAddress, long := "--tracker-addr", value := some "TEXT"
    help := "Address of the tracker as host:port (repeatable)" }

/-- The ports that may be asked for, as a help page and a complaint show them. -/
def portRange : String := "0<=x<=65535"

def bindPortSwitch : Switch :=
  { name := .bindPort, long := "--bind-port", value := some "INTEGER RANGE"
    help := "Local port to dial the tracker from (overrides network.bind_port)  [" ++ portRange ++ "]" }

def incompleteSwitch (help : String) : Switch :=
  { name := .incomplete, long := "--partial", help := help }

def rootCommand : Command :=
  { path := "cctrack", operands := "[OPTIONS] COMMAND [ARGS]..."
    about := ["cctrack - announce content to and query content trackers."]
    switches :=
      [{ name := .config, long := "--config", short := some 'c', value := some "FILE"
         help := "Configuration file path" },
        { name := .verbose, long := "--verbose", short := some 'v'
          help := "Increase verbosity (-v: verbose, -vv: debug, -vvv: trace)" },
        helpSwitch]
    mixed := false }

def announceCommand : Command :=
  { path := "cctrack announce", operands := "[OPTIONS] [CONTENT]..."
    about := ["Announce that a host has CONTENT.",
      "Content can be a hash, a hash and format, or a blob ticket. A bare hash means a raw blob. " ++
        "Unless every item is a ticket, --host is required."]
    switches :=
      [trackerSwitch "Tracker to announce to", trackerAddressSwitch,
        { name := .host, long := "--host", value := some "NODE_ID"
          help := "Host to announce. Not needed if all content is given as tickets" },
        bindPortSwitch, incompleteSwitch "Announce that the host has only part of the data",
        helpSwitch] }

def queryCommand : Command :=
  { path := "cctrack query", operands := "[OPTIONS] CONTENT"
    about := ["Ask a tracker which hosts have CONTENT."]
    switches :=
      [trackerSwitch "Tracker to query", trackerAddressSwitch, bindPortSwitch,
        incompleteSwitch "Also return hosts that announced partial data",
        { name := .verified, long := "--verified"
          help := "Only return hosts the tracker has verified" },
        helpSwitch] }

/-- The commands below the root, by name. -/
def subcommands : List (String × Command) :=
  [("announce", announceCommand), ("query", queryCommand)]

end ContentTracker.CommandLine
