import ContentTracker.CommandLine.Program

/-!
The program as it is started: it gathers the files and variables that the settings may come from,
runs, and prints. It has no network at hand, so every dial is refused.
-/

namespace ContentTracker.Main

/-- The content of a file that can be read. -/
def readFile? (path : String) : IO (Option Octets) := do
  try
    let content ← IO.FS.readBinFile path
    return some content.toList
  catch _ => return none

/-- Puts the files at some paths on a disk. -/
def gatherFiles (d : Disk) (paths : List String) : IO Disk :=
  paths.foldlM (fun d path => do
    match ← readFile? path with
    | some content => return d.place path content
    | none => return d) d

/-- The environment variables that the settings know. -/
def gatherVariables : IO (List (String × String)) := do
  let found ← Settings.knownVariables.mapM fun var => do
    return (← IO.getEnv var.name).map fun text => (var.name, text)
  return found.filterMap id

/-- The settings file that is named before the subcommand. -/
def namedFiles (args : List String) : List String :=
  match CommandLine.rootCommand.read args with
  | .ok a => a.values .config
  | .error _ => []

/-- A random id in groups of hexadecimal digits. -/
def groupedId (bs : Octets) : String :=
  let digits := bs.toHex.toList
  let group (start size : Nat) : String := String.ofList ((digits.drop start).take size)
  "-".intercalate [group 0 8, group 8 4, group 12 4, group 16 4, group 20 12]

/-- The most ids that a run draws. -/
def idCount : Nat := 8

end ContentTracker.Main

open ContentTracker in
def main (args : List String) : IO UInt32 := do
  let folder ← IO.currentDir
  let home ← IO.getEnv "HOME"
  let empty : Disk := { workingFolder := folder.toString, home := home.getD "/" }
  let paths := (Settings.searchPath empty).map (·.text) ++ Main.namedFiles args
  let disk ← Main.gatherFiles empty paths
  let environment ← Main.gatherVariables
  let noise ← IO.getRandomBytes (16 * Main.idCount.toUSize)
  let key ← IO.getRandomBytes 32
  match PeerId.ofOctets key.toList with
  | .error fault =>
    IO.eprintln (PeerId.faultMessage fault)
    return 1
  | .ok node =>
    let ids (n : Nat) : String := Main.groupedId ((noise.toList.drop (16 * n)).take 16)
    let surroundings : Surroundings := { disk := disk, environment := environment }
    let outcome := CommandLine.outcome ⟨ids, node⟩ args
      { session := { surroundings := surroundings }, world := { network := Network.unreachable } }
    IO.print outcome.program.output
    IO.eprint outcome.program.complaints
    if let some problem := outcome.crash then IO.eprintln problem.text
    return outcome.code.toUInt32
