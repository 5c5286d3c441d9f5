import ContentTracker.Problem
import ContentTracker.Toml.Scalar

/-!
The folders and files that settings and logs are looked for in.
-/

namespace ContentTracker

/-- A place, by the names that lead to it from the root. Two dots among them lead out of the folder
before them. -/
abbrev Place := List String

/-- A path as people are shown it, and the place it leads to. -/
structure Path where
  text : String
  place : Place
deriving Repr, DecidableEq, Inhabited

namespace Path

def isAbsolute (text : String) : Bool := text.toList.head? = some '/'

/-- The names in a path; empty ones and those of the folder itself are left out. -/
def names (text : String) : List String :=
  ((Toml.splitAt '/' text.toList).map String.ofList).filter fun n => n ≠ "" && n ≠ "."

/-- The text of a path, by its names. -/
def ofNames (absolute : Bool) (names : List String) : String :=
  let body := "/".intercalate names
  if absolute then "/" ++ body
  else if body = "" then "."
  else body

/-- A path without needless parts. -/
def normal (text : String) : String := ofNames (isAbsolute text) (names text)

/-- The folder around a path, in its own text. -/
def parentText (text : String) : String := ofNames (isAbsolute text) (names text).dropLast

/-- A name inside a folder, as text. -/
def join (folder name : String) : String :=
  if folder = "." then name
  else if folder = "/" then "/" ++ name
  else folder ++ "/" ++ name

end Path

/-- What stands at a place. -/
inductive DiskEntry
  | folder
  | file (content : Octets)

/-- The files that there are, with the working folder and the home folder. -/
structure Disk where
  workingFolder : String
  home : String
  files : List (Place × Octets) := []
  /-- Folders that hold no file. -/
  folders : List Place := []

namespace Disk

def workingPlace (d : Disk) : Place := Path.names d.workingFolder

/-- Where a path starts: at the working folder unless it is absolute. -/
def startOf (d : Disk) (text : String) : Place :=
  if Path.isAbsolute text then [] else d.workingPlace

def placeOf (d : Disk) (text : String) : Place := d.startOf text ++ Path.names text

/-- A path that was given by a person. -/
def locate (d : Disk) (text : String) : Path := ⟨Path.normal text, d.placeOf text⟩

def isFolder (d : Disk) (p : Place) : Bool :=
  p.isPrefixOf d.workingPlace || d.folders.any p.isPrefixOf ||
    d.files.any fun (place, _) => p.isPrefixOf place && p.length < place.length

/-- What stands at a place that is named without two dots. -/
def standing? (d : Disk) (p : Place) : Option DiskEntry :=
  match d.files.lookup p with
  | some content => some (.file content)
  | none => if d.isFolder p then some .folder else none

/-- Follows names on from a place. Two dots lead nowhere from what is no folder. -/
def follow? (d : Disk) (place : Place) : List String → Option Place
  | [] => some place
  | name :: rest =>
    if name = ".." then
      if d.isFolder place then d.follow? place.dropLast rest else none
    else d.follow? (place ++ [name]) rest

/-- What stands at a place. -/
def entry? (d : Disk) (p : Place) : Option DiskEntry := (d.follow? [] p).bind d.standing?

/-- Puts a file in its place, or takes it away. -/
def write (d : Disk) (p : Place) (content : Option Octets) : Disk :=
  let others := d.files.filter fun (place, _) => place ≠ p
  match content with
  | some bs => { d with files := others ++ [(p, bs)], folders := d.folders ++ [p.dropLast] }
  | none => { d with files := others }

def addFolder (d : Disk) (p : Place) : Disk := { d with folders := d.folders ++ [p] }

/-- What is said of a file that stands where a folder is to be made. -/
def occupied (path : String) : Problem :=
  .system .occupied s!"[Errno 17] File exists: {Text.quoted path}"

/-- What is said of a path that leads through a file. -/
def throughFile (path : String) : Problem :=
  .system .noFolder s!"[Errno 20] Not a directory: {Text.quoted path}"

/-- Makes the folders that names lead to, one in the other, on from the place that `passed` led to. The
whole path is refused for a file on the way, unless a folder had to be `made` before it: then the path
to the file is. -/
def makeFolders (absolute : Bool) (place : Place) (passed : List String) (made : Bool) :
    List String → EStateM Problem Disk Unit
  | [] => pure ()
  | name :: rest => do
    let next := if name = ".." then place.dropLast else place ++ [name]
    let passed := passed ++ [name]
    match (← get).standing? next with
    | some .folder => makeFolders absolute next passed made rest
    | some (.file _) =>
      if made || rest.isEmpty then throw (occupied (Path.ofNames absolute passed))
      else throw (throughFile (Path.ofNames absolute (passed ++ rest)))
    | none =>
      modify fun d => d.addFolder next
      makeFolders absolute next passed true rest

/-- Makes the folder of a path, and those around it, where there are none yet. -/
def makeFolder (text : String) : EStateM Problem Disk Unit := do
  makeFolders (Path.isAbsolute text) ((← get).startOf text) [] false (Path.names text)

/-- Puts a file where a path leads, in folders that are made for it. -/
def place (d : Disk) (text : String) (content : Octets) : Disk :=
  match makeFolder (Path.parentText text) d with
  | .ok _ d | .error _ d =>
    match d.follow? [] (d.placeOf text) with
    | some p => d.write p (some content)
    | none => d

end Disk

end ContentTracker
