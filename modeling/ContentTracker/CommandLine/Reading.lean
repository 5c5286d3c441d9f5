import ContentTracker.CommandLine.Help

/-!
Arguments taken apart into options with their values and operands.
-/

namespace ContentTracker.CommandLine

/-- An option as it was given. -/
structure Given where
  switch : Switch
  value : Option String := none

/-- Arguments taken apart: options in the order they were given in, and the operands. -/
structure Arguments where
  options : List Given := []
  operands : List String := []

namespace Arguments

def put (options : List Given) (a : Arguments) : Arguments :=
  { a with options := options ++ a.options }

def putOperand (text : String) (a : Arguments) : Arguments :=
  { a with operands := text :: a.operands }

/-- The values of an option, in their order. -/
def values (a : Arguments) (name : OptionName) : List String :=
  (a.options.filter (·.switch.name = name)).filterMap (·.value)

def count (a : Arguments) (name : OptionName) : Nat :=
  (a.options.filter (·.switch.name = name)).length

def has (a : Arguments) (name : OptionName) : Bool := a.count name ≠ 0

/-- The options that were given, each once, in the order in which they came first. -/
def names (a : Arguments) : List Switch :=
  a.options.foldl (fun seen g =>
    if seen.any (·.name = g.switch.name) then seen else seen ++ [g.switch]) []

end Arguments

/-- What an argument gives: options, and perhaps one that still wants its value, under the name that
it was written as. -/
structure Piece where
  options : List Given := []
  wanting : Option (Switch × String) := none

namespace Command

/-- Reads an argument that begins with two dashes. -/
def readLong (c : Command) (arg : List Char) : Except Misuse Piece :=
  let name := String.ofList (arg.takeWhile (· ≠ '='))
  let value := ((arg.dropWhile (· ≠ '=')).tail?).map String.ofList
  match c.switches.find? (·.long = name) with
  | none => .error (.unknownOption name (similar name (c.switches.map (·.long))))
  | some s =>
    match s.value, value with
    | some _, some v => .ok { options := [⟨s, some v⟩] }
    | some _, none => .ok { wanting := some (s, name) }
    | none, some _ => .error (.takesNoValue name)
    | none, none => .ok { options := [⟨s, none⟩] }

/-- Reads options of one letter each. What stands behind one that takes a value is its value. -/
def readShort (c : Command) : List Char → Except Misuse Piece
  | [] => .ok {}
  | letter :: rest =>
    let name := String.ofList ['-', letter]
    match c.switches.find? (·.short = some letter) with
    | none => .error (.unknownOption name [])
    | some s =>
      match s.value, rest with
      | some _, [] => .ok { wanting := some (s, name) }
      | some _, rest => .ok { options := [⟨s, some (String.ofList rest)⟩] }
      | none, rest => do
        let piece ← readShort c rest
        return { piece with options := ⟨s, none⟩ :: piece.options }

def readOption (c : Command) (arg : List Char) : Except Misuse Piece :=
  match arg with
  | '-' :: '-' :: _ => c.readLong arg
  | _ => c.readShort arg.tail

/-- Whether an argument is an option. A single dash is an operand. -/
def isOption : List Char → Bool
  | '-' :: _ :: _ => true
  | _ => false

/-- Takes arguments apart. Two dashes end the options, as does the first operand of a command that
wants its options in front. -/
def read (c : Command) : List String → Except Misuse Arguments
  | [] => .ok {}
  | arg :: rest =>
    if arg = "--" then .ok { operands := rest }
    else if isOption arg.toList then
      match c.readOption arg.toList with
      | .error m => .error m
      | .ok ⟨options, none⟩ => (c.read rest).map (Arguments.put options)
      | .ok ⟨options, some (s, name)⟩ =>
        match rest with
        | [] => .error (.needsValue name)
        | value :: rest => (c.read rest).map (Arguments.put (options ++ [⟨s, some value⟩]))
    else if c.mixed then (c.read rest).map (Arguments.putOperand arg)
    else .ok { operands := arg :: rest }

end Command

end ContentTracker.CommandLine
