import ContentTracker.Problem
import ContentTracker.Wire.Encoding

/-!
Reading the wire format through a cursor. A fault leaves the cursor where the reading stopped.
-/

namespace ContentTracker.Wire

/-- The unions whose variants are told apart by a number. -/
inductive Union
  | request
  | response
  | ticket
deriving Repr, DecidableEq

def Union.noun : Union → String
  | .request => "request"
  | .response => "response"
  | .ticket => "ticket"

/-- Why octets are no message. -/
inductive DecodeFault
  | endOfMessage (need available offset : Nat)
  | varintTooLong (offset : Nat)
  | badFlag (octet offset : Nat)
  | badText (fault : Utf8.Fault)
  | badOptionTag (tag offset : Nat)
  | countTooLarge (count remaining offset : Nat)
  | trailing (count offset : Nat)
  | unknownVariant (union : Union) (tag : Nat)
  | unknownFormat (tag : Nat)
  | unknownKind (tag : Nat)
  | unknownFamily (tag : Nat)
  | portOutOfRange (port : Nat)
deriving Repr, DecidableEq

namespace DecodeFault

def message : DecodeFault → String
  | .endOfMessage need available _ =>
    s!"Unexpected end of message: need {need} bytes, have {available}"
  | .varintTooLong _ => "Varint too long"
  | .badFlag octet _ => s!"Invalid bool byte: {octet}"
  | .badText fault => s!"Invalid UTF-8 string: {fault.message}"
  | .badOptionTag tag _ => s!"Invalid option tag: {tag}"
  | .countTooLarge count remaining _ =>
    s!"Sequence length {count} exceeds remaining {remaining} bytes"
  | .trailing count _ => s!"{count} trailing bytes after message"
  | .unknownVariant union tag => s!"Unknown {union.noun} variant: {tag}"
  | .unknownFormat tag => s!"Unknown blob format: {tag}"
  | .unknownKind tag => s!"Unknown announce kind: {tag}"
  | .unknownFamily tag => s!"Unknown socket address variant: {tag}"
  | .portOutOfRange port => s!"Port out of range: {port}"

/-- The place of a fault, or the number that was not understood. -/
def details : DecodeFault → Table
  | .endOfMessage _ _ offset | .varintTooLong offset | .badFlag _ offset | .badOptionTag _ offset
  | .countTooLarge _ _ offset | .trailing _ offset => [("offset", .int offset)]
  | .unknownVariant _ tag | .unknownFormat tag | .unknownKind tag | .unknownFamily tag =>
    [("tag", .int tag)]
  | .badText _ | .portOutOfRange _ => []

def problem (fault : DecodeFault) : Problem := .fail .decoding fault.message fault.details

end DecodeFault

/-- The unread octets and the number of those already read. -/
structure Cursor where
  offset : Nat
  rest : Octets
deriving Repr, DecidableEq

def Cursor.start (bs : Octets) : Cursor := ⟨0, bs⟩

/-- A reading step: it moves the cursor and gives a value or a fault. -/
abbrev Reader := EStateM DecodeFault Cursor

namespace Reader

/-- The next `size` octets. -/
def take (size : Nat) : Reader Octets := fun c =>
  if c.rest.length < size then .error (.endOfMessage size c.rest.length c.offset) c
  else .ok (c.rest.take size) ⟨c.offset + size, c.rest.drop size⟩

/-- The next octet as a number. -/
def octet : Reader Nat := fun c =>
  match c.rest with
  | [] => .error (.endOfMessage 1 0 c.offset) c
  | b :: rest => .ok b.toNat ⟨c.offset + 1, rest⟩

def offset : Reader Nat := fun c => .ok c.offset c

def remaining : Reader Nat := fun c => .ok c.rest.length c

/-- The rest of a varint of which `budget` more octets may come: `value` is what the octets before
gave, and the next one counts `scale` times. -/
def varintFrom : (budget value scale : Nat) → Reader Nat
  | 0, _, _ => do throw (.varintTooLong (← offset))
  | budget + 1, value, scale => do
    let b ← octet
    let value := value + b % 128 * scale
    if b < 128 then
      if value < varintBound then pure value else throw (.varintTooLong (← offset))
    else varintFrom budget value (scale * 128)

/-- A varint takes at most ten octets and stays below `2 ^ 64`. -/
def varint : Reader Nat := varintFrom 10 0 1

def flag : Reader Bool := do
  let b ← octet
  if 1 < b then throw (.badFlag b ((← offset) - 1)) else pure (b == 1)

def octets : Reader Octets := do take (← varint)

def text : Reader String := do
  match Utf8.decode (← octets) with
  | .ok s => pure s
  | .error fault => throw (.badText fault)

def option {α : Type} (content : Reader α) : Reader (Option α) := do
  let tag ← octet
  if tag = 0 then pure none
  else if tag = 1 then some <$> content
  else throw (.badOptionTag tag ((← offset) - 1))

def times {α : Type} (item : Reader α) : Nat → Reader (List α)
  | 0 => pure []
  | n + 1 => do
    let a ← item
    let as ← times item n
    pure (a :: as)

/-- A counted sequence. Items take at least one octet each, so a count above the number of unread
octets is refused at once. -/
def seq {α : Type} (item : Reader α) : Reader (List α) := do
  let count ← varint
  let unread ← remaining
  if unread < count then throw (.countTooLarge count unread (← offset)) else times item count

/-- Nothing may follow a message. -/
def finish : Reader Unit := do
  let unread ← remaining
  if unread = 0 then pure () else throw (.trailing unread (← offset))

/-- Reads octets as exactly one message. -/
def whole {α : Type} (message : Reader α) (bs : Octets) : Except DecodeFault α :=
  let reading : Reader α := do
    let a ← message
    finish
    pure a
  match reading.run (.start bs) with
  | .ok a _ => .ok a
  | .error fault _ => .error fault

end Reader

end ContentTracker.Wire
