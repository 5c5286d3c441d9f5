import ContentTracker.Number.Power
import ContentTracker.Problem

/-!
Writing the wire format: fields one after another, without tags and without an overall length.
-/

namespace ContentTracker.Wire

/-- Why a value cannot be written. -/
inductive EncodeFault
  | notAnInteger (typeName : String)
  | outOfRange (n : Int)
  | notABoolean (typeName : String)
  | wrongSize (expected : Int) (got : Nat)
  | notARequest (typeName : String)
  | notAResponse (typeName : String)
deriving Repr, DecidableEq

/-- Why a value cannot be written, in words. It is meant for integers that can be put in words. -/
def EncodeFault.message : EncodeFault → String
  | .notAnInteger name => s!"Varint value must be an int, got {name}"
  | .outOfRange n => s!"Varint value out of range: {n}"
  | .notABoolean name => s!"Expected bool, got {name}"
  | .wrongSize expected got => s!"Expected {expected} bytes, got {got}"
  | .notARequest name => s!"Not a tracker request: {name}"
  | .notAResponse name => s!"Not a tracker response: {name}"

def EncodeFault.problem (fault : EncodeFault) : Problem := .fail .encoding fault.message

/-- Varints stay below this bound. -/
def varintBound : Nat := twoTo 64

/-- A natural number in groups of seven bits, the lowest first; all octets but the last have their
high bit set. -/
def varint (n : Nat) : Octets :=
  if h : n < 128 then [UInt8.ofNat n]
  else UInt8.ofNat (n % 128 + 128) :: varint (n / 128)
termination_by n
decreasing_by omega

/-- What can be written. Values whose type is only found out while writing are kept as they are;
`record` writes its members one after another with nothing around them. -/
inductive Item
  | varint (value : Value)
  | flag (value : Value)
  | fixed (octets : Octets) (size : Int)
  | octets (octets : Octets)
  | text (text : String)
  | option (content : Option Item)
  | seq (items : List Item)
  | record (items : List Item)

/-- What one act of writing leaves behind: the octets it appended, and the fault that stopped it. -/
structure Written where
  octets : Octets
  fault : Option EncodeFault := none

namespace Written

def stopped (fault : EncodeFault) : Written := ⟨[], some fault⟩

/-- Writing goes on only where nothing has stopped it. -/
def andThen (first second : Written) : Written :=
  match first.fault with
  | some _ => first
  | none => ⟨first.octets ++ second.octets, second.fault⟩

def result (w : Written) : Except EncodeFault Octets :=
  match w.fault with
  | some fault => .error fault
  | none => .ok w.octets

end Written

def writeInteger (n : Int) : Written :=
  match n with
  | .ofNat k => if k < varintBound then ⟨varint k, none⟩ else .stopped (.outOfRange n)
  | .negSucc _ => .stopped (.outOfRange n)

def writeVarint : Value → Written
  | .int n => writeInteger n
  | v => .stopped (.notAnInteger v.typeName)

def writeFlag : Value → Written
  | .bool b => ⟨[if b then 1 else 0], none⟩
  | v => .stopped (.notABoolean v.typeName)

/-- Octets behind their number. -/
def writeOctets (bs : Octets) : Written := (writeInteger bs.length).andThen ⟨bs, none⟩

mutual

def write : Item → Written
  | .varint v => writeVarint v
  | .flag v => writeFlag v
  | .fixed bs size => if (bs.length : Int) = size then ⟨bs, none⟩
      else .stopped (.wrongSize size bs.length)
  | .octets bs => writeOctets bs
  | .text s => writeOctets (Utf8.encode s)
  | .option none => ⟨[0], none⟩
  | .option (some content) => Written.andThen ⟨[1], none⟩ (write content)
  | .seq items => (writeInteger items.length).andThen (writeAll items)
  | .record items => writeAll items

def writeAll : List Item → Written
  | [] => ⟨[], none⟩
  | item :: rest => (write item).andThen (writeAll rest)

end

def encode (item : Item) : Except EncodeFault Octets := (write item).result

end ContentTracker.Wire
