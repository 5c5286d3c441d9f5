import ContentTracker.Wire.Decoding
import ContentTracker.Wire.Encoding

/-!
The shapes of wire data, what they read to, and how that is written again.
-/

namespace ContentTracker.Wire

/-- A shape of wire data. -/
inductive Schema
  | varint
  | flag
  | fixed (size : Nat)
  | octets
  | text
  | option (content : Schema)
  | seq (item : Schema)
deriving Repr, DecidableEq

/-- Data of some shape. -/
inductive Datum
  | varint (n : Nat)
  | flag (b : Bool)
  | fixed (bs : Octets)
  | octets (bs : Octets)
  | text (s : String)
  | option (content : Option Datum)
  | seq (items : List Datum)

/-- The reading step of a shape. -/
def Schema.read : Schema → Reader Datum
  | .varint => Datum.varint <$> Reader.varint
  | .flag => Datum.flag <$> Reader.flag
  | .fixed size => Datum.fixed <$> Reader.take size
  | .octets => Datum.octets <$> Reader.octets
  | .text => Datum.text <$> Reader.text
  | .option content => Datum.option <$> Reader.option content.read
  | .seq item => Datum.seq <$> Reader.seq item.read

mutual

/-- Data as something that can be written. -/
def Datum.item : Datum → Item
  | .varint n => .varint (.int n)
  | .flag b => .flag (.bool b)
  | .fixed bs => .fixed bs bs.length
  | .octets bs => .octets bs
  | .text s => .text s
  | .option none => .option none
  | .option (some d) => .option (some d.item)
  | .seq ds => .seq (Datum.items ds)

def Datum.items : List Datum → List Item
  | [] => []
  | d :: rest => d.item :: Datum.items rest

end

end ContentTracker.Wire
