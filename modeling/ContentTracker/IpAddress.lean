import ContentTracker.Number.Power
import ContentTracker.Octets
import ContentTracker.SortedSet
import ContentTracker.Text.Utf8
import ContentTracker.Value

/-!
Addresses of the internet protocol in both versions, and their canonical text.
-/

namespace ContentTracker

/-- The zone of a version 6 address: some text without `%` and `/`. -/
structure Zone where
  name : String
  name_ne : name ≠ ""
  no_percent : '%' ∉ name.toList
  no_slash : '/' ∉ name.toList
deriving DecidableEq

/-- An address of version 4 as its four octets, or of version 6 as eight groups of sixteen bits,
possibly with a zone. -/
inductive IpAddress
  | v4 (a b c d : UInt8)
  | v6 (groups : Vector UInt16 8) (zone : Option Zone)
deriving DecidableEq

namespace IpAddress

/-- The pieces between the separators. -/
def splitAt (separator : Char) : List Char → List (List Char)
  | [] => [[]]
  | c :: rest =>
    if c = separator then [] :: splitAt separator rest
    else match splitAt separator rest with
      | [] => [[c]]
      | piece :: others => (c :: piece) :: others

def decimalValue (cs : List Char) : Nat := cs.foldl (fun n c => n * 10 + (c.toNat - 48)) 0

/-- An octet in up to three decimal digits, zero being the only one that begins with a zero. -/
def octet? (cs : List Char) : Option UInt8 :=
  if cs.isEmpty || 3 < cs.length || !cs.all Char.isDigit || (cs.head? = some '0' && cs.length ≠ 1)
  then none
  else if decimalValue cs < 256 then some (UInt8.ofNat (decimalValue cs)) else none

def parseV4? (cs : List Char) : Option (UInt8 × UInt8 × UInt8 × UInt8) :=
  match (splitAt '.' cs).mapM octet? with
  | some [a, b, c, d] => some (a, b, c, d)
  | _ => none

/-- A group in one to four hexadecimal digits. -/
def group? (cs : List Char) : Option UInt16 :=
  if cs.isEmpty || 4 < cs.length then none
  else (cs.mapM Octets.hexValue?).map fun ds => UInt16.ofNat (ds.foldl (fun n d => n * 16 + d) 0)

/-- The last piece may be a version 4 address, which stands for two groups. -/
def expandTail? : List (List Char) → Option (List (List Char))
  | [] => some []
  | [piece] =>
    if piece.contains '.' then
      (parseV4? piece).map fun (a, b, c, d) =>
        [Text.hexDigits 4 (a.toNat * 256 + b.toNat), Text.hexDigits 4 (c.toNat * 256 + d.toNat)]
    else some [piece]
  | piece :: rest => (expandTail? rest).map (piece :: ·)

/-- What stands before and after the first double colon. -/
def aroundGap? : List Char → Option (List Char × List Char)
  | ':' :: ':' :: rest => some ([], rest)
  | [] => none
  | c :: rest => (aroundGap? rest).map fun (before, after) => (c :: before, after)

/-- The pieces between colons; an empty text has none. -/
def pieces (cs : List Char) : List (List Char) :=
  if cs.isEmpty then [] else splitAt ':' cs

/-- Eight groups, of which a double colon leaves out one or more zeros. -/
def groups? (cs : List Char) : Option (List UInt16) :=
  match aroundGap? cs with
  | none => do (← expandTail? (pieces cs)).mapM group?
  | some (before, after) => do
    let before ← (pieces before).mapM group?
    let after ← (← expandTail? (pieces after)).mapM group?
    if before.length + after.length ≤ 7 then
      some (before ++ List.replicate (8 - before.length - after.length) 0 ++ after)
    else none

def zone? (cs : List Char) : Option Zone :=
  let name := String.ofList cs
  if h : name ≠ "" ∧ '%' ∉ name.toList ∧ '/' ∉ name.toList then
    some ⟨name, h.1, h.2.1, h.2.2⟩
  else none

def ofGroups? (groups : List UInt16) (zone : Option Zone) : Option IpAddress :=
  if h : groups.length = 8 then some (.v6 ⟨groups.toArray, by simpa using h⟩ zone) else none

def parseV6? (cs : List Char) : Option IpAddress := do
  if cs.contains '/' then none
  else
    let groups ← groups? (cs.takeWhile (· ≠ '%'))
    match cs.dropWhile (· ≠ '%') with
    | [] => ofGroups? groups none
    | _ :: rest => do
      let zone ← zone? rest
      ofGroups? groups (some zone)

def parseChars? (cs : List Char) : Option IpAddress :=
  match parseV4? cs with
  | some (a, b, c, d) => some (.v4 a b c d)
  | none => parseV6? cs

def parse? (text : String) : Option IpAddress := parseChars? text.toList

/-- The octets in network order. The zone is not part of them. -/
def packed : IpAddress → Octets
  | .v4 a b c d => [a, b, c, d]
  | .v6 groups _ => groups.toList.flatMap fun g =>
      [UInt8.ofNat (g.toNat / 256), UInt8.ofNat (g.toNat % 256)]

/-- Pairs of octets as groups. -/
def groupsOf : Octets → List UInt16
  | a :: b :: rest => UInt16.ofNat (a.toNat * 256 + b.toNat) :: groupsOf rest
  | _ => []

/-- The address of four or sixteen octets. -/
def ofPacked? : Octets → Option IpAddress
  | [a, b, c, d] => some (.v4 a b c d)
  | bs => if bs.length = 16 then ofGroups? (groupsOf bs) none else none

/-- The address that an integer is: of version 4 below `2 ^ 32`, else of version 6. -/
def ofInt? (n : Int) : Option IpAddress :=
  match n with
  | .ofNat n =>
    if n < twoTo 32 then ofPacked? (Octets.ofNat 4 n)
    else if n < twoTo 128 then ofPacked? (Octets.ofNat 16 n)
    else none
  | _ => none

/-- The address that a value names: a text, an integer, or the octets of an address. -/
def ofValue? : Value → Option IpAddress
  | .text s => parse? s
  | .int n => ofInt? n
  | .bool b => ofInt? (if b then 1 else 0)
  | .octets bs => ofPacked? bs
  | _ => none

/-- The hexadecimal digits of a group without leading zeros. -/
def groupText (g : UInt16) : List Char := Nat.toDigits 16 g.toNat

/-- The length of the run of zeros at the start. -/
def zeroRun (groups : List UInt16) : Nat := (groups.takeWhile (· = 0)).length

/-- The start and length of the longest run of zeros, the leftmost of several. -/
def longestRun (position : Nat) : List UInt16 → Nat × Nat
  | [] => (position, 0)
  | g :: rest =>
    let later := longestRun (position + 1) rest
    let here := zeroRun (g :: rest)
    if later.2 ≤ here then (position, here) else later

def joinGroups (groups : List UInt16) : List Char :=
  [':'].intercalate (groups.map groupText)

/-- The text of eight groups: a double colon stands for the leftmost longest run of zeros, if that
has two or more. -/
def groupsText (groups : List UInt16) : List Char :=
  let (start, length) := longestRun 0 groups
  if 2 ≤ length then
    joinGroups (groups.take start) ++ [':', ':'] ++ joinGroups (groups.drop (start + length))
  else joinGroups groups

def textChars : IpAddress → List Char
  | .v4 a b c d => ['.'].intercalate ([a, b, c, d].map fun o => Nat.toDigits 10 o.toNat)
  | .v6 groups zone => groupsText groups.toList ++
      match zone with
      | none => []
      | some z => '%' :: z.name.toList

/-- The canonical text: lower case, without leading zeros, with the zone after a percent sign. -/
def text (ip : IpAddress) : String := String.ofList ip.textChars

def isV6 : IpAddress → Bool
  | .v4 .. => false
  | .v6 .. => true

/-- The number of the version on the wire. -/
def family : IpAddress → Nat
  | .v4 .. => 0
  | .v6 .. => 1

def zoneText : IpAddress → String
  | .v6 _ (some z) => z.name
  | _ => ""

/-- The text for a value that names no address. -/
def faultMessage (host : Value) : String :=
  host.complaint s!"{host.shown} does not appear to be an IPv4 or IPv6 address"

end IpAddress

end ContentTracker
