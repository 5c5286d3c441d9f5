import ContentTracker.Text.Word

/-!
Identifiers inside a line of text: content hashes, node ids and protocol tags, each told from its
surroundings by its alphabet and its length.
-/

namespace ContentTracker.Logging

inductive Identifier
  | hash
  | node
  | protocol
deriving Repr, DecidableEq

/-- A stretch of text, by the positions of its characters. -/
structure Span where
  start : Nat
  stop : Nat
  identifier : Identifier
deriving Repr, DecidableEq

namespace Identifier

def all : List Identifier := [hash, node, protocol]

/-- The style that the identifier is shown in. -/
def style : Identifier → String
  | .hash => "cctrack.hash"
  | .node => "cctrack.node"
  | .protocol => "cctrack.alpn"

def isHexDigit (c : Char) : Bool := ('0' ≤ c && c ≤ '9') || ('a' ≤ c && c ≤ 'f')

def isBase32Digit (c : Char) : Bool := ('a' ≤ c && c ≤ 'z') || ('2' ≤ c && c ≤ '7')

def isTagChar (c : Char) : Bool := Text.isWord c || c = '/' || c = '.' || c = '-'

def endsWord : List Char → Bool
  | [] => true
  | c :: _ => !Text.isWord c

/-- Whether a text begins with a word of so many characters of a kind. -/
def beginsWord (kind : Char → Bool) (size : Nat) (cs : List Char) : Bool :=
  (cs.takeWhile kind).length = size && endsWord (cs.drop size)

/-- The length of the identifier that a text begins with. An `s` may stand before a hash. -/
def lengthAt? (identifier : Identifier) (cs : List Char) : Option Nat :=
  match identifier with
  | .hash =>
    match cs with
    | 's' :: rest => if beginsWord isHexDigit 64 rest then some 65 else none
    | cs => if beginsWord isHexDigit 64 cs then some 64 else none
  | .node => if beginsWord isBase32Digit 52 cs then some 52 else none
  | .protocol =>
    match cs with
    | 'n' :: '0' :: '/' :: rest =>
      match (rest.takeWhile isTagChar).length with
      | 0 => none
      | n => some (n + 3)
    | _ => none

/-- The identifiers of one kind from a position on, none of which begins inside a word. `skip`
characters belong to the identifier found before. -/
def spansFrom (identifier : Identifier) (position skip : Nat) (insideWord : Bool) :
    List Char → List Span
  | [] => []
  | c :: rest =>
    let later := fun skip => spansFrom identifier (position + 1) skip (Text.isWord c) rest
    match skip with
    | skip + 1 => later skip
    | 0 =>
      if insideWord then later 0
      else match lengthAt? identifier (c :: rest) with
        | some n => ⟨position, position + n, identifier⟩ :: later (n - 1)
        | none => later 0

end Identifier

/-- The identifiers in a text, those of a kind together. -/
def identifiers (text : String) : List Span :=
  Identifier.all.flatMap fun identifier => identifier.spansFrom 0 0 false text.toList

end ContentTracker.Logging
