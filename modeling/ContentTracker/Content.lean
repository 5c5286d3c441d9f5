import ContentTracker.Base32
import ContentTracker.SortedSet
import ContentTracker.Value

/-!
What content and nodes are called: hashes, node ids, and content addresses.
-/

namespace ContentTracker

/-- Exactly 32 octets. -/
structure Digest where
  octets : Octets
  length_octets : octets.length = 32
deriving DecidableEq

namespace Digest

def ofOctets? (bs : Octets) : Option Digest :=
  if h : bs.length = 32 then some ⟨bs, h⟩ else none

/-- Why a text names no digest. -/
inductive Fault
  | badHex (position : Nat)
  | badBase32 (fault : Base32.Fault)
  | badLength (length : Nat)
  | wrongSize
deriving Repr, DecidableEq

/-- Reads 64 hexadecimal or 52 base32 characters; which of them is decided by the length alone. -/
def parse (text : String) : Except Fault Digest :=
  let sized (bs : Octets) : Except Fault Digest :=
    match ofOctets? bs with
    | some d => .ok d
    | none => .error .wrongSize
  if text.length = 64 then
    match Octets.ofHex text with
    | .ok bs => sized bs
    | .error position => .error (.badHex position)
  else if text.length = 52 then
    match Base32.decode text with
    | .ok bs => sized bs
    | .error fault => .error (.badBase32 fault)
  else .error (.badLength text.length)

/-- The text of a fault, for a digest that is called `noun` in mid-sentence and `Noun` at the
start. -/
def Fault.message (noun capital : String) : Fault → String
  | .badHex position => s!"Invalid {noun}: {Octets.hexFaultMessage position}"
  | .badBase32 fault => fault.message
  | .badLength n => s!"Invalid {noun}: expected 64 hex or 52 base32 characters, got {n}"
  | .wrongSize => s!"{capital} must be 32 bytes"

end Digest

/-- The digest of some content. -/
structure Hash where
  digest : Digest
deriving DecidableEq

namespace Hash

def faultMessage : Digest.Fault → String := Digest.Fault.message "hash" "Hash"

def ofOctets (bs : Octets) : Except Digest.Fault Hash :=
  match Digest.ofOctets? bs with
  | some d => .ok ⟨d⟩
  | none => .error .wrongSize

def parse (text : String) : Except Digest.Fault Hash := (Digest.parse text).map Hash.mk

def toHex (h : Hash) : String := h.digest.octets.toHex

def toBase32 (h : Hash) : String := Base32.encode h.digest.octets

end Hash

/-- The identity of a node: its public key. -/
structure PeerId where
  key : Digest
deriving DecidableEq

namespace PeerId

def faultMessage : Digest.Fault → String := Digest.Fault.message "peer id" "Peer id"

def ofOctets (bs : Octets) : Except Digest.Fault PeerId :=
  match Digest.ofOctets? bs with
  | some d => .ok ⟨d⟩
  | none => .error .wrongSize

def parse (text : String) : Except Digest.Fault PeerId := (Digest.parse text).map PeerId.mk

/-- The text of a node id is its base32 form. -/
def text (p : PeerId) : String := Base32.encode p.key.octets

/-- The first ten characters, for logs. -/
def short (p : PeerId) : String := String.ofList (p.text.toList.take 10)

end PeerId

/-- Whether a hash names one blob, or a blob whose octets are the hashes of other blobs. -/
inductive BlobFormat
  | raw
  | hashSeq
deriving Repr, DecidableEq

def BlobFormat.tag : BlobFormat → Nat
  | .raw => 0
  | .hashSeq => 1

def BlobFormat.ofTag? : Nat → Option BlobFormat
  | 0 => some .raw
  | 1 => some .hashSeq
  | _ => none

/-- The format that a value equals as a number. -/
def BlobFormat.ofValue? (v : Value) : Option BlobFormat :=
  match v.integer? with
  | some (.ofNat n) => ofTag? n
  | _ => none

/-- The text for a value that is no format. -/
def BlobFormat.faultMessage (v : Value) : String :=
  v.complaint s!"{v.shown} is not a valid BlobFormat"

theorem BlobFormat.ofTag?_tag (f : BlobFormat) : ofTag? f.tag = some f := by cases f <;> rfl

/-- A hash and the format of what it names. -/
structure ContentAddress where
  hash : Hash
  format : BlobFormat
deriving DecidableEq

namespace ContentAddress

/-- By hash, then by format. -/
def precedes (a b : ContentAddress) : Bool :=
  Octets.before a.hash.digest.octets b.hash.digest.octets ||
    (a.hash == b.hash && a.format.tag < b.format.tag)

theorem octets_injective {a b : Hash} (h : a.digest.octets = b.digest.octets) : a = b := by
  obtain ⟨⟨_, _⟩⟩ := a
  obtain ⟨⟨_, _⟩⟩ := b
  simp_all

instance : Ranked ContentAddress where
  before := precedes
  irrefl a := by simp [precedes, Octets.before_irrefl]
  trans a b c h k := by
    simp only [precedes, Bool.or_eq_true, Bool.and_eq_true, beq_iff_eq, decide_eq_true_eq] at h k ⊢
    rcases h with h | ⟨hab, h⟩
    · rcases k with k | ⟨hbc, _⟩
      · exact .inl (Octets.before_trans _ _ _ h k)
      · exact .inl (hbc ▸ h)
    · rcases k with k | ⟨hbc, k⟩
      · exact .inl (hab ▸ k)
      · exact .inr ⟨hab.trans hbc, Nat.lt_trans h k⟩
  total a b h k := by
    simp only [precedes, Bool.or_eq_false_iff, Bool.and_eq_false_imp, beq_iff_eq,
      decide_eq_false_iff_not] at h k
    have hash := octets_injective (Octets.before_total _ _ h.1 k.1)
    have format : a.format = b.format := by
      have h := h.2 hash
      have k := k.2 hash.symm
      revert h k
      cases a.format <;> cases b.format <;> decide
    cases a
    cases b
    simp_all

/-- Why a text is no content address. -/
inductive Fault
  | badHex (position : Nat)
  | badForm
  | wrongSize
deriving Repr, DecidableEq

def Fault.message : Fault → String
  | .badHex position => Octets.hexFaultMessage position
  | .badForm => "Invalid hash and format"
  | .wrongSize => "Hash must be 32 bytes"

/-- The address of a format whose hash is given by hexadecimal digits. -/
def ofHex (format : BlobFormat) (digits : String) : Except Fault ContentAddress :=
  match Octets.ofHex digits with
  | .error position => .error (.badHex position)
  | .ok bs =>
    match Digest.ofOctets? bs with
    | some d => .ok ⟨⟨d⟩, format⟩
    | none => .error .wrongSize

/-- Reads 64 hexadecimal digits as a raw blob, and an `s` before them as a hash sequence. -/
def parse (text : String) : Except Fault ContentAddress :=
  match text.toList with
  | c :: rest =>
    if rest.length = 63 then ofHex .raw text
    else if rest.length = 64 ∧ (c = 's' ∨ c = 'S') then ofHex .hashSeq (String.ofList rest)
    else .error .badForm
  | [] => .error .badForm

def text (a : ContentAddress) : String :=
  match a.format with
  | .raw => a.hash.toHex
  | .hashSeq => "s" ++ a.hash.toHex

end ContentAddress

/-- A finite set of content addresses. -/
abbrev ContentSet := SortedSet ContentAddress

end ContentTracker
