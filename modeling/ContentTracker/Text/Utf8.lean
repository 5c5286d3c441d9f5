import ContentTracker.Octets

/-!
UTF-8 text. A fault tells the first octets that no continuation could make well formed.
-/

namespace ContentTracker.Utf8

/-- The octets of a text. -/
def encodeChars (cs : List Char) : Octets := cs.flatMap String.utf8EncodeChar

def encode (text : String) : Octets := encodeChars text.toList

inductive Reason
  | startOctet
  | continuationOctet
  | endOfData
deriving Repr, DecidableEq

def Reason.text : Reason → String
  | .startOctet => "invalid start byte"
  | .continuationOctet => "invalid continuation byte"
  | .endOfData => "unexpected end of data"

/-- The place of ill-formed octets: `count` of them from `start` on, the first being `first`. -/
structure Fault where
  start : Nat
  count : Nat
  first : UInt8
  reason : Reason
deriving Repr, DecidableEq

def Fault.message (f : Fault) : String :=
  if f.count = 1 then
    s!"'utf-8' codec can't decode byte 0x{Octets.toHex [f.first]} in position {f.start}: {f.reason.text}"
  else
    s!"'utf-8' codec can't decode bytes in position {f.start}-{f.start + f.count - 1}: {f.reason.text}"

/-- What a first octet of several announces: how many octets follow, the bounds of the first of
them, and the bits that the first octet itself gives. -/
def lead? (b : UInt8) : Option (Nat × Nat × Nat × Nat) :=
  let n := b.toNat
  if n < 0xc2 then none
  else if n < 0xe0 then some (1, 0x80, 0xbf, n - 0xc0)
  else if n = 0xe0 then some (2, 0xa0, 0xbf, 0)
  else if n = 0xed then some (2, 0x80, 0x9f, 13)
  else if n < 0xf0 then some (2, 0x80, 0xbf, n - 0xe0)
  else if n = 0xf0 then some (3, 0x90, 0xbf, 0)
  else if n < 0xf4 then some (3, 0x80, 0xbf, n - 0xf0)
  else if n = 0xf4 then some (3, 0x80, 0x8f, 4)
  else none

/-- Takes `count` continuation octets, the first of them between `low` and `high`; a fault comes
with the number of octets that were right. -/
def follow (taken : Nat) : (count low high bits : Nat) → Octets → Except (Nat × Reason) (Nat × Octets)
  | 0, _, _, bits, rest => .ok (bits, rest)
  | _ + 1, _, _, _, [] => .error (taken, .endOfData)
  | count + 1, low, high, bits, b :: rest =>
    if low ≤ b.toNat ∧ b.toNat ≤ high then
      follow (taken + 1) count 0x80 0xbf (bits * 64 + (b.toNat - 0x80)) rest
    else .error (taken, .continuationOctet)

theorem length_follow {taken count low high bits : Nat} {bs rest : Octets} {n : Nat}
    (h : follow taken count low high bits bs = .ok (n, rest)) : rest.length ≤ bs.length := by
  fun_induction follow taken count low high bits bs with
  | case1 => simp_all
  | case2 => simp at h
  | case3 _ _ _ _ _ _ _ _ ih => have := ih h; simp; omega
  | case4 => simp at h

/-- Reads octets as text, from the octet at `position` on. -/
def decodeFrom (position : Nat) (bs : Octets) : Except Fault (List Char) :=
  match bs with
  | [] => .ok []
  | b :: rest =>
    if b.toNat < 0x80 then (decodeFrom (position + 1) rest).map (Char.ofNat b.toNat :: ·)
    else match lead? b with
      | none => .error ⟨position, 1, b, .startOctet⟩
      | some (count, low, high, bits) =>
        match _h : follow 1 count low high bits rest with
        | .error (taken, reason) => .error ⟨position, taken, b, reason⟩
        | .ok (code, after) =>
          (decodeFrom (position + 1 + count) after).map (Char.ofNat code :: ·)
termination_by bs.length
decreasing_by
  all_goals simp_wf
  · have := length_follow _h
    omega

def decode (bs : Octets) : Except Fault String := (decodeFrom 0 bs).map String.ofList

end ContentTracker.Utf8
