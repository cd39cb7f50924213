import TextTypes.CodePoint

/-!
Text as 16-bit units.

A character past 0xFFFF takes two units, a high and a low surrogate. A surrogate that is not
part of such a pair stands alone and decodes to nothing.
-/

namespace TextTypes.Text.Units

def isHigh (u : UInt16) : Bool := 0xD800 ≤ u.toNat && u.toNat ≤ 0xDBFF

def isLow (u : UInt16) : Bool := 0xDC00 ≤ u.toNat && u.toNat ≤ 0xDFFF

/-- The units of one character. -/
def encodeChar (c : Char) : List UInt16 :=
  let n := c.toNat
  if n ≤ 0xFFFF then [UInt16.ofNat n]
  else
    [UInt16.ofNat (0xD800 + (n - 0x10000) / 0x400),
      UInt16.ofNat (0xDC00 + (n - 0x10000) % 0x400)]

def encode (s : List Char) : List UInt16 := s.flatMap encodeChar

/-- The character of a surrogate pair. -/
def join (high low : UInt16) : Char :=
  Char.ofNat (0x10000 + (high.toNat - 0xD800) * 0x400 + (low.toNat - 0xDC00))

/-- A surrogate without its partner, and where it stands. -/
structure Lone where
  unit : UInt16
  index : Nat
  deriving DecidableEq, Repr

/-- Decodes units of which the first has the given index. -/
def decodeFrom (index : Nat) : List UInt16 → Except Lone (List Char)
  | [] => .ok []
  | [u] =>
    if isHigh u || isLow u then .error ⟨u, index⟩ else .ok [Char.ofNat u.toNat]
  | u :: v :: rest =>
    if isHigh u then
      if isLow v then (join u v :: ·) <$> decodeFrom (index + 2) rest else .error ⟨u, index⟩
    else if isLow u then .error ⟨u, index⟩
    else (Char.ofNat u.toNat :: ·) <$> decodeFrom (index + 1) (v :: rest)

def decode (units : List UInt16) : Except Lone (List Char) := decodeFrom 0 units

end TextTypes.Text.Units
