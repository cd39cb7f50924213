import TextTypes.Range.Span

/-!
Storage tiers.

A span is kept in the narrowest tier that holds its bounds, so a span across a tier's border
is split there. In a tier of width `w` a span packs into one word of `2 * w` bits, the lower
bound in the high half: packed words sort as their spans do.
-/

namespace TextTypes.Range

inductive Tier
  | single
  | double
  | triple
  deriving DecidableEq, Repr

namespace Tier

/-- The tier of one code point. -/
def of (cp : Nat) : Tier :=
  if cp ≤ 0xFF then .single else if cp ≤ 0xFFFF then .double else .triple

/-- The least code point of a tier. -/
def first : Tier → Nat
  | .single => 0
  | .double => 0x100
  | .triple => 0x10000

/-- The greatest code point a tier holds. -/
def last : Tier → Nat
  | .single => 0xFF
  | .double => 0xFFFF
  | .triple => CodePoint.last

/-- The bits of one bound. -/
def width : Tier → Nat
  | .single => 8
  | .double => 16
  | .triple => 32

def name : Tier → String
  | .single => "SingleByte"
  | .double => "DoubleByte"
  | .triple => "TripleByte"

/-- The part of a span that a tier holds. -/
def clip (t : Tier) (s : Span) : Option Span := s.clip t.first t.last

end Tier

/-- Both bounds of a span in one word of the tier. -/
def pack (t : Tier) (s : Span) : BitVec (2 * t.width) :=
  BitVec.ofNat _ (s.lo * Nat.pow 2 t.width + s.hi % Nat.pow 2 t.width)

/-- The bounds held by a word. -/
def unpack (t : Tier) (w : BitVec (2 * t.width)) : Nat × Nat :=
  (w.toNat / Nat.pow 2 t.width, w.toNat % Nat.pow 2 t.width)

/-- Spans by tier, in the order they were added. -/
structure Tiered where
  single : List Span := []
  double : List Span := []
  triple : List Span := []
  deriving DecidableEq, Repr

namespace Tiered

def toList (r : Tiered) : List Span := r.single ++ r.double ++ r.triple

def addAll (r : Tiered) (spans : List Span) : Tiered where
  single := r.single ++ spans.filterMap Tier.single.clip
  double := r.double ++ spans.filterMap Tier.double.clip
  triple := r.triple ++ spans.filterMap Tier.triple.clip

def add (r : Tiered) (s : Span) : Tiered := r.addAll [s]

def remove (r : Tiered) (cut : Span) : Tiered where
  single := Spans.remove cut r.single
  double := Spans.remove cut r.double
  triple := Spans.remove cut r.triple

def removeAll (r : Tiered) (cuts : List Span) : Tiered := cuts.foldl remove r

def compact (r : Tiered) : Tiered where
  single := Spans.compact r.single
  double := Spans.compact r.double
  triple := Spans.compact r.triple

/-- How many code points compact tiers cover. -/
def size (r : Tiered) : Nat := Spans.size r.single + Spans.size r.double + Spans.size r.triple

end Tiered

end TextTypes.Range
