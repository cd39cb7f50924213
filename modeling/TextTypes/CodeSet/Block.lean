import TextTypes.Range.Span

/-!
Spans cut at multiples of 256.

A block holds the parts of the spans that lie in one stretch of 256 code points, as spans of
offsets in it. Its key is the number of the stretch.
-/

namespace TextTypes.CodeSet

open TextTypes.Range

/-- The stretch of a code point. -/
def keyOf (cp : Nat) : Nat := cp / 256

/-- The place of a code point in its stretch. -/
def offsetOf (cp : Nat) : Nat := cp % 256

structure Block where
  key : Nat
  pieces : Array Span
  deriving Repr

namespace Block

/-- The code points of a block, as spans. -/
def spans (b : Block) : List Span :=
  b.pieces.toList.map fun p => ⟨b.key * 256 + p.lo, b.key * 256 + p.hi, by
    have := p.lo_le_hi; omega⟩

/-- The parts of one span by stretch. -/
def piecesOf (s : Span) : List (Nat × Span) :=
  (List.range' (keyOf s.lo) (keyOf s.hi + 1 - keyOf s.lo)).filterMap fun key =>
    (s.clip (key * 256) (key * 256 + 255)).bind fun part =>
      (Span.ofBounds? (part.lo - key * 256) (part.hi - key * 256)).map (key, ·)

/-- Puts a part in front of the blocks after it. -/
def push (part : Nat × Span) : List (Nat × List Span) → List (Nat × List Span)
  | [] => [(part.1, [part.2])]
  | b :: rest =>
    if b.1 = part.1 then (b.1, part.2 :: b.2) :: rest else (part.1, [part.2]) :: b :: rest

/-- The blocks of ascending spans, ascending. -/
def ofSpans (spans : List Span) : List Block :=
  ((spans.flatMap piecesOf).foldr push []).map fun b => ⟨b.1, b.2.toArray⟩

def pieceCount (blocks : List Block) : Nat := (blocks.map (·.pieces.size)).foldr (· + ·) 0

end Block

end TextTypes.CodeSet
