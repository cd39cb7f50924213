import TextTypes.Bisect
import TextTypes.Buckets
import TextTypes.CodeSet.Block
import TextTypes.Range.Tier
import TextTypes.Text.Literal

/-!
How a set of code points is stored.

Ranged: compact spans by tier, searched by bisection. Hashed: blocks spread over buckets by
their keys. Optimal: blocks spread so that no bucket holds two of them, so a look-up reads one
slot. Every layout describes the same spans.
-/

namespace TextTypes.CodeSet

open TextTypes.Range

structure Tiers where
  single : Array Span := #[]
  double : Array Span := #[]
  triple : Array Span := #[]
  deriving Repr

inductive Layout
  | ranged (tiers : Tiers)
  | hashed (buckets : Array (List Block))
  | optimal (slots : Array (Option Block))

/-- Whether sorted spans cover a code point. -/
def covers (spans : Array Span) (cp : Nat) : Bool := (Bisect.find? spans (Span.side cp)).isSome

namespace Tiers

def ofTiered (r : Tiered) : Tiers := ⟨r.single.toArray, r.double.toArray, r.triple.toArray⟩

def contains (t : Tiers) (cp : Nat) : Bool :=
  match Tier.of cp with
  | .single => covers t.single cp
  | .double => covers t.double cp
  | .triple => covers t.triple cp

def spans (t : Tiers) : List Span := t.single.toList ++ t.double.toList ++ t.triple.toList

end Tiers

namespace Layout

/-- Blocks in `n` buckets, in the order of their keys within a bucket. -/
def hash (blocks : List Block) (n : Nat) : Layout :=
  .hashed (Buckets.fill Block.key (max n 1) blocks)

/-- Puts every block into its own slot, unless two blocks meet. -/
def placeAll : List Block → Array (Option Block) → Option (Array (Option Block))
  | [], slots => some slots
  | b :: rest, slots =>
    match slots[b.key % slots.size]? with
    | some none => placeAll rest (slots.setIfInBounds (b.key % slots.size) (some b))
    | _ => none

def place? (blocks : List Block) (n : Nat) : Option Layout :=
  (placeAll blocks (Array.replicate (max n 1) none)).map .optimal

/-- Whether the spans of a layout cover a code point. -/
def contains (l : Layout) (cp : Nat) : Bool :=
  match l with
  | .ranged tiers => tiers.contains cp
  | .hashed buckets =>
    if CodePoint.last < cp then false
    else
      match (buckets[keyOf cp % buckets.size]?.getD []).find? (·.key == keyOf cp) with
      | some b => covers b.pieces (offsetOf cp)
      | none => false
  | .optimal slots =>
    if CodePoint.last < cp then false
    else
      match slots[keyOf cp % slots.size]? with
      | some (some b) => b.key == keyOf cp && covers b.pieces (offsetOf cp)
      | _ => false

/-- The stored spans in ascending order, cut at the borders of tiers or blocks. -/
def pieces (l : Layout) : List Span :=
  match l with
  | .ranged tiers => tiers.spans
  | .hashed buckets => Spans.sort (buckets.toList.flatten.flatMap Block.spans)
  | .optimal slots => Spans.sort ((slots.toList.filterMap id).flatMap Block.spans)

/-- The covered code points as ascending spans with gaps between them. -/
def spans (l : Layout) : List Span := Spans.coalesce l.pieces

def name : Layout → String
  | .ranged _ => "Ranged"
  | .hashed _ => "Hashed"
  | .optimal _ => "OptimalHashed"

/-! ### Source literals -/

/-- The key written for a free slot. -/
def freeKey : Nat := 0xFFFF

def packed (t : Tier) (spans : List Span) : List Nat := spans.map fun s => (pack t s).toNat

/-- One tier of a ranged layout; an empty tier is left out. -/
def tierLiteral (label part : String) (e : Text.Literal.Element) (t : Tier) (spans : List Span) :
    String :=
  if spans.isEmpty then "" else Text.Literal.array (label ++ part) e (packed t spans)

def literals (l : Layout) (label : String) : String :=
  let offsets (blocks : List Block) : String :=
    Text.Literal.array (label ++ "_OFFSET_RANGES") Text.Literal.u16
      (packed .single (blocks.flatMap (·.pieces.toList)))
  match l with
  | .ranged tiers =>
    tierLiteral label "_SINGLE_BYTE_RANGES" Text.Literal.u16 .single tiers.single.toList ++
      tierLiteral label "_DOUBLE_BYTE_RANGES" Text.Literal.u32 .double tiers.double.toList ++
      tierLiteral label "_TRIPLE_BYTE_RANGES" Text.Literal.u64 .triple tiers.triple.toList
  | .hashed buckets =>
    let blocks := buckets.toList.flatten
    Text.Literal.array (label ++ "_BUCKET_STARTS") Text.Literal.u32
        (Buckets.starts (buckets.toList.map List.length)) ++
      Text.Literal.array (label ++ "_BLOCK_KEYS") Text.Literal.u16 (blocks.map Block.key) ++
      Text.Literal.array (label ++ "_KEY_RANGE_STARTS") Text.Literal.u32
        (Buckets.starts (blocks.map (·.pieces.size))) ++
      offsets blocks
  | .optimal slots =>
    let slots := slots.toList
    Text.Literal.array (label ++ "_BLOCK_KEYS") Text.Literal.u16
        (slots.map fun slot => (slot.map Block.key).getD freeKey) ++
      Text.Literal.array (label ++ "_RANGE_STARTS") Text.Literal.u32
        (Buckets.starts (slots.map fun slot => (slot.map (·.pieces.size)).getD 0)) ++
      offsets (slots.filterMap id)

end Layout

end TextTypes.CodeSet
