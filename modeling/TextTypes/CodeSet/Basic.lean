import TextTypes.CodeSet.Cost
import TextTypes.CodeSet.Layout
import TextTypes.Event
import TextTypes.Text.Quoted
import TextTypes.Text.Record
import TextTypes.Unicode.CategoryRuns

/-!
Sets of code points.

A set accepts the code points its spans cover and the members of its categories. Its layout
can be changed without changing what it accepts.
-/

namespace TextTypes

open TextTypes.Range TextTypes.Unicode

structure CodeSet where
  layout : CodeSet.Layout
  categories : CategoryMask := 0#64
  /-- How many code points the spans cover; members of the categories do not count. -/
  size : Nat := 0

namespace CodeSet

def empty : CodeSet where
  layout := .ranged {}

instance : Inhabited CodeSet := ⟨empty⟩

def contains (s : CodeSet) (cp : Nat) : Bool :=
  s.layout.contains cp || (s.categories != 0#64 && s.categories.has (categoryOf cp))

def containsChar (s : CodeSet) (c : Char) : Bool := s.contains c.toNat

def isEmpty (s : CodeSet) : Bool := s.categories == 0#64 && s.size == 0

/-- The covered code points as ascending spans with gaps between them. -/
def spans (s : CodeSet) : List Span := s.layout.spans

def blocks (s : CodeSet) : List Block := Block.ofSpans s.spans

def tiered (s : CodeSet) : Tiered := (Tiered.addAll {} s.spans).compact

/-- The tiers of the ranged layout. -/
def tiers (s : CodeSet) : Tiers :=
  match s.layout with
  | .ranged tiers => tiers
  | _ => Tiers.ofTiered s.tiered

def toRanged (s : CodeSet) : CodeSet := { s with layout := .ranged s.tiers }

def toHashed (s : CodeSet) (buckets : Nat) : CodeSet :=
  { s with layout := .hash s.blocks buckets }

def toOptimal? (s : CodeSet) : Option CodeSet := do
  let n ← Cost.optimalCount? (s.blocks.map Block.key)
  let layout ← Layout.place? s.blocks n
  return { s with layout }

def shape (s : CodeSet) : Shape where
  keys := s.blocks.map Block.key
  spanCount := s.spans.length
  pieceCount := Block.pieceCount s.blocks
  single := s.tiers.single.size
  double := s.tiers.double.size
  triple := s.tiers.triple.size

/-- The same set in the layout that costs the least memory. -/
def optimised (s : CodeSet) : CodeSet :=
  match s.shape.choose.strategy with
  | .ranged => s.toRanged
  | .hashed n => s.toHashed n
  | .optimal n =>
    match Layout.place? s.blocks n with
    | some layout => { s with layout }
    | none => s.toRanged

/-- Reported when a layout is chosen for a set. -/
def layoutEvent (s : CodeSet) : Event :=
  let shape := s.shape
  let choice := shape.choose
  { level := .debug
    message := "chose subset layout"
    fields := [("ranges", toString shape.spanCount), ("block_keys", toString shape.keys.length),
      ("ranged_cost", toString choice.rangedCost),
      ("hashed_cost", Text.option (choice.hashedCost.map toString)),
      ("strategy", choice.strategy.inspect)] }

/-- The stored arrays as source literals. -/
def literals (s : CodeSet) (label : String) : String :=
  s.layout.literals label ++
    if s.categories = 0#64 then ""
    else label ++ "_CATEGORIES: u64 = 0x" ++ Text.hex 16 s.categories.toNat ++ ";\n"

def inspectSpan (s : Span) : String := toString s.lo ++ "..=" ++ toString s.hi

def inspect (s : CodeSet) : String :=
  let categories := s.categories.toList.map fun c => Text.quotedString c.abbreviation
  Text.apply "Subset" ([s.layout.name, Text.list (s.spans.map inspectSpan)] ++
    if s.categories = 0#64 then [] else [Text.list categories])

end CodeSet

end TextTypes
