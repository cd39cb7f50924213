import TextTypes.Event
import TextTypes.IntMap.Builder
import TextTypes.Text.Literal

/-!
A frozen map from 32-bit integers.

If some number of buckets within reach gives every key a bucket of its own, the map is one
row of slots and a look-up reads one slot. Otherwise the buckets of the builder are kept. The
least 32-bit integer marks a free slot, so a map with that key is never a row of slots, and
its entry is left out when the entries are listed.

The place where a bucket begins is a number of any size in the literals. A 32-bit word holds it
unless every 32-bit integer is a key, as `TextTypes.Proofs.IntMap.Rows` shows.
-/

namespace TextTypes

inductive IntMap.Layout (α : Type)
  | slots (slots : Array (Int32 × α))
  | bucketed (buckets : Array (IntMap.Bucket α))

structure IntMap (α : Type) where
  layout : IntMap.Layout α
  size : Nat

namespace IntMap

/-- The key of a free slot. -/
def freeKey : Int32 := Int32.minValue

/-- The least number of slots, up to four for each key, that gives every key its own. -/
def slotCount? (keys : List Int32) : Option Nat :=
  if keys.contains freeKey then none
  else if keys.isEmpty then some 1
  else Buckets.least? (keys.map keyBits) (max keys.length 1) (max (keys.length * 4) 1)

/-- A row of slots with every entry at its place. -/
def placeAll [Inhabited α] (entries : List (Int32 × α)) (n : Nat) : Array (Int32 × α) :=
  entries.foldl (fun slots e => slots.setIfInBounds (slotOf e.1 n) e)
    (Array.replicate n (freeKey, default))

def Builder.freeze [Inhabited α] (b : Builder α) : IntMap α where
  layout :=
    match slotCount? (b.entries.map Prod.fst) with
    | some n => .slots (placeAll b.entries n)
    | none => .bucketed b.buckets
  size := b.size

variable {α : Type}

def get? (m : IntMap α) (key : Int32) : Option α :=
  match m.layout with
  | .slots slots =>
    if key = freeKey then none
    else
      match slots[slotOf key slots.size]? with
      | some e => if e.1 = key then some e.2 else none
      | none => none
  | .bucketed buckets =>
    match buckets[slotOf key buckets.size]? with
    | some bucket => bucket.get? key
    | none => none

def contains (m : IntMap α) (key : Int32) : Bool := (m.get? key).isSome

def isEmpty (m : IntMap α) : Bool := m.size == 0

/-- Whether every key has a slot of its own. -/
def isOptimal (m : IntMap α) : Bool :=
  match m.layout with
  | .slots _ => true
  | .bucketed _ => false

def bucketCount (m : IntMap α) : Nat :=
  match m.layout with
  | .slots slots => slots.size
  | .bucketed buckets => buckets.size

/-- The entries in the order they are stored, without the key of a free slot. -/
def entries (m : IntMap α) : List (Int32 × α) :=
  let stored := match m.layout with
    | .slots slots => slots.toList
    | .bucketed buckets => buckets.toList.flatten
  stored.filter (·.1 ≠ freeKey)

/-- Reported when a map is frozen. -/
def builtEvent (m : IntMap α) : Event where
  level := .debug
  message := "built int map"
  fields := [("entries", toString m.size), ("optimal", Text.bool m.isOptimal),
    ("buckets", toString m.bucketCount)]

def bits (n : Int32) : Nat := n.toUInt32.toNat

/-- The stored arrays as source literals. -/
def literals (m : IntMap Int32) (label : String) : String :=
  let arrays (stored : List (Int32 × Int32)) : String :=
    Text.Literal.array (label ++ "_KEYS") Text.Literal.i32 (stored.map (bits ·.1)) ++
      Text.Literal.array (label ++ "_VALUES") Text.Literal.i32 (stored.map (bits ·.2))
  match m.layout with
  | .slots slots => arrays slots.toList
  | .bucketed buckets =>
    Text.Literal.array (label ++ "_BUCKET_STARTS") Text.Literal.u32
      (Buckets.starts (buckets.toList.map List.length)) ++ arrays buckets.toList.flatten

def inspectEntries (entries : List (Int32 × Int32)) : String :=
  Text.map (entries.map fun (k, v) => (toString k.toInt, toString v.toInt))

def inspect (m : IntMap Int32) : String := Text.apply "IntMap" [inspectEntries m.entries]

end IntMap

end TextTypes
