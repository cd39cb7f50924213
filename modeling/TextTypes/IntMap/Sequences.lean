import TextTypes.IntMap.Basic

/-!
Maps from 32-bit integers to sequences.

The sequences lie in one store and the map holds their places. A replaced sequence stays in
the builder's store; freezing fills a fresh store and a fresh index with the sequences still
in use.

A store has room for any number of sequences of any length. `TextTypes.Proofs.IntMap.Rows` has the
store whose places are 32-bit words, and says which insertions it refuses.
-/

namespace TextTypes

/-- A store of sequences, each at the place it was added. -/
abbrev SequenceMap.Store (α : Type) := Array (List α)

structure SequenceMap.Builder (α : Type) where
  index : IntMap.Builder Nat := .empty
  store : SequenceMap.Store α := #[]

structure SequenceMap (α : Type) where
  index : IntMap Nat
  store : SequenceMap.Store α

namespace SequenceMap

variable {α : Type}

namespace Builder

def size (b : Builder α) : Nat := b.index.size

def insert (b : Builder α) (key : Int32) (sequence : List α) : Builder α where
  index := b.index.insert key b.store.size
  store := b.store.push sequence

def get? (b : Builder α) (key : Int32) : Option (List α) :=
  (b.index.get? key).bind (b.store[·]?)

def entries (b : Builder α) : List (Int32 × List α) :=
  b.index.entries.map fun (key, place) => (key, b.store[place]?.getD [])

/-- The sequences in use, in iteration order, in a fresh store under an index of as many
buckets. -/
def repack (b : Builder α) : Builder α :=
  b.entries.foldl (fun fresh (key, sequence) => fresh.insert key sequence)
    { index := .withBucketCount b.index.bucketCount }

def freeze (b : Builder α) : SequenceMap α :=
  let fresh := b.repack
  ⟨fresh.index.freeze, fresh.store⟩

end Builder

def get? (m : SequenceMap α) (key : Int32) : Option (List α) :=
  (m.index.get? key).bind (m.store[·]?)

def size (m : SequenceMap α) : Nat := m.index.size

def isEmpty (m : SequenceMap α) : Bool := m.index.isEmpty

def isOptimal (m : SequenceMap α) : Bool := m.index.isOptimal

def entries (m : SequenceMap α) : List (Int32 × List α) :=
  m.index.entries.map fun (key, place) => (key, m.store[place]?.getD [])

def builtEvent (m : SequenceMap α) : Event := m.index.builtEvent

def inspectEntries (entries : List (Int32 × List Nat)) : String :=
  Text.map (entries.map fun (key, sequence) => (toString key.toInt, Text.numbers sequence))

def inspect (m : SequenceMap Nat) : String :=
  Text.apply "IntArrayMap" [inspectEntries m.entries]

end SequenceMap

end TextTypes
