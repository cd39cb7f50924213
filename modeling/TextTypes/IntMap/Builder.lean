import TextTypes.Buckets
import TextTypes.Text.Record

/-!
A growing map from 32-bit integers.

Keys are spread over buckets by their bits without the sign. A bucket holds its entries in
the order they came; when the map holds more than three quarters as many entries as buckets,
all entries move to a larger row of buckets, in bucket order.
-/

namespace TextTypes.IntMap

/-- The bits of a key without the sign bit. -/
def keyBits (key : Int32) : Nat := key.toUInt32.toNat % 0x80000000

/-- The bucket of a key among `n`. -/
def slotOf (key : Int32) (n : Nat) : Nat := keyBits key % n

abbrev Bucket (α : Type) := List (Int32 × α)

namespace Bucket

def get? (b : Bucket α) (key : Int32) : Option α := (b.find? (·.1 == key)).map Prod.snd

/-- Replaces the value of a key that is present. -/
def replace (b : Bucket α) (key : Int32) (value : α) : Bucket α :=
  b.map fun e => if e.1 = key then (key, value) else e

end Bucket

structure Builder (α : Type) where
  buckets : Array (Bucket α)
  size : Nat := 0

namespace Builder

def withBucketCount (n : Nat) : Builder α where
  buckets := Array.replicate (max n 1) []

def empty : Builder α := withBucketCount 11

def bucketCount (b : Builder α) : Nat := b.buckets.size

/-- The number of entries at which `n` buckets are full. -/
def threshold (n : Nat) : Nat := n * 3 / 4

/-- All entries in bucket order. -/
def entries (b : Builder α) : List (Int32 × α) := b.buckets.toList.flatten

def bucketOf (b : Builder α) (key : Int32) : Bucket α :=
  b.buckets[slotOf key b.bucketCount]?.getD []

def get? (b : Builder α) (key : Int32) : Option α := (b.bucketOf key).get? key

/-- Moves all entries to half as many buckets more, and one. -/
def grow (b : Builder α) : Builder α :=
  let n := b.bucketCount * 3 / 2 + 1
  { b with buckets := Buckets.fill (fun e => keyBits e.1) n b.entries }

def setBucket (b : Builder α) (key : Int32) (f : Bucket α → Bucket α) : Array (Bucket α) :=
  b.buckets.modify (slotOf key b.bucketCount) f

def insert (b : Builder α) (key : Int32) (value : α) : Builder α :=
  if (b.get? key).isSome then { b with buckets := b.setBucket key (·.replace key value) }
  else
    let added : Builder α := ⟨b.setBucket key (· ++ [(key, value)]), b.size + 1⟩
    if added.size > threshold added.bucketCount then added.grow else added

/-- An insertion with its answer, the value that the key had before. -/
def exchange (b : Builder α) (key : Int32) (value : α) : Option α × Builder α :=
  (b.get? key, b.insert key value)

end Builder

end TextTypes.IntMap
