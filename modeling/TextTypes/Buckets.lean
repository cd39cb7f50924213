/-!
Spreading keys over buckets.

A key goes to the bucket of its remainder by the number of buckets. The spread is free of
collisions when no bucket receives two keys.
-/

namespace TextTypes.Buckets

/-- How many keys each of `n` buckets receives. -/
def loads (keys : List Nat) (n : Nat) : Array Nat :=
  keys.foldl (fun counts key => counts.modify (key % n) (· + 1)) (Array.replicate n 0)

def isFree (keys : List Nat) (n : Nat) : Bool := (loads keys n).all (· ≤ 1)

/-- The first of the bucket counts `lo, …, hi` that is free of collisions. -/
def least? (keys : List Nat) (lo hi : Nat) : Option Nat :=
  (List.range' lo (hi + 1 - lo)).find? (isFree keys)

/-- The keys in their buckets, each bucket in the order of the list. -/
def fill (index : α → Nat) (n : Nat) (items : List α) : Array (List α) :=
  items.foldl (fun buckets x => buckets.modify (index x % n) (· ++ [x])) (Array.replicate n [])

/-- Where each bucket begins when all are written one after the other, and the end. -/
def starts (sizes : List Nat) : List Nat := go 0 sizes
where
  go (start : Nat) : List Nat → List Nat
    | [] => [start]
    | k :: rest => start :: go (start + k) rest

end TextTypes.Buckets
