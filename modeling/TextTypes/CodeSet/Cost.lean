import TextTypes.Buckets

/-!
The modelled memory cost of a layout, in bytes, and the choice between layouts.

An array costs a reference and a header on top of its values. Few blocks or few spans are
always kept as ranges; otherwise a spread without collisions is preferred to any other spread,
and taken if it costs less than the ranges do.
-/

namespace TextTypes.CodeSet

/-- What the cost of a layout depends on. -/
structure Shape where
  keys : List Nat
  spanCount : Nat
  pieceCount : Nat
  single : Nat
  double : Nat
  triple : Nat

inductive Strategy
  | ranged
  | hashed (buckets : Nat)
  | optimal (buckets : Nat)
  deriving DecidableEq, Repr

def Strategy.inspect : Strategy → String
  | ranged => "Ranged"
  | hashed n => "Hashed \x7b bucket_count: " ++ toString n ++ " \x7d"
  | optimal n => "OptimalHashed \x7b bucket_count: " ++ toString n ++ " \x7d"

structure Choice where
  strategy : Strategy
  rangedCost : Nat
  hashedCost : Option Nat
  deriving DecidableEq, Repr

namespace Cost

def referenceBytes : Nat := 8

/-- A reference to an array and the array's header. -/
def arrayBytes : Nat := referenceBytes + 16

def ranged (single double triple : Nat) : Nat :=
  3 * arrayBytes + 2 * single + 4 * double + 8 * triple

def optimal (buckets pieces : Nat) : Nat :=
  3 * arrayBytes + 2 * buckets + 4 * (buckets + 1) + 2 * pieces

/-- The number of buckets with more than one key. -/
def crowded (loads : Array Nat) : Nat := (loads.filter (1 < ·)).size

/-- The square of the keys beyond the first, summed over all buckets. -/
def penalty (loads : Array Nat) : Nat := (loads.map fun k => (k - 1) * (k - 1)).foldr (· + ·) 0

def hashed (keys : List Nat) (pieces buckets : Nat) : Nat :=
  let loads := Buckets.loads keys buckets
  5 * arrayBytes + 4 * (buckets + 1) + 2 * keys.length + 4 * (keys.length + 1) + 2 * pieces +
    crowded loads * arrayBytes + penalty loads * referenceBytes

/-- The most buckets tried for `k` keys: 2.6 times as many, rounded up. -/
def upperBound (k : Nat) : Nat := (13 * k + 4) / 5

/-- The fewest buckets tried for `k` keys: 0.7 times as many, rounded up, at least one. -/
def lowerBound (k : Nat) : Nat := max ((7 * k + 9) / 10) 1

/-- The least bucket count without collisions, from as many buckets as keys upwards. -/
def optimalCount? (keys : List Nat) : Option Nat :=
  if keys.isEmpty then some 1 else Buckets.least? keys keys.length (upperBound keys.length)

/-- The cheapest bucket count of the general spread with its cost, the least of several. -/
def cheapest (keys : List Nat) (pieces : Nat) : Nat × Nat :=
  let lo := lowerBound keys.length
  let hi := max (upperBound keys.length) 1
  (List.range' (lo + 1) (hi - lo)).foldl (fun best n =>
      let cost := hashed keys pieces n
      if cost < best.2 then (n, cost) else best)
    (lo, hashed keys pieces lo)

/-- At or below this many blocks spreading never pays off. -/
def fewBlocks : Nat := 2

/-- At or below this many spans bisection is always cheaper. -/
def fewSpans : Nat := 32

end Cost

def Shape.choose (s : Shape) : Choice :=
  let ranged := Cost.ranged s.single s.double s.triple
  if s.keys.length ≤ Cost.fewBlocks ∨ s.spanCount ≤ Cost.fewSpans then ⟨.ranged, ranged, none⟩
  else
    let (strategy, cost) : Strategy × Nat :=
      match Cost.optimalCount? s.keys with
      | some n => (.optimal n, Cost.optimal n s.pieceCount)
      | none =>
        let best := Cost.cheapest s.keys s.pieceCount
        (.hashed best.1, best.2)
    ⟨if cost < ranged then strategy else .ranged, ranged, some cost⟩

end TextTypes.CodeSet
