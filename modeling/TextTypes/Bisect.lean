/-!
Bisection of a sorted array.

The caller says where the wanted entry lies as seen from an entry: before it, at it or after
it. The interval still to be searched halves at each step, so its first length is fuel enough.
-/

namespace TextTypes.Bisect

def search (xs : Array α) (side : α → Ordering) : (fuel lo hi : Nat) → Option α
  | 0, _, _ => none
  | fuel + 1, lo, hi =>
    if lo < hi then
      let mid := lo + (hi - lo) / 2
      match xs[mid]? with
      | none => none
      | some x =>
        match side x with
        | .eq => some x
        | .lt => search xs side fuel lo mid
        | .gt => search xs side fuel (mid + 1) hi
    else none

/-- The entry that `side` calls equal. -/
def find? (xs : Array α) (side : α → Ordering) : Option α :=
  search xs side xs.size 0 xs.size

end TextTypes.Bisect
