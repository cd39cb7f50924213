/-!
Tables written as rows of fixed-width digits.

A row is one number; its digits, most significant first, are the entries. Zero is no entry:
it fills up the last row.
-/

namespace TextTypes.Unicode.Packed

/-- The `count` digits of `row` in base `2 ^ bits`, most significant first. -/
def digits (bits count row : Nat) : List Nat :=
  (List.range count).map fun i => (row >>> (bits * (count - 1 - i))) % Nat.pow 2 bits

def entries (bits count : Nat) (rows : List Nat) : List Nat :=
  (rows.flatMap (digits bits count)).filter (· ≠ 0)

/-- Entries taken in pairs. -/
def pairs : List Nat → List (Nat × Nat)
  | a :: b :: rest => (a, b) :: pairs rest
  | _ => []

/-- Entries taken by three. -/
def triples : List Nat → List (Nat × Nat × Nat)
  | a :: b :: c :: rest => (a, b, c) :: triples rest
  | _ => []

/-- The mark of an entry that opens a group. -/
def mark : Nat := 0x800000

/-- The entries in front of the first marked one, and the groups after them. -/
def splitMarked : List Nat → List Nat × List (Nat × List Nat)
  | [] => ([], [])
  | e :: rest =>
    let (front, groups) := splitMarked rest
    if e < mark then (e :: front, groups) else ([], (e - mark, front) :: groups)

/-- Each marked entry, without its mark, with the entries up to the next marked one. -/
def groups (es : List Nat) : List (Nat × List Nat) := (splitMarked es).2

end TextTypes.Unicode.Packed
