/-!
Sets of positions in a text.

A set is a number, and a position belongs to it if its bit is set.
-/

namespace TextTypes.Pattern

structure Places where
  bits : Nat
  deriving DecidableEq, Repr

namespace Places

def none : Places := ⟨0⟩

def only (i : Nat) : Places := ⟨1 <<< i⟩

/-- All positions up to `n`, which belongs to them. -/
def upTo (n : Nat) : Places := ⟨1 <<< (n + 1) - 1⟩

def contains (s : Places) (i : Nat) : Bool := s.bits.testBit i

instance : Membership Nat Places := ⟨fun s i => s.contains i = true⟩

def isEmpty (s : Places) : Bool := s.bits == 0

def union (s t : Places) : Places := ⟨s.bits ||| t.bits⟩

def inter (s t : Places) : Places := ⟨s.bits &&& t.bits⟩

/-- The positions of `s` that are not in `t`. -/
def minus (s t : Places) : Places := ⟨(s.bits ||| t.bits) ^^^ t.bits⟩

/-- Every position moved one further. -/
def next (s : Places) : Places := ⟨s.bits <<< 1⟩

/-- The positions of the letters of a text for which `test` holds. -/
def ofText {α : Type} (test : α → Bool) (text : List α) : Places :=
  ⟨text.foldr (fun letter bits => 2 * bits + (test letter).toNat) 0⟩

end Places

end TextTypes.Pattern
