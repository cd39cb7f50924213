import TextTypes.CodePoint

/-!
Inclusive spans of code points.

A span is never empty. Cutting a span out of another leaves what stands before the cut and
what stands after it.
-/

namespace TextTypes.Range

structure Span where
  lo : Nat
  hi : Nat
  lo_le_hi : lo ≤ hi
  deriving DecidableEq, Repr

namespace Span

def single (cp : Nat) : Span := ⟨cp, cp, Nat.le_refl cp⟩

instance : Inhabited Span := ⟨single 0⟩

def ofBounds? (lo hi : Nat) : Option Span :=
  if h : lo ≤ hi then some ⟨lo, hi, h⟩ else none

def contains (s : Span) (cp : Nat) : Bool := s.lo ≤ cp && cp ≤ s.hi

instance : Membership Nat Span := ⟨fun s cp => s.lo ≤ cp ∧ cp ≤ s.hi⟩

theorem mem_def {s : Span} {cp : Nat} : cp ∈ s ↔ s.lo ≤ cp ∧ cp ≤ s.hi := Iff.rfl

/-- How many code points a span covers. -/
def size (s : Span) : Nat := s.hi - s.lo + 1

def overlaps (s t : Span) : Bool := s.lo ≤ t.hi && t.lo ≤ s.hi

/-- Where a code point lies as seen from a span. -/
def side (cp : Nat) (s : Span) : Ordering :=
  if cp < s.lo then .lt else if s.hi < cp then .gt else .eq

/-- The part of a span inside the bounds. -/
def clip (lo hi : Nat) (s : Span) : Option Span := ofBounds? (max s.lo lo) (min s.hi hi)

/-- The part of `s` before `cut`. -/
def before (cut s : Span) : List Span :=
  if h : s.lo < cut.lo then [⟨s.lo, min s.hi (cut.lo - 1), by have := s.lo_le_hi; omega⟩] else []

/-- The part of `s` after `cut`. -/
def after (cut s : Span) : List Span :=
  if h : cut.hi < s.hi then [⟨max s.lo (cut.hi + 1), s.hi, by have := s.lo_le_hi; omega⟩] else []

/-- What `cut` leaves of `s`. -/
def minus (cut s : Span) : List Span := before cut s ++ after cut s

/-- Earlier start first, of two that start together the shorter first. -/
def le (s t : Span) : Bool := s.lo < t.lo || (s.lo == t.lo && s.hi ≤ t.hi)

/-- The smallest span that covers both. -/
def join (s t : Span) : Span :=
  ⟨min s.lo t.lo, max s.hi t.hi, by have := s.lo_le_hi; omega⟩

end Span

namespace Spans

def insert (s : Span) : List Span → List Span
  | [] => [s]
  | t :: rest => if s.le t then s :: t :: rest else t :: insert s rest

def sort (spans : List Span) : List Span := spans.foldr insert []

/-- Merges a span with the spans after it as long as they overlap or touch. -/
def absorb (s : Span) : List Span → List Span
  | [] => [s]
  | t :: rest => if t.lo ≤ s.hi + 1 then absorb (s.join t) rest else s :: absorb t rest

/-- Merges neighbours that overlap or touch in a sorted list. -/
def coalesce : List Span → List Span
  | [] => []
  | s :: rest => absorb s rest

/-- Sorted, with a gap between any two spans. -/
def compact (spans : List Span) : List Span := coalesce (sort spans)

/-- How many code points disjoint spans cover. -/
def size (spans : List Span) : Nat := (spans.map Span.size).foldr (· + ·) 0

def remove (cut : Span) (spans : List Span) : List Span := spans.flatMap (Span.minus cut)

end Spans

end TextTypes.Range
