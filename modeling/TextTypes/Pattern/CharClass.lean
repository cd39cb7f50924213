import TextTypes.Range.Span
import TextTypes.Unicode.Letters

/-!
Classes of characters.

A class is a sorted list of spans with gaps between them. A class closed under case holds, with
a character, every character that differs from it in case only.
-/

namespace TextTypes

open TextTypes.Range TextTypes.Unicode

structure CharClass where
  spans : List Span
  deriving DecidableEq, Repr

namespace CharClass

def ofSpans (spans : List Span) : CharClass := ⟨Spans.compact spans⟩

def single (c : Char) : CharClass := ⟨[.single c.toNat]⟩

def covers (cls : CharClass) (cp : Nat) : Bool := cls.spans.any (·.contains cp)

def contains (cls : CharClass) (c : Char) : Bool := cls.covers c.toNat

/-- The only member, if there is one member. -/
def member? (cls : CharClass) : Option Char :=
  match cls.spans with
  | [s] => if s.lo = s.hi then CodePoint.scalar? s.lo else none
  | _ => none

def isAscii (cls : CharClass) : Bool := cls.spans.all (·.hi < 0x80)

def union (classes : List CharClass) : CharClass := ofSpans (classes.flatMap spans)

/-- What sorted spans leave of the code points from `lo` on. -/
def gaps (lo : Nat) : List Span → List Span
  | [] => (Span.ofBounds? lo CodePoint.last).toList
  | s :: rest =>
    (if lo < s.lo then (Span.ofBounds? lo (s.lo - 1)).toList else []) ++ gaps (s.hi + 1) rest

/-- All other code points. -/
def complement (cls : CharClass) : CharClass := ⟨gaps 0 cls.spans⟩

/-- The class closed under case. -/
def foldCase (cls : CharClass) : CharClass :=
  let forms := ((Letters.folded.filter (cls.contains ·.1)).map Prod.snd).eraseDups
  let added := Letters.folded.filter (forms.contains ·.2)
  ofSpans (cls.spans ++ forms.map (.single ·.toNat) ++ added.map (.single ·.1.toNat))

/-- Any character but a line feed. -/
def dot : CharClass := complement (single '\n')

end CharClass

end TextTypes
