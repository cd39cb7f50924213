import TextTypes.Bisect
import TextTypes.Range.Span
import TextTypes.Unicode.Category
import TextTypes.Unicode.CategoryData
import TextTypes.Unicode.Packed

/-!
The category of every code point, and the code points of every category.

The table cuts the code space into runs of one category. A surrogate has category Cs, and a
number past the last code point counts as unassigned.
-/

namespace TextTypes.Unicode

open TextTypes.Range

structure Run where
  span : Span
  category : Category
  deriving DecidableEq, Repr

namespace Run

/-- An entry of the table opens a run; the next entry, or the end of the code space, closes it. -/
def ofEntries : List Nat → List Run
  | [] => []
  | e :: rest =>
    let stop := match rest with
      | [] => CodePoint.last
      | next :: _ => next / 32 - 1
    match Span.ofBounds? (e / 32) stop, Category.ofOrdinal? (e % 32) with
    | some span, some category => ⟨span, category⟩ :: ofEntries rest
    | _, _ => ofEntries rest

/-- All runs, ascending. -/
def all : List Run := ofEntries (Packed.entries 28 10 CategoryData.rows)

def table : Array Run := all.toArray

end Run

def categoryOf (cp : Nat) : Category :=
  match Bisect.find? Run.table fun r => r.span.side cp with
  | some r => r.category
  | none => .cn

namespace Category

/-- The spans of all code points of a category, ascending. -/
def spans (c : Category) : List Span :=
  (Run.all.filter (·.category = c)).map Run.span

end Category

end TextTypes.Unicode
