import TextTypes.BuildError
import TextTypes.CodeSet.Basic

/-!
Building sets of code points.

What is excluded stays out whatever else includes it, in any order of the calls. An excluded
code point inside an included category is honoured by listing that category's members: the
category leaves the mask and its spans are cut. The first invalid range is remembered and
reported by the build.
-/

namespace TextTypes.CodeSet

open TextTypes.Range TextTypes.Unicode

structure Builder where
  included : Tiered := {}
  excluded : Tiered := {}
  includedCategories : CategoryMask := 0#64
  excludedCategories : CategoryMask := 0#64
  error : Option BuildError := none

namespace Builder

/-- A valid range as a span. -/
def range? (lo hi : Nat) : Option Span :=
  if hi ≤ CodePoint.last then Span.ofBounds? lo hi else none

/-- Remembers the first error. -/
def fail (b : Builder) (e : BuildError) : Builder := { b with error := b.error <|> some e }

def includeRange (b : Builder) (lo hi : Nat) : Builder :=
  match range? lo hi with
  | some s => { b with included := b.included.add s }
  | none => b.fail (.invalidRange lo hi)

def excludeRange (b : Builder) (lo hi : Nat) : Builder :=
  match range? lo hi with
  | some s => { b with excluded := b.excluded.add s }
  | none => b.fail (.invalidRange lo hi)

def includeCodePoint (b : Builder) (cp : Nat) : Builder := b.includeRange cp cp

def excludeCodePoint (b : Builder) (cp : Nat) : Builder := b.excludeRange cp cp

def includeChars (b : Builder) (s : List Char) : Builder :=
  s.foldl (fun b c => b.includeCodePoint c.toNat) b

def excludeChars (b : Builder) (s : List Char) : Builder :=
  s.foldl (fun b c => b.excludeCodePoint c.toNat) b

def includeCategory (b : Builder) (c : Category) : Builder :=
  { b with includedCategories := b.includedCategories ||| CategoryMask.bit c }

def excludeCategory (b : Builder) (c : Category) : Builder :=
  { b with excludedCategories := b.excludedCategories ||| CategoryMask.bit c }

/-- Includes what another set accepts. -/
def includeSet (b : Builder) (s : CodeSet) : Builder :=
  { b with
    included := b.included.addAll s.spans
    includedCategories := b.includedCategories ||| s.categories }

/-- Excludes what another set accepts. -/
def excludeSet (b : Builder) (s : CodeSet) : Builder :=
  { b with
    excluded := b.excluded.addAll s.spans
    excludedCategories := b.excludedCategories ||| s.categories }

/-- Whether some of the spans meet a category. -/
def meets (spans : List Span) (c : Category) : Bool :=
  c.spans.any fun run => spans.any run.overlaps

/-- The categories that are listed, because an excluded code point belongs to them. -/
def listed (excluded : Tiered) (mask : CategoryMask) : List Category :=
  mask.toList.filter (meets excluded.toList)

def buildRanged (b : Builder) : Except BuildError CodeSet :=
  match b.error with
  | some e => .error e
  | none =>
    let excluded := b.excluded.compact
    let cuts := excluded.toList ++ b.excludedCategories.toList.flatMap Category.spans
    let kept := b.included.removeAll cuts
    let mask := b.includedCategories &&& ~~~b.excludedCategories
    let listed := listed excluded mask
    let all := (kept.addAll (listed.flatMap Category.spans)).removeAll excluded.toList
    let spans := all.compact
    .ok {
      layout := .ranged (.ofTiered spans)
      categories := mask &&& ~~~CategoryMask.ofList listed
      size := spans.size }

def build (b : Builder) : Except BuildError CodeSet := b.buildRanged.map optimised

/-- The events of `build`. -/
def buildEvents (b : Builder) : List Event :=
  match b.buildRanged with
  | .ok s => [s.layoutEvent]
  | .error _ => []

def inspectTiered (r : Tiered) : String :=
  Text.apply "Ranges" [Text.list (r.toList.map inspectSpan)]

def inspect (b : Builder) : String :=
  Text.record "SubsetBuilder" [("include", inspectTiered b.included),
    ("exclude", inspectTiered b.excluded),
    ("include_categories", toString b.includedCategories.toNat),
    ("exclude_categories", toString b.excludedCategories.toNat),
    ("error", Text.option (b.error.map BuildError.inspect))]

end Builder

end TextTypes.CodeSet
