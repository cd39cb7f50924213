import TextTypes.BuildError
import TextTypes.Conversion.Converter

/-!
Collecting substitution rules.

A later rule replaces an earlier one with the same source. A rule that names a number which is
no character is dropped, and the first such number is reported by the build.
-/

namespace TextTypes.Converter

open TextTypes.Conversion TextTypes.Unicode

structure Builder where
  singles : SequenceMap.Builder Char := {}
  sequences : List (List Char × List Char) := []
  categories : SequenceMap.Builder Char := {}
  error : Option BuildError := none

namespace Builder

/-- Remembers the first error. -/
def fail (b : Builder) (cp : Nat) : Builder :=
  { b with error := b.error <|> some (.invalidRange cp cp) }

/-- The first number that is no character. -/
def firstInvalid? (cps : List Nat) : Option Nat := cps.find? (CodePoint.scalar? · |>.isNone)

def convertChar (b : Builder) (source : Char) (replacement : List Char) : Builder :=
  { b with singles := b.singles.insert (key source.toNat) replacement }

/-- A rule for a single code point. -/
def convertCodePoint (b : Builder) (source : Nat) (replacement : List Nat) : Builder :=
  match firstInvalid? (source :: replacement) with
  | some bad => b.fail bad
  | none => b.convertChar (Char.ofNat source) (CodePoint.scalars replacement)

/-- A rule for a sequence. An empty source is ignored. -/
def convertSequence (b : Builder) (source replacement : List Char) : Builder :=
  match source with
  | [] => b
  | [c] => b.convertChar c replacement
  | _ => { b with sequences := b.sequences.filter (·.1 ≠ source) ++ [(source, replacement)] }

/-- A rule for the members of a category without a rule of their own. -/
def convertCategory (b : Builder) (c : Category) (replacement : List Char) : Builder :=
  { b with categories := b.categories.insert (key c.ordinal) replacement }

/-- All sources with their replacements, single characters first. -/
def sources (b : Builder) : List (List Char × List Char) :=
  b.singles.entries.map (fun (k, image) => (CodePoint.scalars [k.toUInt32.toNat], image)) ++
    b.sequences

/-- The trie of all sources. -/
def trie (b : Builder) : Trie Rule :=
  (b.sources.zipIdx).foldl (fun t ((source, image), rank) => t.insert source ⟨rank, image⟩) .empty

def form (b : Builder) : Form :=
  if b.sequences.isEmpty then .direct b.singles.freeze else .sequence b.trie

def build (b : Builder) : Except BuildError Converter :=
  match b.error with
  | some e => .error e
  | none => .ok ⟨b.form, b.categories.freeze⟩

/-- The events of `build`. -/
def buildEvents (b : Builder) : List Event :=
  match b.build with
  | .error _ => []
  | .ok c =>
    [c.categories.builtEvent] ++
      (match c.form with
        | .direct map => [map.builtEvent]
        | .sequence _ => []) ++
      [c.builtEvent]

def inspectText (s : List Char) : String := Text.numbers (s.map Char.toNat)

def inspectEntries (entries : List (Int32 × List Char)) : String :=
  SequenceMap.inspectEntries (entries.map fun (k, image) => (k, image.map Char.toNat))

def inspect (b : Builder) : String :=
  Text.record "ConverterBuilder" [("code_points", inspectEntries b.singles.entries),
    ("sequences",
      Text.list (b.sequences.map fun (source, image) =>
        Text.pair (inspectText source) (inspectText image))),
    ("categories", inspectEntries b.categories.entries),
    ("error", Text.option (b.error.map BuildError.inspect))]

end Builder

end TextTypes.Converter
