import TextTypes.CodePoint
import TextTypes.Unicode.CaseData
import TextTypes.Unicode.CategoryRuns
import TextTypes.Unicode.Packed

/-!
Case mappings of single characters, independent of locale and neighbours.

An image may have several characters. `title` is meant for the first character of a text: the
first character of its upper-case image, followed by the rest in lower case, except that a
digraph letter has a title form of its own. `fold` picks one representative of the characters
that differ in case only. `folded` lists these characters as far as they have a category: a letter
that is younger than the table of categories is left out.
-/

namespace TextTypes.Unicode.Letters

/-- Every `step`-th character from `first` to `last`, moved so that `first` becomes `image`. -/
structure Shift where
  first : Nat
  last : Nat
  step : Nat
  image : Nat
  deriving DecidableEq, Repr

namespace Shift

def ofEntries : List Nat → List Shift
  | a :: b :: c :: d :: rest => ⟨a, b, c, d⟩ :: ofEntries rest
  | _ => []

def covers (s : Shift) (n : Nat) : Bool :=
  s.first ≤ n && n ≤ s.last && (n - s.first) % s.step == 0

def apply (s : Shift) (n : Nat) : Nat := s.image + (n - s.first)

end Shift

/-- The table of one mapping: characters with a longer image, and shifted runs. -/
structure Table where
  special : List (Nat × List Nat)
  shifts : List Shift

def upperTable : Table where
  special := Packed.groups (Packed.entries 24 12 CaseData.upperSpecial)
  shifts := Shift.ofEntries (Packed.entries 24 12 CaseData.upperRuns)

def lowerTable : Table where
  special := Packed.groups (Packed.entries 24 12 CaseData.lowerSpecial)
  shifts := Shift.ofEntries (Packed.entries 24 12 CaseData.lowerRuns)

/-- The image of one code point; a code point without an entry is its own image. -/
def Table.image (t : Table) (n : Nat) : List Nat :=
  match t.special.find? (·.1 == n) with
  | some entry => entry.2
  | none =>
    match t.shifts.find? (·.covers n) with
    | some s => [s.apply n]
    | none => [n]

def upper (c : Char) : List Char :=
  if c.toNat < 0x80 then [c.toUpper] else CodePoint.scalars (upperTable.image c.toNat)

def lower (c : Char) : List Char :=
  if c.toNat < 0x80 then [c.toLower] else CodePoint.scalars (lowerTable.image c.toNat)

/-- The digraph letters: first, last and title form. -/
def digraphs : List (Nat × Nat × Nat) :=
  [(0x1C4, 0x1C6, 0x1C5), (0x1C7, 0x1C9, 0x1C8), (0x1CA, 0x1CC, 0x1CB), (0x1F1, 0x1F3, 0x1F2)]

def title (c : Char) : List Char :=
  match digraphs.find? fun (first, last, _) => first ≤ c.toNat && c.toNat ≤ last with
  | some (_, _, form) => CodePoint.scalars [form]
  | none =>
    match upper c with
    | [] => []
    | u :: rest => u :: rest.flatMap lower

/-- The image under a mapping where it is a single character. -/
def simple (f : Char → List Char) (c : Char) : Char :=
  match f c with
  | [d] => d
  | _ => c

/-- Characters whose representative is not the lower case of their upper case. -/
def foldSpecial : List (Nat × Nat) :=
  [(0x131, 0x131), (0x1FD3, 0x390), (0x1FE3, 0x3B0), (0xFB05, 0xFB06)]

def fold (c : Char) : Char :=
  match foldSpecial.find? (·.1 == c.toNat) with
  | some entry => Char.ofNat entry.2
  | none => simple lower (simple upper c)

/-- Every character that a case mapping moves. -/
def moved : List Char :=
  let members (t : Table) : List Nat :=
    t.special.map Prod.fst ++
      t.shifts.flatMap fun s => List.range' s.first ((s.last - s.first) / s.step + 1) s.step
  CodePoint.scalars (members upperTable ++ members lowerTable)

/-- Whether a character has a category. -/
def isAssigned (c : Char) : Bool := categoryOf c.toNat != .cn

/-- The moved characters that have a category, with their representatives. -/
def folded : List (Char × Char) := (moved.filter isAssigned).map fun c => (c, fold c)

end TextTypes.Unicode.Letters
