import TextTypes.Conversion.Search
import TextTypes.IntMap.Sequences
import TextTypes.Unicode.CategoryRuns

/-!
Substitution of characters and character sequences.

A converter without longer sources looks single characters up in a map; otherwise the sources
form a trie. A character that no source covers is replaced by the rule of its category, if
there is one.
-/

namespace TextTypes

open TextTypes.Unicode

inductive Conversion.Form
  | direct (map : SequenceMap Char)
  | sequence (trie : Conversion.Trie Conversion.Rule)

structure Converter where
  form : Conversion.Form
  categories : SequenceMap Char

namespace Converter

open TextTypes.Conversion

/-- Without rules. -/
def empty : Converter :=
  ⟨.direct (SequenceMap.Builder.freeze {}), SequenceMap.Builder.freeze {}⟩

instance : Inhabited Converter := ⟨empty⟩

/-- The key of a code point or of a category's ordinal. -/
def key (n : Nat) : Int32 := Int32.ofNat n

def isEmpty (c : Converter) : Bool :=
  c.categories.isEmpty &&
    match c.form with
    | .direct map => map.isEmpty
    | .sequence trie => trie.isLeaf

/-- Whether some source has several characters. -/
def isSequence (c : Converter) : Bool :=
  match c.form with
  | .direct _ => false
  | .sequence _ => true

def categoryRule? (c : Converter) (cp : Nat) : Option (List Char) :=
  if c.categories.isEmpty then none else c.categories.get? (key (categoryOf cp).ordinal)

/-- The replacement of a code point that stands alone. -/
def ruleFor? (c : Converter) (cp : Nat) : Option (List Char) :=
  let direct := match c.form with
    | .direct map => map.get? (key cp)
    | .sequence trie =>
      ((CodePoint.scalar? cp).bind fun ch => trie.find? [ch]).map Rule.replacement
  direct <|> c.categoryRule? cp

/-! ### The scan of one text -/

/-- The matches that have not been passed yet. Positions are asked for in ascending order. -/
structure Scan where
  pending : List Match

def scan (c : Converter) (text : List Char) : Scan where
  pending := match c.form with
    | .direct _ => []
    | .sequence trie => Search.all trie text

/-- The match that starts at a position. -/
def Scan.at? (s : Scan) (index : Nat) : Option Match × Scan :=
  match s.pending.dropWhile (·.start < index) with
  | [] => (none, ⟨[]⟩)
  | m :: rest => if m.start = index then (some m, ⟨rest⟩) else (none, ⟨m :: rest⟩)

/-- The replacement that applies at a position and how many characters it stands for. -/
def Scan.for? (c : Converter) (s : Scan) (index cp : Nat) : Option (List Char × Nat) × Scan :=
  match s.at? index with
  | (some m, s) => (some (m.rule.replacement, m.length), s)
  | (none, s) =>
    let single := match c.form with
      | .direct map => map.get? (key cp)
      | .sequence _ => none
    ((single <|> c.categoryRule? cp).map (·, 1), s)

/-- A part of a converted text: a character that is kept, or a source with what replaces it. -/
inductive Piece
  | kept (index : Nat) (c : Char)
  | replaced (index : Nat) (source replacement : List Char)
  deriving DecidableEq, Repr

/-- What a part contributes to the result. -/
def Piece.text : Piece → List Char
  | kept _ c => [c]
  | replaced _ _ replacement => replacement

/-- The parts of a text of which `skip` characters are already covered and the next one stands
at `index`. -/
def piecesFrom (c : Converter) : (s : Scan) → (skip index : Nat) → List Char → List Piece
  | _, _, _, [] => []
  | s, skip + 1, index, _ :: rest => c.piecesFrom s skip (index + 1) rest
  | s, 0, index, ch :: rest =>
    match s.for? c index ch.toNat with
    | (some (replacement, n), s) =>
      .replaced index ((ch :: rest).take n) replacement :: c.piecesFrom s (n - 1) (index + 1) rest
    | (none, s) => .kept index ch :: c.piecesFrom s 0 (index + 1) rest

def pieces (c : Converter) (text : List Char) : List Piece :=
  c.piecesFrom (c.scan text) 0 0 text

/-- The text with every substitution made. -/
def convert (c : Converter) (text : List Char) : List Char := (c.pieces text).flatMap Piece.text

/-- Reported when a converter is compiled. -/
def builtEvent (c : Converter) : Event where
  level := .debug
  message := match c.form with
    | .direct _ => "built direct converter"
    | .sequence _ => "built sequence converter"
  fields :=
    [match c.form with
      | .direct map => ("code_points", toString map.size)
      | .sequence trie => ("trie_nodes", toString trie.size),
    ("categories", toString c.categories.size)]

def inspect (c : Converter) : String :=
  let rules := match c.form with
    | .direct map => "Direct, " ++ toString map.size ++ " code points"
    | .sequence trie => "Sequence, " ++ toString trie.size ++ " trie nodes"
  Text.apply "Converter" [rules, toString c.categories.size ++ " categories"]

def Scan.inspect (c : Converter) (s : Scan) : String :=
  Text.record "ConversionScan" [("converter", c.inspect),
    ("matches", Text.list (s.pending.map Match.inspect)), ("next_match", "0")]

end Converter

end TextTypes
