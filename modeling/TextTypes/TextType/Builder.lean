import TextTypes.CodeSet.Builder
import TextTypes.Conversion.Builder
import TextTypes.TextType.Basic

/-!
Configuring text types.

The source of a substitution is accepted too. Nothing fails before the build, which looks at
the sizes, the pattern, the accepted set and the converter in this order.
-/

namespace TextTypes.TextType

open TextTypes.Unicode

structure Builder where
  accepted : CodeSet.Builder := {}
  converter : Converter.Builder := {}
  case : CasePolicy := .preserve
  whitespace : WhitespacePolicy := .forbid
  nulls : NullPolicy := .preserve
  normal : NormalForm := .nfc
  minSize : Nat := 0
  maxSize : Option Nat := none
  pattern : Option (List Char) := none
  validator : Option (List Char → Bool) := none

namespace Builder

variable (b : Builder)

/-! ### Acceptance -/

def acceptCodePoint (cp : Nat) : Builder := { b with accepted := b.accepted.includeCodePoint cp }

def acceptCodePoints (cps : List Nat) : Builder := cps.foldl acceptCodePoint b

def acceptRange (lo hi : Nat) : Builder := { b with accepted := b.accepted.includeRange lo hi }

def acceptChars (s : List Char) : Builder := { b with accepted := b.accepted.includeChars s }

def acceptCategory (c : Category) : Builder :=
  { b with accepted := b.accepted.includeCategory c }

def acceptSet (s : CodeSet) : Builder := { b with accepted := b.accepted.includeSet s }

/-- Rejects characters even if another rule accepts them. -/
def rejectChars (s : List Char) : Builder := { b with accepted := b.accepted.excludeChars s }

/-! ### Substitution -/

def convertChar (source : Char) (replacement : List Char) : Builder :=
  { b with
    converter := b.converter.convertChar source replacement
    accepted := b.accepted.includeCodePoint source.toNat }

def convertCodePoint (source : Nat) (replacement : List Nat) : Builder :=
  { b with
    converter := b.converter.convertCodePoint source replacement
    accepted := b.accepted.includeCodePoint source }

def convertSequence (source replacement : List Char) : Builder :=
  { b with
    converter := b.converter.convertSequence source replacement
    accepted := b.accepted.includeChars source }

def convertCategory (c : Category) (replacement : List Char) : Builder :=
  { b with
    converter := b.converter.convertCategory c replacement
    accepted := b.accepted.includeCategory c }

def convertDashes (c : Char) : Builder := b.convertCategory .pd [c]

/-! ### Sizes and policies -/

def withMinSize (n : Nat) : Builder := { b with minSize := n }

def withMaxSize (n : Nat) : Builder := { b with maxSize := some n }

def withSize (n : Nat) : Builder := (b.withMinSize n).withMaxSize n

def withCase (p : CasePolicy) : Builder := { b with case := p }

def withWhitespace (p : WhitespacePolicy) : Builder := { b with whitespace := p }

def withNulls (p : NullPolicy) : Builder := { b with nulls := p }

def withNormalForm (f : NormalForm) : Builder := { b with normal := f }

def withPattern (s : List Char) : Builder := { b with pattern := some s }

def withValidator (accepts : List Char → Bool) : Builder := { b with validator := some accepts }

/-! ### Build -/

def sizeLimit : Nat := b.maxSize.getD unlimited

/-- The pattern between anchors, if there is one. -/
def readPattern : Except BuildError (Option (Pattern CharClass × List Char)) :=
  match b.pattern with
  | none => .ok none
  | some source =>
    match Pattern.readAnchored? source with
    | some p => .ok (some (p, source))
    | none => .error .invalidPattern

def build : Except BuildError TextType := do
  if b.minSize > b.sizeLimit then throw (.minAboveMax b.minSize b.sizeLimit)
  let pattern ← b.readPattern
  let accepted ← b.accepted.build
  let converter ← b.converter.build
  return { b with accepted, converter, pattern }

/-! ### Events -/

/-- Warnings that depend on the configuration alone. -/
def settingWarnings : List Event :=
  (if b.maxSize = some 0 then
    [{ level := .warn
       message := "type parser has a maximum size of 0 and only accepts empty values" }] else []) ++
  (match b.whitespace with
    | .collapseTo s =>
      if isBlank s then []
      else
        [{ level := .warn
           message := "whitespace substitute is not whitespace and will not be trimmed"
           fields := [("substitute", Text.escape s)] }]
    | _ => [])

end Builder

/-- A warning about white space that can only be rejected. -/
def substituteWarnings (t : TextType) : List Event :=
  match t.whitespace.substitute? with
  | some s =>
    if t.accepted.containsChar s then []
    else
      [{ level := .warn
         message := "whitespace substitute is not accepted; inner whitespace will be rejected"
         fields := [("substitute", Text.escape s)] }]
  | none => []

def builtEvent (t : TextType) : Event where
  level := .debug
  message := "built type parser"
  fields := [("representation", t.accepted.layout.name),
    ("code_points", toString t.accepted.size),
    ("sequence_converter", Text.bool t.converter.isSequence),
    ("min_size", toString t.minSize), ("max_size", toString t.sizeLimit)]

namespace Builder

variable (b : Builder)

/-- The events of `build`, up to the point where it fails. -/
def buildEvents : List Event :=
  if b.minSize > b.sizeLimit then []
  else
    b.settingWarnings ++
      match b.readPattern with
      | .error _ => []
      | .ok _ =>
        b.accepted.buildEvents ++
          (if b.accepted.error.isSome then [] else b.converter.buildEvents) ++
          match b.build with
          | .error _ => []
          | .ok t => t.substituteWarnings ++ [t.builtEvent]

def inspect : String :=
  Text.record "TypeParserBuilder" [("accepted", b.accepted.inspect),
    ("converter", b.converter.inspect), ("case", b.case.name),
    ("whitespace", b.whitespace.name), ("null_empty", b.nulls.name),
    ("normalization", b.normal.name), ("min_size", toString b.minSize),
    ("max_size", Text.option (b.maxSize.map toString)),
    ("regex", Text.option (b.pattern.map Text.quoted)),
    ("custom_validator", Text.bool b.validator.isSome)]

end Builder

end TextTypes.TextType
