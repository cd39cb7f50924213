import TextTypes.CodeSet.Basic
import TextTypes.Conversion.Converter
import TextTypes.Pattern.Reader
import TextTypes.Text.Units
import TextTypes.TextType.Policy
import TextTypes.Unicode.Normal

/-!
Text types: which texts are values of a type, and how a text is brought into its form.

A text is normalized and trimmed, then read from left to right. At each place the converter is
asked first; where it has nothing to replace, acceptance and the white-space policy decide. This
gives a list of emissions, each a character to write or a rejection, and writing applies the case
policy and the greatest size. A strict reading stops at the first rejection, a lenient one writes
U+FFFD and goes on. The value is then held against the least size, the pattern and the validator.
-/

namespace TextTypes

open TextTypes.Unicode

structure TextType where
  accepted : CodeSet
  converter : Converter
  case : CasePolicy := .preserve
  whitespace : WhitespacePolicy := .forbid
  nulls : NullPolicy := .preserve
  normal : NormalForm := .nfc
  minSize : Nat := 0
  maxSize : Option Nat := none
  /-- The pattern with the text it was read from. -/
  pattern : Option (Pattern CharClass × List Char) := none
  validator : Option (List Char → Bool) := none

namespace TextType

/-- The type whose only value is the empty text. -/
instance : Inhabited TextType where
  default := { accepted := .empty, converter := .empty, maxSize := some 0 }

/-- What reading has to write next. -/
inductive Emission
  | write (c : Char)
  | reject (fault : CharFault) (c : Char) (index : Nat)
  deriving DecidableEq, Repr

/-- The value written so far or in the end, and what a lenient reading has replaced. -/
structure Reading where
  value : List Char := []
  rejections : List Rejection := []
  deriving DecidableEq, Repr

/-! ### From a text to emissions -/

variable (t : TextType)

/-- Emits a character if it is accepted. -/
def emit (c : Char) (index : Nat) : Emission :=
  if t.accepted.containsChar c then .write c else .reject (.of c) c index

/-- What a white-space character leads to; `inRun` tells whether it follows another one. -/
def emitBlank (inRun : Bool) (c : Char) (index : Nat) : List Emission :=
  match t.whitespace with
  | .forbid => [.reject .whitespace c index]
  | .preserve => [.write c]
  | .substitute s => [t.emit s index]
  | .collapse => if inRun then [] else [.write c]
  | .collapseTo s => if inRun then [] else [t.emit s index]
  | .remove => []

/-- The emissions of a text of which `skip` characters are already covered and the next one stands
at `index`, with `offset` characters in front of the text. A source replaced by nothing does not
end a run of white space. -/
def emissionsFrom (offset : Nat) :
    (s : Converter.Scan) → (inRun : Bool) → (skip index : Nat) → List Char → List Emission
  | _, _, _, _, [] => []
  | s, inRun, skip + 1, index, _ :: rest => emissionsFrom offset s inRun skip (index + 1) rest
  | s, inRun, 0, index, c :: rest =>
    match s.for? t.converter index c.toNat with
    | (some (replacement, n), s) =>
      replacement.map .write ++
        emissionsFrom offset s (inRun && replacement.isEmpty) (n - 1) (index + 1) rest
    | (none, s) =>
      if isBlank c then
        t.emitBlank inRun c (offset + index) ++ emissionsFrom offset s true 0 (index + 1) rest
      else t.emit c (offset + index) :: emissionsFrom offset s false 0 (index + 1) rest

/-- The emissions of a text behind `offset` other characters. -/
def emissionsOf (offset : Nat) (text : List Char) : List Emission :=
  t.emissionsFrom offset (t.converter.scan text) false 0 0 text

/-! ### Writing -/

/-- How a rejection is met. -/
inductive Mode
  | strict
  | lenient
  deriving DecidableEq, Repr

/-- The character written for a rejected one. -/
def replacementChar : Char := '\ufffd'

/-- The state of writing: the value so far, reversed, with its size, whether a title-cased
character is still to come, and the rejections so far, latest first. -/
structure Writer where
  written : List Char := []
  size : Nat := 0
  first : Bool := true
  rejections : List Rejection := []

namespace Writer

/-- The greatest size, if the value has reached it. -/
def full? (maxSize : Option Nat) (w : Writer) : Option Nat := maxSize.filter (· = w.size)

/-- Writes characters as they are, as long as they fit. -/
def put (maxSize : Option Nat) (w : Writer) (s : List Char) : Except ParseError Writer :=
  s.foldlM (fun w c =>
    match w.full? maxSize with
    | some size => .error (.tooLong size)
    | none => .ok { w with written := c :: w.written, size := w.size + 1 }) w

def reading (w : Writer) : Reading := ⟨w.written.reverse, w.rejections.reverse⟩

end Writer

def step (mode : Mode) (w : Writer) : Emission → Except ParseError Writer
  | .write c => Writer.put t.maxSize { w with first := false } (t.case.image w.first c)
  | .reject fault c index =>
    match mode with
    | .strict => .error (.invalid fault c.toNat index)
    | .lenient =>
      Writer.put t.maxSize { w with rejections := ⟨c.toNat, index, .invalid fault⟩ :: w.rejections }
        [replacementChar]

/-- Writes all emissions. -/
def write (mode : Mode) (es : List Emission) : Except ParseError Reading :=
  (es.foldlM (t.step mode) {}).map Writer.reading

/-! ### Reading a text -/

/-- A value without the white space that collapsing may have left at its ends. -/
def settle (v : List Char) : List Char := if t.whitespace.collapses then trim v else v

/-- Holds a value against the least size, the pattern and the validator, in this order. -/
def check (v : List Char) : Except ParseError Unit :=
  if v.length < t.minSize then .error (.tooShort t.minSize v.length)
  else
    match t.pattern with
    | some (p, source) =>
      if p.isMatch v then checkCustom v else .error (.patternMismatch (String.ofList source))
    | none => checkCustom v
where
  checkCustom (v : List Char) : Except ParseError Unit :=
    match t.validator with
    | some accepts => if accepts v then .ok () else .error .validatorFailed
    | none => .ok ()

/-- Reads a normalized text that is not blank. -/
def readBody (mode : Mode) (text : List Char) : Except ParseError Reading := do
  let r ← t.write mode (t.emissionsOf (margin text) (trim text))
  let v := t.settle r.value
  t.check v
  return { r with value := v }

/-- Reads a text; absent and blank input are resolved by policy. -/
def read (mode : Mode) (input : Option (List Char)) :
    Except ParseError (Option (List Char) × List Rejection) :=
  match input with
  | none => .ok (t.nulls.absent, [])
  | some s =>
    let text := t.normal.apply s
    if text.all isBlank then .ok (t.nulls.blank, [])
    else (t.readBody mode text).map fun r => (some r.value, r.rejections)

/-- The value of a text, or the first thing wrong with it. -/
def parse (input : Option (List Char)) : Except ParseError (Option (List Char)) :=
  (t.read .strict input).map Prod.fst

/-- The value of a text with rejected characters replaced, and the rejections. -/
def parseLenient (input : Option (List Char)) :
    Except ParseError (Option (List Char) × List Rejection) :=
  t.read .lenient input

/-- Decodes 16-bit units and parses the text. -/
def parseUnits (input : Option (List UInt16)) : Except ParseError (Option (List Char)) :=
  match input with
  | none => t.parse none
  | some units =>
    match Text.Units.decode units with
    | .ok s => t.parse (some s)
    | .error lone => .error (.loneSurrogate lone.unit.toNat lone.index)

/-! ### Events -/

def failureEvent (message : String) (e : ParseError) : Event where
  level := .trace
  message
  fields := [("kind", e.kind.code), ("index", Text.option (e.index?.map toString))]

/-- The events of `parse`, given its outcome. -/
def parseEvents : Except ParseError α → List Event
  | .ok _ => []
  | .error e => [failureEvent "parse failed" e]

/-- The events of `parseLenient`, given its outcome. -/
def lenientEvents : Except ParseError (Option (List Char) × List Rejection) → List Event
  | .ok (_, rejections) =>
    if rejections.isEmpty then []
    else
      [{ level := .trace
         message := "lenient parse replaced code points"
         fields := [("count", toString rejections.length)] }]
  | .error _ => []

/-- The size that is shown when none is set: the greatest 64-bit number. -/
def unlimited : Nat := 0xFFFFFFFFFFFFFFFF

def sizeLimit : Nat := t.maxSize.getD unlimited

def inspect : String :=
  Text.record "TypeParser" [("accepted", t.accepted.inspect), ("converter", t.converter.inspect),
    ("case", t.case.name), ("whitespace", t.whitespace.name), ("null_empty", t.nulls.name),
    ("normalization", t.normal.name), ("min_size", toString t.minSize),
    ("max_size", toString t.sizeLimit),
    ("regex", Text.option (t.pattern.map fun p => Text.quoted p.2)),
    ("custom_validator", Text.bool t.validator.isSome)]

end TextType

end TextTypes
