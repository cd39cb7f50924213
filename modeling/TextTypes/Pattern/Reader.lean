import TextTypes.Pattern.Search
import TextTypes.Pattern.Weight
import TextTypes.Unicode.Blank

/-!
Reading patterns.

The pattern language has literals, escaped punctuation, the dot, character classes with
ranges, groups, alternatives, the repetitions `*`, `+`, `?`, `{m}`, `{m,}` and `{m,n}`, the
anchors `^` and `$`, and the flags `i` (letters match in either case) and `x` (white space
and comments are skipped). A flag holds to the end of its group. The reader keeps a stack of
open groups; it fails on an unbalanced group, an unclosed class, a repetition of nothing, a
reversed range and an escape that names no character. A pattern whose parts are nested too
deeply, or whose automaton would be too large, is refused as well.
-/

namespace TextTypes.Pattern.Reader

open TextTypes.Range TextTypes.Unicode

structure Flags where
  ignoreCase : Bool := false
  skipSpace : Bool := false
  deriving DecidableEq, Repr

/-- A pattern as it is written, with the number of parts nested in each other in it. A sequence
of several parts, a choice, a group, a repetition and a class are parts; a character is none. -/
structure Nested where
  pattern : Pattern CharClass
  depth : Nat := 0

namespace Nested

/-- The depth of several patterns that are put into one part, unless there is just one. -/
def depthOf (ps : List Nested) : Nat :=
  (ps.map depth).foldl max 0 + if ps.length < 2 then 0 else 1

def sequence (ps : List Nested) : Nested := ⟨.concat (ps.map pattern), depthOf ps⟩

def choice (ps : List Nested) : Nested := ⟨.choice (ps.map pattern), depthOf ps⟩

def times (p : Nested) (min : Nat) (max : Option Nat) : Nested :=
  ⟨p.pattern.times min max, p.depth + 1⟩

end Nested

/-- One part of a sequence. Flags stand in a sequence but cannot be repeated. -/
inductive Item
  | part (p : Nested)
  | flags

/-- The alternatives read so far and the sequence being read, both latest first. Only a group
that is remembered stands for itself in the pattern. -/
structure Group where
  remembered : Bool := false
  alternatives : List Nested := []
  items : List Item := []

namespace Item

def toNested : Item → Nested
  | part p => p
  | flags => ⟨.empty, 0⟩

end Item

namespace Group

def sequence (g : Group) : Nested := .sequence (g.items.reverse.map Item.toNested)

/-- The choice between all alternatives. -/
def body (g : Group) : Nested := .choice (g.sequence :: g.alternatives).reverse

/-- The group as a part of what is around it. -/
def close (g : Group) : Nested :=
  let body := g.body
  ⟨if g.remembered then .group body.pattern else body.pattern, body.depth + 1⟩

def push (g : Group) (p : Nested) : Group := { g with items := .part p :: g.items }

/-- Ends the current alternative. -/
def bar (g : Group) : Group := { g with alternatives := g.sequence :: g.alternatives, items := [] }

/-- Repeats the last part. -/
def repeat? (g : Group) (min : Nat) (max : Option Nat) : Option Group :=
  match g.items with
  | .part p :: rest => some { g with items := .part (p.times min max) :: rest }
  | _ => none

end Group

/-- What has been read: the innermost open group, the groups around it with the flags to
return to, and the flags in force. -/
structure State where
  group : Group := {}
  outer : List (Group × Flags) := []
  flags : Flags := {}

/-! ### White space and comments -/

/-- The longest front of characters with `keep`, and what stands behind it. Where white space is
skipped, it and comments may stand before, between and behind these characters; a comment runs
from `#` to the end of its line. -/
def frontOf (flags : Flags) (keep : Char → Bool) : (inComment : Bool) → List Char →
    List Char × List Char
  | _, [] => ([], [])
  | true, c :: rest => frontOf flags keep (c != '\n') rest
  | false, c :: rest =>
    if keep c then
      let (front, rest) := frontOf flags keep false rest
      (c :: front, rest)
    else if flags.skipSpace && isBlank c then frontOf flags keep false rest
    else if flags.skipSpace && c = '#' then frontOf flags keep true rest
    else ([], c :: rest)

/-- Drops white space and comments where they are skipped. -/
def skip (flags : Flags) (s : List Char) : List Char := (frontOf flags (fun _ => false) false s).2

/-- The next character, looked at from a hyphen. Where white space is skipped, this look passes
over white space and one comment mark, but not over the text behind the mark. -/
def lookAhead? (flags : Flags) (s : List Char) : Option Char :=
  if flags.skipSpace then
    match s.dropWhile isBlank with
    | '#' :: rest => (rest.dropWhile isBlank).head?
    | rest => rest.head?
  else s.head?

/-! ### Pieces of the language -/

/-- An ASCII character other than a letter, a digit and an angle bracket may follow a
backslash. -/
def isEscapable (c : Char) : Bool := c.toNat < 0x80 && !c.isAlphanum && c != '<' && c != '>'

/-- A character that may be escaped. -/
def charOf? : List Char → Option (Char × List Char)
  | '\\' :: c :: rest => if isEscapable c then some (c, rest) else none
  | ['\\'] => none
  | c :: rest => some (c, rest)
  | [] => none

/-- A count stays below this bound. -/
def countBound : Nat := 0x100000000

/-- A count with white space around it. -/
def number? (flags : Flags) (s : List Char) : Option (Nat × List Char) :=
  let (digits, rest) := frontOf flags Char.isDigit false (s.dropWhile isBlank)
  let n := digits.foldl (fun n d => n * 10 + (d.toNat - '0'.toNat)) 0
  if digits.isEmpty || countBound ≤ n then none else some (n, rest.dropWhile isBlank)

/-- A question mark behind a repetition asks for the shortest match first; which texts match
does not depend on it. -/
def dropLazy : List Char → List Char
  | '?' :: rest => rest
  | s => s

/-- The bounds of a repetition behind its opening brace. -/
def bounds? (flags : Flags) (s : List Char) : Option (Nat × Option Nat × List Char) := do
  let (min, s) ← number? flags (skip flags s)
  match s with
  | '\x7d' :: rest => some (min, some min, dropLazy (skip flags rest))
  | ',' :: rest =>
    match skip flags rest with
    | '\x7d' :: rest => some (min, none, dropLazy (skip flags rest))
    | rest =>
      let (max, s) ← number? flags rest
      match s with
      | '\x7d' :: rest =>
        if min ≤ max then some (min, some max, dropLazy (skip flags rest)) else none
      | _ => none
  | _ => none

/-- Whether a hyphen between a character and `s` makes a range. -/
def opensRange (flags : Flags) (s : List Char) : Bool :=
  match lookAhead? flags s with
  | some ']' => false
  | some '-' => false
  | _ => true

/-- The spans of a class up to its closing bracket. -/
def classBody? (flags : Flags) : (fuel : Nat) → (spans : List Span) → List Char →
    Option (List Span × List Char)
  | 0, _, _ => none
  | fuel + 1, spans, s =>
    match skip flags s with
    | [] => none
    | ']' :: rest => some (spans, rest)
    | '[' :: _ => none
    | '&' :: '&' :: _ => none
    | '-' :: '-' :: _ => none
    | '~' :: '~' :: _ => none
    | s => do
      let (lo, s) ← charOf? s
      match skip flags s with
      | '-' :: rest =>
        if opensRange flags rest then
          let (hi, s) ← charOf? (skip flags rest)
          let span ← Span.ofBounds? lo.toNat hi.toNat
          classBody? flags fuel (span :: spans) s
        else classBody? flags fuel (.single lo.toNat :: spans) ('-' :: rest)
      | s => classBody? flags fuel (.single lo.toNat :: spans) s

/-- The hyphens, or else the closing bracket, that stand for themselves at the start of a
class. -/
def classFront (flags : Flags) (s : List Char) : List Span × List Char :=
  match frontOf flags (· == '-') false s with
  | ([], ']' :: rest) => ([.single ']'.toNat], rest)
  | (hyphens, rest) => (hyphens.map fun c => .single c.toNat, rest)

/-- A class behind its opening bracket. A class of several members nests them. -/
def class? (flags : Flags) (s : List Char) : Option (Nested × List Char) := do
  let (negated, s) := match skip flags s with
    | '^' :: rest => (true, rest)
    | s => (false, s)
  let (front, s) := classFront flags s
  let (spans, rest) ← classBody? flags (s.length + 1) front s
  let cls := CharClass.ofSpans spans
  let cls := if flags.ignoreCase then cls.foldCase else cls
  let cls := if negated then cls.complement else cls
  return (⟨.char cls, if spans.length < 2 then 1 else 2⟩, rest)

/-- Flags up to a colon or a closing parenthesis, which is kept. Those behind a hyphen are turned
off. No flag is named twice, and `seen` lists those named so far. -/
def flags? : (on : Bool) → (seen : List Char) → Flags → List Char →
    Option (List Char × Flags × List Char)
  | on, seen, flags, 'i' :: rest =>
    if seen.contains 'i' then none
    else flags? on ('i' :: seen) { flags with ignoreCase := on } rest
  | on, seen, flags, 'x' :: rest =>
    if seen.contains 'x' then none
    else flags? on ('x' :: seen) { flags with skipSpace := on } rest
  | true, seen, flags, '-' :: c :: rest =>
    if c = 'i' || c = 'x' then flags? false seen flags (c :: rest) else none
  | _, seen, flags, ':' :: rest => some (seen, flags, ':' :: rest)
  | _, seen, flags, ')' :: rest => some (seen, flags, ')' :: rest)
  | _, _, _, _ => none

namespace State

def push (st : State) (p : Pattern CharClass) : State := { st with group := st.group.push ⟨p, 0⟩ }

def pushNested (st : State) (p : Nested) : State := { st with group := st.group.push p }

def literal (st : State) (c : Char) : State :=
  let cls := CharClass.single c
  st.push (.char (if st.flags.ignoreCase then cls.foldCase else cls))

/-- Opens a group in which other flags are in force. -/
def enter (st : State) (remembered : Bool) (flags : Flags) : State :=
  ⟨{ remembered }, (st.group, st.flags) :: st.outer, flags⟩

/-- Puts flags in force up to the end of the group. -/
def setFlags (st : State) (flags : Flags) : State :=
  { st with flags, group := { st.group with items := .flags :: st.group.items } }

/-- Closes the innermost group. -/
def leave? (st : State) : Option State :=
  match st.outer with
  | [] => none
  | (group, flags) :: outer => some ⟨group.push st.group.close, outer, flags⟩

def repeat? (st : State) (min : Nat) (max : Option Nat) : Option State :=
  (st.group.repeat? min max).map fun group => { st with group }

/-- Reads what stands behind an opening parenthesis. -/
def openGroup? (st : State) (s : List Char) : Option (State × List Char) :=
  match skip st.flags s with
  | '?' :: rest => do
    let (named, flags, rest) ← flags? true [] st.flags rest
    match rest with
    | ':' :: rest => some (st.enter false flags, rest)
    | _ :: rest =>
      if named.isEmpty then none else some (st.setFlags flags, rest)
    | [] => none
  | s => some (st.enter true st.flags, s)

/-- Reads the next part of a pattern. -/
def step? (st : State) : List Char → Option (State × List Char)
  | [] => none
  | '(' :: rest => st.openGroup? rest
  | ')' :: rest => st.leave?.map (·, rest)
  | '|' :: rest => some ({ st with group := st.group.bar }, rest)
  | '[' :: rest => do
    let (cls, rest) ← class? st.flags rest
    return (st.pushNested cls, rest)
  | '?' :: rest => (st.repeat? 0 (some 1)).map (·, dropLazy rest)
  | '*' :: rest => (st.repeat? 0 none).map (·, dropLazy rest)
  | '+' :: rest => (st.repeat? 1 none).map (·, dropLazy rest)
  | '\x7b' :: rest => do
    let (min, max, rest) ← bounds? st.flags rest
    return (← st.repeat? min max, rest)
  | '.' :: rest => some (st.push (.char .dot), rest)
  | '^' :: rest => some (st.push .start, rest)
  | '$' :: rest => some (st.push .stop, rest)
  | s => (charOf? s).map fun (c, rest) => (st.literal c, rest)

/-- Reads to the end. Every step takes at least one character, so the length is fuel enough. -/
def run? : (fuel : Nat) → State → List Char → Option Nested
  | 0, _, _ => none
  | fuel + 1, st, s =>
    match skip st.flags s with
    | [] => if st.outer.isEmpty then some st.group.body else none
    | s => do
      let (st, rest) ← st.step? s
      run? fuel st rest

end State

end TextTypes.Pattern.Reader

namespace TextTypes.Pattern

/-- How many parts may be nested in each other. -/
def nestingLimit : Nat := 250

/-- The pattern that a text denotes. -/
def read? (s : List Char) : Option (Pattern CharClass) := do
  let p ← Reader.State.run? (s.length + 1) {} s
  if p.depth ≤ nestingLimit && p.pattern.fits then some p.pattern else none

/-- The pattern put between anchors, so that it is meant to match a whole text. -/
def anchored (s : List Char) : List Char := "^(?:".toList ++ s ++ ")$".toList

/-- The anchored pattern of a text. -/
def readAnchored? (s : List Char) : Option (Pattern CharClass) := read? (anchored s)

end TextTypes.Pattern
