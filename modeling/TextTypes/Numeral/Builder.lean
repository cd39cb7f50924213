import TextTypes.CodeSet.Builder
import TextTypes.Numeral.Basic

/-!
Configuring numerals.

The alphabet gives each digit its character; unless case matters, the characters of its lower
and upper case stand for the digit as well. A character cannot stand for two digits. Grouping
separators and, if so configured, dashes are ignored, except where they are digits.
-/

namespace TextTypes.Numeral

open TextTypes.Unicode

structure Builder where
  target : IntegerType
  alphabet : Option (List Char) := none
  caseSensitive : Bool := false
  min : Option Bound := none
  max : Option Bound := none
  separators : List Char := []
  dashes : DashPolicy := .keep
  error : Option BuildError := none

namespace Builder

def standardDigits : List Char := "0123456789ABCDEFGHIJKLMNOPQRSTUVWXYZ".toList

/-- Spaces that stand in for each other between groups of digits. -/
def spaces : List Char := ['\u202f', '\u00a0', ' ']

variable (b : Builder)

/-- Remembers the first error. -/
def fail (e : BuildError) : Builder := { b with error := b.error <|> some e }

/-- Digits `0` to `9`, then `A` to `Z`. -/
def allowBase (radix : Nat) : Builder :=
  if 2 ≤ radix ∧ radix ≤ 36 then { b with alphabet := some (standardDigits.take radix) }
  else b.fail (.invalidRadix radix)

/-- The first character is digit zero. -/
def allowAlphabet (digits : List Char) : Builder :=
  if digits.length < 2 then b.fail (.invalidRadix digits.length)
  else { b with alphabet := some digits }

def withCaseSensitive (on : Bool) : Builder := { b with caseSensitive := on }

def withMin (bound : Bound) : Builder := { b with min := some bound }

def withMax (bound : Bound) : Builder := { b with max := some bound }

/-- A space admits the other spaces too. -/
def withSeparator (c : Char) : Builder :=
  { b with separators := b.separators ++ if spaces.contains c then spaces else [c] }

def withDashes (p : DashPolicy) : Builder := { b with dashes := p }

/-! ### Build -/

/-- The characters that stand for a digit, its own first. -/
def forms (c : Char) : List Char :=
  if b.caseSensitive then [c] else c :: (Letters.lower c ++ Letters.upper c)

/-- Gives one more character its digit. -/
def assign (map : IntMap.Builder Int32) (c : Char) (digit : Nat) :
    Except BuildError (IntMap.Builder Int32) :=
  let key := Int32.ofNat c.toNat
  match map.get? key with
  | some other =>
    if other = Int32.ofNat digit then .ok (map.insert key other)
    else .error (.duplicateDigit c.toNat other.toUInt32.toNat digit)
  | none => .ok (map.insert key (Int32.ofNat digit))

/-- The digits of all characters. -/
def digitMap (alphabet : List Char) : Except BuildError (IntMap.Builder Int32) :=
  (alphabet.zipIdx.flatMap fun (c, digit) => (b.forms c).map (·, digit)).foldlM
    (fun map (c, digit) => assign map c digit) .empty

def least : Bound := b.min.getD (.inclusive b.target.min)

def greatest : Bound := b.max.getD (.inclusive b.target.max)

/-- Whether the bounds are values of the type, in order. -/
def boundsFit : Bool :=
  b.target.holds b.least.value && b.target.holds b.greatest.value &&
    b.least.value ≤ b.greatest.value

/-- The configuration of the ignored characters, given the digits. -/
def ignored (digits : IntMap Int32) : CodeSet.Builder :=
  let base : CodeSet.Builder := ({} : CodeSet.Builder).includeChars b.separators
  let dashed :=
    if b.dashes = .keep then base
    else (base.includeCategory .pd).includeChars (negativeSigns ++ ['\u00ad'])
  digits.entries.foldl (fun set (key, _) => set.excludeCodePoint key.toUInt32.toNat) dashed

/-- The alphabet and its digits, once the configuration is found valid. -/
def digitsOf : Except BuildError (List Char × IntMap Int32) := do
  if let some e := b.error then throw e
  let some alphabet := b.alphabet | throw .noRadix
  unless b.boundsFit do
    throw (.boundsOutOfRange b.least.value b.greatest.value b.target.name)
  let map ← b.digitMap alphabet
  return (alphabet, map.freeze)

def build : Except BuildError Numeral := do
  let (alphabet, digits) ← b.digitsOf
  let ignored ← (b.ignored digits).build
  return {
    target := b.target
    digits
    radix := alphabet.length
    min := b.least
    max := b.greatest
    ignored
    dashes := b.dashes }

end Builder

def builtEvent (n : Numeral) : Event where
  level := .debug
  message := "built integral numeric parser"
  fields := [("target_type", n.target.name), ("radix", toString n.radix),
    ("min", n.min.inspect), ("max", n.max.inspect),
    ("optimal_digit_map", Text.bool n.digits.isOptimal)]

namespace Builder

variable (b : Builder)

/-- The events of `build`, up to the point where it fails. -/
def buildEvents : List Event :=
  match b.digitsOf with
  | .error _ => []
  | .ok (_, digits) =>
    [digits.builtEvent] ++ (b.ignored digits).buildEvents ++
      match b.build with
      | .error _ => []
      | .ok n => [n.builtEvent]

def inspectBound : Bound → String
  | .inclusive v => Text.pair (toString v) "false"
  | .exclusive v => Text.pair (toString v) "true"

def inspect : String :=
  Text.record "IntegralNumericParserBuilder" [("target", Text.quotedString b.target.name),
    ("alphabet", Text.option (b.alphabet.map fun s => Text.list (s.map Text.quotedChar))),
    ("case_sensitive", Text.bool b.caseSensitive),
    ("min", Text.option (b.min.map inspectBound)), ("max", Text.option (b.max.map inspectBound)),
    ("grouping_separators", Text.list (b.separators.map Text.quotedChar)),
    ("dashes", b.dashes.name), ("error", Text.option (b.error.map BuildError.inspect))]

end Builder

end TextTypes.Numeral
