import TextTypes.Text.Quoted
import TextTypes.Text.Record

/-!
Why a text is rejected.

A rejected character is reported with its code point and its index in the text; a number
outside its bounds with the bound it violates.
-/

namespace TextTypes

/-- A bound of a numeric type. -/
inductive Bound
  | inclusive (value : Int)
  | exclusive (value : Int)
  deriving DecidableEq, Repr

/-- What kind of character is not accepted. -/
inductive CharFault
  | whitespace
  | control
  | quote
  | character
  deriving DecidableEq, Repr

inductive ErrorKind
  | valueTooShort
  | valueTooLong
  | invalid (fault : CharFault)
  | loneSurrogate
  | belowMinInclusive
  | belowMinExclusive
  | aboveMaxInclusive
  | aboveMaxExclusive
  | patternMismatch
  | validatorFailed
  deriving DecidableEq, Repr

namespace ErrorKind

def all : List ErrorKind :=
  [valueTooShort, valueTooLong, invalid .whitespace, invalid .control, invalid .quote,
    invalid .character, loneSurrogate, belowMinInclusive, belowMinExclusive, aboveMaxInclusive,
    aboveMaxExclusive, patternMismatch, validatorFailed]

/-- The stable code of a kind. -/
def code : ErrorKind → String
  | valueTooShort => "VALUE_TOO_SHORT"
  | valueTooLong => "VALUE_TOO_LONG"
  | invalid .whitespace => "INVALID_WHITESPACE_CHARACTER"
  | invalid .control => "INVALID_CONTROL_CHARACTER"
  | invalid .quote => "INVALID_QUOTE_CHARACTER"
  | invalid .character => "INVALID_CHARACTER"
  | loneSurrogate => "LONE_SURROGATE"
  | belowMinInclusive => "VALUE_BELOW_MIN_INCLUSIVE"
  | belowMinExclusive => "VALUE_BELOW_MIN_EXCLUSIVE"
  | aboveMaxInclusive => "VALUE_ABOVE_MAX_INCLUSIVE"
  | aboveMaxExclusive => "VALUE_ABOVE_MAX_EXCLUSIVE"
  | patternMismatch => "DOES_NOT_MATCH_REGEX"
  | validatorFailed => "FAILED_CUSTOM_VALIDATION"

/-- The name of a kind as it is shown for inspection. -/
def name : ErrorKind → String
  | valueTooShort => "ValueTooShort"
  | valueTooLong => "ValueTooLong"
  | invalid .whitespace => "InvalidWhitespaceCharacter"
  | invalid .control => "InvalidControlCharacter"
  | invalid .quote => "InvalidQuoteCharacter"
  | invalid .character => "InvalidCharacter"
  | loneSurrogate => "LoneSurrogate"
  | belowMinInclusive => "ValueBelowMinInclusive"
  | belowMinExclusive => "ValueBelowMinExclusive"
  | aboveMaxInclusive => "ValueAboveMaxInclusive"
  | aboveMaxExclusive => "ValueAboveMaxExclusive"
  | patternMismatch => "DoesNotMatchRegex"
  | validatorFailed => "FailedCustomValidation"

def ofCode? (s : String) : Option ErrorKind := all.find? (·.code == s)

/-- Whether the kind rejects a single code point. -/
def isInvalidCodePoint : ErrorKind → Bool
  | invalid _ => true
  | _ => false

/-- Whether the kind reports a number outside its bounds. -/
def isOutOfBounds : ErrorKind → Bool
  | belowMinInclusive | belowMinExclusive | aboveMaxInclusive | aboveMaxExclusive => true
  | _ => false

end ErrorKind

/-- A value that is not accepted. Indexes count code points from the start of the normalized
text, for a lone surrogate they count 16-bit units. -/
inductive ParseError
  | tooShort (min actual : Nat)
  | tooLong (max : Nat)
  | invalid (fault : CharFault) (codePoint index : Nat)
  | loneSurrogate (unit index : Nat)
  | belowMin (bound : Bound)
  | aboveMax (bound : Bound)
  | patternMismatch (pattern : String)
  | validatorFailed
  deriving DecidableEq, Repr

namespace ParseError

def kind : ParseError → ErrorKind
  | tooShort .. => .valueTooShort
  | tooLong .. => .valueTooLong
  | invalid fault .. => .invalid fault
  | loneSurrogate .. => .loneSurrogate
  | belowMin (.inclusive _) => .belowMinInclusive
  | belowMin (.exclusive _) => .belowMinExclusive
  | aboveMax (.inclusive _) => .aboveMaxInclusive
  | aboveMax (.exclusive _) => .aboveMaxExclusive
  | patternMismatch _ => .patternMismatch
  | validatorFailed => .validatorFailed

def faultNoun : CharFault → String
  | .whitespace => "whitespace character"
  | .control => "control character"
  | .quote => "quote character"
  | .character => "character"

def message : ParseError → String
  | tooShort min actual =>
    "value has " ++ toString actual ++ " code points, fewer than the minimum of " ++ toString min
  | tooLong max => "value is longer than the maximum of " ++ toString max ++ " code points"
  | invalid fault cp index =>
    "invalid " ++ faultNoun fault ++ " " ++ Text.codePoint cp ++ " at index " ++ toString index
  | loneSurrogate unit index =>
    "lone surrogate 0x" ++ Text.upperHex 4 unit ++ " at UTF-16 index " ++ toString index
  | belowMin (.inclusive min) => "value is below the minimum of " ++ toString min
  | belowMin (.exclusive min) => "value must be greater than " ++ toString min
  | aboveMax (.inclusive max) => "value is above the maximum of " ++ toString max
  | aboveMax (.exclusive max) => "value must be less than " ++ toString max
  | patternMismatch pattern => "value does not match the pattern " ++ pattern
  | validatorFailed => "value failed custom validation"

/-- The rejected code point or unit. -/
def codePoint? : ParseError → Option Nat
  | invalid _ cp _ => some cp
  | loneSurrogate unit _ => some unit
  | _ => none

def index? : ParseError → Option Nat
  | invalid _ _ index => some index
  | loneSurrogate _ index => some index
  | _ => none

/-- The named values that a message template may use. -/
def parameters : ParseError → List (String × String)
  | tooShort min actual => [("min", toString min), ("actual", toString actual)]
  | tooLong max => [("max", toString max)]
  | invalid _ cp index => [("code_point", Text.codePoint cp), ("index", toString index)]
  | loneSurrogate unit index =>
    [("code_point", "U+" ++ Text.upperHex 4 unit), ("index", toString index)]
  | belowMin (.inclusive min) | belowMin (.exclusive min) => [("min", toString min)]
  | aboveMax (.inclusive max) | aboveMax (.exclusive max) => [("max", toString max)]
  | patternMismatch pattern => [("pattern", pattern)]
  | validatorFailed => []

end ParseError

/-- A code point that a lenient reading has replaced. -/
structure Rejection where
  codePoint : Nat
  index : Nat
  kind : ErrorKind
  deriving DecidableEq, Repr

namespace Rejection

/-- The error with which a strict reading stops. A kind that rejects no code point counts as
an ordinary invalid character. -/
def toError (r : Rejection) : ParseError :=
  match r.kind with
  | .invalid fault => .invalid fault r.codePoint r.index
  | _ => .invalid .character r.codePoint r.index

def inspect (r : Rejection) : String :=
  Text.record "InvalidCodePoint" [("code_point", toString r.codePoint),
    ("index", toString r.index), ("kind", r.kind.name)]

end Rejection

end TextTypes
