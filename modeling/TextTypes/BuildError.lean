import TextTypes.Text.Quoted
import TextTypes.Text.Record

/-!
Why a configuration is rejected.
-/

namespace TextTypes

inductive BuildError
  | noRadix
  | invalidRadix (radix : Nat)
  | duplicateDigit (codePoint first second : Nat)
  | boundsOutOfRange (min max : Int) (target : String)
  | invalidRange (lo hi : Nat)
  | minAboveMax (min max : Nat)
  | invalidPattern
  deriving DecidableEq, Repr

namespace BuildError

def name : BuildError → String
  | noRadix => "NoRadixConfigured"
  | invalidRadix .. => "InvalidRadix"
  | duplicateDigit .. => "DuplicateRadixCharacter"
  | boundsOutOfRange .. => "MinMaxOutOfRangeForTargetType"
  | invalidRange .. => "InvalidCodePointRange"
  | minAboveMax .. => "MinSizeGreaterThanMaxSize"
  | invalidPattern => "InvalidRegex"

/-- The text of an error. A pattern that cannot be read has none here. -/
def message : BuildError → String
  | noRadix => "no radix configured"
  | invalidRadix radix =>
    "radix " ++ toString radix ++ " is outside 2..=36, or the digit alphabet is too short"
  | duplicateDigit cp first second =>
    "character " ++ Text.codePoint cp ++ " is already assigned digit " ++ toString first ++
      " and cannot also be digit " ++ toString second
  | boundsOutOfRange min max target =>
    "bounds [" ++ toString min ++ ", " ++ toString max ++ "] are out of range for target type " ++
      target
  | invalidRange lo hi =>
    "invalid code point range [0x" ++ Text.upperHex 1 lo ++ ", 0x" ++ Text.upperHex 1 hi ++ "]"
  | minAboveMax min max =>
    "minimum size " ++ toString min ++ " is greater than maximum size " ++ toString max
  | invalidPattern => ""

/-- The fields of an error, by name. -/
def fields : BuildError → List (String × String)
  | noRadix | invalidPattern => []
  | invalidRadix radix => [("radix", toString radix)]
  | duplicateDigit cp first second =>
    [("code_point", toString cp), ("first_digit", toString first),
      ("second_digit", toString second)]
  | boundsOutOfRange min max target =>
    [("min", toString min), ("max", toString max), ("target_type", Text.quotedString target)]
  | invalidRange lo hi => [("from", toString lo), ("to", toString hi)]
  | minAboveMax min max => [("min", toString min), ("max", toString max)]

def inspect (e : BuildError) : String :=
  match e.fields with
  | [] => e.name
  | fields => Text.record e.name fields

end BuildError

end TextTypes
