import TextTypes.Rejection
import TextTypes.Unicode.Blank
import TextTypes.Unicode.CategoryRuns
import TextTypes.Unicode.Letters

/-!
The choices a text type makes about case, white space and absent input.
-/

namespace TextTypes

open TextTypes.Unicode

/-- How letters are cased in the result. -/
inductive CasePolicy
  | preserve
  | upper
  | lower
  /-- The first character in title case, the others in lower case. -/
  | title
  deriving DecidableEq, Repr

namespace CasePolicy

/-- The image of a character; `first` tells whether it opens the value. -/
def image (p : CasePolicy) (first : Bool) (c : Char) : List Char :=
  match p with
  | preserve => [c]
  | upper => Letters.upper c
  | lower => Letters.lower c
  | title => if first then Letters.title c else Letters.lower c

def name : CasePolicy → String
  | preserve => "Preserve"
  | upper => "Upper"
  | lower => "Lower"
  | title => "Title"

end CasePolicy

/-- What becomes of white space between the first and the last other character. -/
inductive WhitespacePolicy
  /-- It is rejected. -/
  | forbid
  /-- It is kept. -/
  | preserve
  /-- Each character becomes the substitute. -/
  | substitute (c : Char)
  /-- A run shrinks to its first character. -/
  | collapse
  /-- A run shrinks to one substitute. -/
  | collapseTo (c : Char)
  /-- It is dropped. -/
  | remove
  deriving DecidableEq, Repr

namespace WhitespacePolicy

/-- Whether runs shrink; the result is then trimmed as well. -/
def collapses : WhitespacePolicy → Bool
  | collapse | collapseTo _ => true
  | _ => false

def substitute? : WhitespacePolicy → Option Char
  | substitute c | collapseTo c => some c
  | _ => none

def name : WhitespacePolicy → String
  | forbid => "Forbid"
  | preserve => "Preserve"
  | substitute c => Text.apply "PreserveAndConvert" [Text.quotedChar c]
  | collapse => "Normalize"
  | collapseTo c => Text.apply "NormalizeAndConvert" [Text.quotedChar c]
  | remove => "Remove"

end WhitespacePolicy

/-- What absent and empty input stand for. -/
inductive NullPolicy
  | preserve
  | nullToEmpty
  | emptyToNull
  deriving DecidableEq, Repr

namespace NullPolicy

/-- The value of absent input. -/
def absent : NullPolicy → Option (List Char)
  | nullToEmpty => some []
  | _ => none

/-- The value of empty or blank input. -/
def blank : NullPolicy → Option (List Char)
  | emptyToNull => none
  | _ => some []

def name : NullPolicy → String
  | preserve => "PreserveNullAndEmpty"
  | nullToEmpty => "ConvertNullToEmpty"
  | emptyToNull => "ConvertEmptyToNull"

end NullPolicy

def isQuote (c : Char) : Bool :=
  c == '"' || c == '\'' || c == '\x60' ||
    match categoryOf c.toNat with
    | .pi | .pf => true
    | _ => false

/-- What is wrong with a character that is not accepted. -/
def CharFault.of (c : Char) : CharFault :=
  if isBlank c then .whitespace
  else if isControl c then .control
  else if isQuote c then .quote
  else .character

end TextTypes
