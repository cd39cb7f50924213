import TextTypes.Rejection
import TextTypes.Text.Template

/-!
Messages for the users of a program, one template for each kind of error.
-/

namespace TextTypes

structure Messages where
  template : ErrorKind → String

namespace Messages

def standard : Messages where
  template
    | .valueTooShort => "The value must be at least \x7bmin\x7d characters long."
    | .valueTooLong => "The value must be at most \x7bmax\x7d characters long."
    | .invalid .whitespace =>
      "Whitespace character \x7bcode_point\x7d at position \x7bindex\x7d is not allowed."
    | .invalid .control =>
      "Control character \x7bcode_point\x7d at position \x7bindex\x7d is not allowed."
    | .invalid .quote =>
      "Quote character \x7bcode_point\x7d at position \x7bindex\x7d is not allowed."
    | .invalid .character =>
      "Character \x7bcode_point\x7d at position \x7bindex\x7d is not allowed."
    | .loneSurrogate => "Unpaired surrogate \x7bcode_point\x7d at position \x7bindex\x7d."
    | .belowMinInclusive => "The value must be at least \x7bmin\x7d."
    | .belowMinExclusive => "The value must be greater than \x7bmin\x7d."
    | .aboveMaxInclusive => "The value must be at most \x7bmax\x7d."
    | .aboveMaxExclusive => "The value must be less than \x7bmax\x7d."
    | .patternMismatch => "The value does not have the expected format."
    | .validatorFailed => "The value is not valid."

/-- The same messages with another template for one kind. -/
def set (m : Messages) (kind : ErrorKind) (template : String) : Messages where
  template k := if k = kind then template else m.template k

def render (m : Messages) (e : ParseError) : String :=
  String.ofList (Text.Template.fill e.parameters (m.template e.kind).toList)

end Messages

end TextTypes
