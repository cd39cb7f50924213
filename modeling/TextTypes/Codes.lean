import TextTypes.TextType.Builder

/-!
Ready-made text types: country codes of two letters and airport codes of three.
-/

namespace TextTypes

namespace Codes

/-- A fixed number of Latin letters, in upper case. -/
def letters (size : Nat) : TextType.Builder :=
  ({} : TextType.Builder)
    |>.acceptRange 'A'.toNat 'Z'.toNat
    |>.acceptRange 'a'.toNat 'z'.toNat
    |>.withSize size
    |>.withCase .upper

/-- The type of a valid configuration. -/
def type (b : TextType.Builder) : TextType := b.build.toOption.getD default

end Codes

/-- A country code. -/
structure CountryCode where
  text : List Char
  deriving DecidableEq, Repr

namespace CountryCode

def type : TextType := Codes.type (Codes.letters 2)

/-- Absent input stays absent. -/
def of (input : Option (List Char)) : Except ParseError (Option CountryCode) :=
  (type.parse input).map (·.map mk)

def inspect (c : CountryCode) : String := Text.apply "CountryCode" [Text.quoted c.text]

end CountryCode

/-- An airport code, empty for an absent one. -/
structure AirportCode where
  text : List Char
  deriving DecidableEq, Repr

namespace AirportCode

def type : TextType := Codes.type ((Codes.letters 3).withNulls .nullToEmpty)

def of (input : Option (List Char)) : Except ParseError AirportCode :=
  (type.parse input).map fun v => ⟨v.getD []⟩

def isEmpty (c : AirportCode) : Bool := c.text.isEmpty

def inspect (c : AirportCode) : String := Text.apply "IataAirportCode" [Text.quoted c.text]

end AirportCode

end TextTypes
