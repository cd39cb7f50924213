/-!
Hexadecimal numerals, padded on the left with zeros.
-/

namespace TextTypes.Text

def padLeft (width : Nat) (s : String) : String :=
  String.ofList (List.replicate (width - s.length) '0') ++ s

/-- Lower-case hexadecimal of at least `width` digits. -/
def hex (width n : Nat) : String := padLeft width (String.ofList (Nat.toDigits 16 n))

/-- Upper-case hexadecimal of at least `width` digits. -/
def upperHex (width n : Nat) : String :=
  padLeft width (String.ofList ((Nat.toDigits 16 n).map Char.toUpper))

end TextTypes.Text
