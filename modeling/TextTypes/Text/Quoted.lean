import TextTypes.Text.Hex
import TextTypes.Unicode.Printable

/-!
Characters and texts between quotes.

Some characters are written with a backslash and a letter, characters that cannot be shown
with their number, all others as themselves. Which of the two quotes is escaped depends on
what stands around the character.
-/

namespace TextTypes.Text

open TextTypes.Unicode

/-- A character by its number. -/
def escapeNumber (c : Char) : String := "\\u\x7b" ++ hex 1 c.toNat ++ "\x7d"

/-- The escape of one character; `quotes` are the quotes that are escaped. -/
def escapeChar (quotes : List Char) (c : Char) : String :=
  if c = '\x00' then "\\0"
  else if c = '\t' then "\\t"
  else if c = '\r' then "\\r"
  else if c = '\n' then "\\n"
  else if c = '\\' then "\\\\"
  else if quotes.contains c then String.ofList ['\\', c]
  else if merges c || !isVisible c then escapeNumber c
  else String.ofList [c]

/-- A character as it stands in a message, both quotes escaped. -/
def escape (c : Char) : String := escapeChar ['\'', '"'] c

def quotedChar (c : Char) : String := "'" ++ escapeChar ['\''] c ++ "'"

def quoted (s : List Char) : String := "\"" ++ String.join (s.map (escapeChar ['"'])) ++ "\""

def quotedString (s : String) : String := quoted s.toList

/-- A code point by its number and, if it is a character, the character between quotes. -/
def codePoint (cp : Nat) : String :=
  "U+" ++ upperHex 4 cp ++
    match CodePoint.scalar? cp with
    | some c => " '" ++ escape c ++ "'"
    | none => ""

end TextTypes.Text
