import TextTypes.Text.Hex

/-!
Arrays written as source literals: a label with element type and length, then the values in
hexadecimal, eight to a line.
-/

namespace TextTypes.Text.Literal

/-- An element type: its name and the hexadecimal digits of its values. -/
structure Element where
  name : String
  digits : Nat

def u16 : Element := ⟨"u16", 4⟩
def u32 : Element := ⟨"u32", 8⟩
def u64 : Element := ⟨"u64", 16⟩
def i32 : Element := ⟨"i32", 8⟩

/-- Cuts a list into pieces of `n + 1` elements, the last one possibly shorter. The length of
the list is fuel enough. -/
def chunks (n : Nat) : (fuel : Nat) → List α → List (List α)
  | 0, _ => []
  | _, [] => []
  | fuel + 1, x :: rest => (x :: rest.take n) :: chunks n fuel (rest.drop n)

def line (e : Element) (values : List Nat) : String :=
  "   " ++ String.join (values.map fun v => " 0x" ++ hex e.digits v ++ ",") ++ "\n"

def array (label : String) (e : Element) (values : List Nat) : String :=
  label ++ ": [" ++ e.name ++ "; " ++ toString values.length ++ "] = [\n" ++
    String.join ((chunks 7 values.length values).map (line e)) ++ "];\n"

end TextTypes.Text.Literal
