/-!
How values are written out for inspection: records with named fields, constructors with
arguments, lists, maps and options.
-/

namespace TextTypes.Text

def commas (items : List String) : String := String.intercalate ", " items

def list (items : List String) : String := "[" ++ commas items ++ "]"

def map (items : List (String × String)) : String :=
  "\x7b" ++ commas (items.map fun (k, v) => k ++ ": " ++ v) ++ "\x7d"

def record (name : String) (fields : List (String × String)) : String :=
  name ++ " \x7b " ++ commas (fields.map fun (k, v) => k ++ ": " ++ v) ++ " \x7d"

def apply (name : String) (args : List String) : String := name ++ "(" ++ commas args ++ ")"

def pair (a b : String) : String := apply "" [a, b]

def option : Option String → String
  | none => "None"
  | some s => apply "Some" [s]

def bool (b : Bool) : String := if b then "true" else "false"

def numbers (ns : List Nat) : String := list (ns.map toString)

end TextTypes.Text
