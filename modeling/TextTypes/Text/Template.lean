/-!
Message templates: a name between braces stands for the value of that name.
-/

namespace TextTypes.Text.Template

/-- Replaces every occurrence of `target`, left to right, after the first `skip` characters
have been dropped. -/
def replaceFrom (target value : List Char) : (skip : Nat) → List Char → List Char
  | _, [] => []
  | skip + 1, _ :: rest => replaceFrom target value skip rest
  | 0, c :: rest =>
    if target.isPrefixOf (c :: rest) then
      value ++ replaceFrom target value (target.length - 1) rest
    else c :: replaceFrom target value 0 rest

def replace (target value s : List Char) : List Char := replaceFrom target value 0 s

def placeholder (name : String) : List Char := '\x7b' :: name.toList ++ ['\x7d']

/-- Fills in one parameter after the other. -/
def fill (params : List (String × String)) (template : List Char) : List Char :=
  params.foldl (fun s (name, value) => replace (placeholder name) value.toList s) template

end TextTypes.Text.Template
