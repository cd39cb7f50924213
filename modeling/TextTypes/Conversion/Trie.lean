/-!
Tries over characters.

A node holds the value of the text that leads to it, if there is one, and a child for each
next character.
-/

namespace TextTypes.Conversion

inductive Trie (α : Type)
  | node (value : Option α) (children : List (Char × Trie α))

namespace Trie

variable {α : Type}

def empty : Trie α := .node none []

instance : Inhabited (Trie α) := ⟨empty⟩

def value : Trie α → Option α
  | node value _ => value

def children : Trie α → List (Char × Trie α)
  | node _ children => children

/-- Whether no text goes on from here. -/
def isLeaf (t : Trie α) : Bool := t.children.isEmpty

def child? (t : Trie α) (c : Char) : Option (Trie α) :=
  (t.children.find? (·.1 == c)).map Prod.snd

/-- Replaces the child of a character, or adds one. -/
def setChild (c : Char) (t : Trie α) : List (Char × Trie α) → List (Char × Trie α)
  | [] => [(c, t)]
  | (d, u) :: rest => if d = c then (c, t) :: rest else (d, u) :: setChild c t rest

def insert (t : Trie α) (key : List Char) (a : α) : Trie α :=
  match key with
  | [] => .node (some a) t.children
  | c :: rest =>
    .node t.value (setChild c (((t.child? c).getD empty).insert rest a) t.children)

/-- The node a text leads to. -/
def descend? (t : Trie α) : List Char → Option (Trie α)
  | [] => some t
  | c :: rest => (t.child? c).bind (·.descend? rest)

def find? (t : Trie α) (key : List Char) : Option α := (t.descend? key).bind value

mutual

/-- The number of nodes. -/
def size : Trie α → Nat
  | node _ children => 1 + sizes children

def sizes : List (Char × Trie α) → Nat
  | [] => 0
  | (_, t) :: rest => t.size + sizes rest

end

end Trie

end TextTypes.Conversion
