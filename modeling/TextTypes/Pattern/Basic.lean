import TextTypes.Pattern.CharClass

/-!
Patterns and how they are put together.

A sequence leans to the right and holds no empty part; so does a choice, whose branches are no
choices themselves. A choice between characters, or between classes, is a class; a front that
all branches share stands before the choice. A repetition of what takes no room is done at most
once. None of this changes which texts match, but it decides how large a pattern is.

The letters of a pattern are classes of characters when it is read, and sets of positions when
it is held against a text.
-/

namespace TextTypes

inductive Pattern (α : Type)
  | empty
  | char (letter : α)
  /-- The start of the text. -/
  | start
  /-- The end of the text. -/
  | stop
  /-- A part between parentheses that is to be remembered. -/
  | group (p : Pattern α)
  | seq (p q : Pattern α)
  | alt (p q : Pattern α)
  /-- From `min` up to `max` rounds; without `max`, any number from `min`. -/
  | loop (p : Pattern α) (min : Nat) (max : Option Nat)
  deriving DecidableEq, Repr

namespace Pattern

variable {α : Type}

/-- Whether every match takes at least one character. -/
def consumes : Pattern α → Bool
  | char _ => true
  | empty | start | stop => false
  | group p => p.consumes
  | seq p q => p.consumes || q.consumes
  | alt p q => p.consumes && q.consumes
  | loop p min _ => min != 0 && p.consumes

/-- Whether no match takes a character. -/
def takesNone : Pattern α → Bool
  | char _ => false
  | empty | start | stop => true
  | group p => p.takesNone
  | seq p q => p.takesNone && q.takesNone
  | alt p q => p.takesNone && q.takesNone
  | loop p _ _ => p.takesNone

/-- The letters in a pattern, from left to right. -/
def letters : Pattern α → List α
  | char letter => [letter]
  | empty | start | stop => []
  | group p | loop p _ _ => p.letters
  | seq p q | alt p q => p.letters ++ q.letters

/-- The same pattern with other letters. -/
def map {β : Type} (f : α → β) : Pattern α → Pattern β
  | empty => empty
  | char letter => char (f letter)
  | start => start
  | stop => stop
  | group p => group (p.map f)
  | seq p q => seq (p.map f) (q.map f)
  | alt p q => alt (p.map f) (q.map f)
  | loop p min max => loop (p.map f) min max

/-! ### Sequences -/

/-- One pattern behind another. -/
def append : Pattern α → Pattern α → Pattern α
  | empty, q => q
  | seq p r, q => seq p (r.append q)
  | p, empty => p
  | p, q => seq p q

def concat (ps : List (Pattern α)) : Pattern α := ps.foldr append empty

/-- The parts of a sequence. -/
def parts : Pattern α → List (Pattern α)
  | empty => []
  | seq p q => p :: q.parts
  | p => [p]

def literal? : Pattern CharClass → Option Char
  | char cls => cls.member?
  | _ => none

/-- The parts of a sequence, characters that follow each other taken together. -/
def runs (p : Pattern CharClass) : List (List (Pattern CharClass)) :=
  p.parts.splitBy fun a b => a.literal?.isSome && b.literal?.isSome

/-! ### Choices -/

/-- The branches of a choice. -/
def branches : Pattern α → List (Pattern α)
  | alt p q => p :: q.branches
  | p => [p]

def ofBranches : List (Pattern α) → Pattern α
  | [] => empty
  | [p] => p
  | p :: rest => alt p (ofBranches rest)

def charClass? : Pattern CharClass → Option CharClass
  | char cls => some cls
  | _ => none

/-- The class of all branches, if they are all characters or all larger classes. -/
def mergedClass? (ps : List (Pattern CharClass)) : Option CharClass := do
  let classes ← ps.mapM charClass?
  let single := classes.map (·.member?.isSome)
  if single.all id || single.all not then some (CharClass.union classes) else none

/-- A choice without a search for a shared front. -/
def plainChoice (ps : List (Pattern CharClass)) : Pattern CharClass :=
  let ps := ps.flatMap branches
  match mergedClass? ps with
  | some cls => char cls
  | none => ofBranches ps

/-- The longest common front of two lists. -/
def sharedFront {β : Type} [DecidableEq β] : List β → List β → List β
  | a :: as, b :: bs => if a = b then a :: sharedFront as bs else []
  | _, _ => []

/-- The choice with the front that all branches share put before it. Only branches of several
parts have one. -/
def lifted? (ps : List (Pattern CharClass)) : Option (Pattern CharClass) :=
  match ps.map runs with
  | [] => none
  | first :: rest =>
    let front := rest.foldl sharedFront first
    if front.isEmpty || (first :: rest).any (·.length < 2) then none
    else
      let tails := (first :: rest).map fun r => concat (r.drop front.length).flatten
      some (concat (front.flatten ++ [plainChoice tails]))

/-- One of several patterns. -/
def choice (ps : List (Pattern CharClass)) : Pattern CharClass :=
  let ps := ps.flatMap branches
  match ps, mergedClass? ps with
  | [p], _ => p
  | _, some cls => char cls
  | _, none => (lifted? ps).getD (ofBranches ps)

/-! ### Repetitions -/

def times (p : Pattern α) (min : Nat) (max : Option Nat) : Pattern α :=
  let (min, max) :=
    if p.takesNone then (Nat.min min 1, some (Nat.min (max.getD 1) 1)) else (min, max)
  match min, max with
  | 0, some 0 => empty
  | 1, some 1 => p
  | _, _ => loop p min max

end Pattern

end TextTypes
