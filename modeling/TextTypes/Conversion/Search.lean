import TextTypes.Conversion.Trie

/-!
Leftmost-longest matches of a trie in a text.

The scan keeps every partial match alive: each position starts a new one at the root, and each
character moves all of them one node down. Of the complete matches seen so far the earliest
start wins, then the greater length. A match is settled once no partial match that starts at
or before it is left; the scan then goes on right behind it.
-/

namespace TextTypes.Conversion

/-- A source with its replacement; the rank counts the rules in the order they are compiled. -/
structure Rule where
  rank : Nat
  replacement : List Char
  deriving DecidableEq, Repr

/-- A settled match, from `start` up to but not including `stop`. -/
structure Match where
  start : Nat
  stop : Nat
  rule : Rule
  deriving DecidableEq, Repr

namespace Match

def length (m : Match) : Nat := m.stop - m.start

def inspect (m : Match) : String :=
  "SequenceMatch \x7b start: " ++ toString m.start ++ ", end: " ++ toString m.stop ++
    ", replacement: " ++ toString m.rule.rank ++ " \x7d"

end Match

/-- A match that may still grow: where it starts and the node it has reached. -/
structure Partial where
  start : Nat
  node : Trie Rule

/-- The partial matches, latest start first, and the best complete match. -/
structure Search where
  live : List Partial := []
  best : Option Match := none

namespace Search

/-- An earlier start wins, and of one start the match seen last, which is the longest. -/
def better (best : Option Match) (m : Match) : Option Match :=
  match best with
  | some b => if m.start ≤ b.start then some m else some b
  | none => some m

/-- The partial matches that go on over a character, each with the node it gets to. -/
def moved (c : Char) (live : List Partial) : List Partial :=
  live.filterMap fun p => (p.node.child? c).map fun node => ⟨p.start, node⟩

/-- Takes note of a partial match that has become complete at `stop`. -/
def record (stop : Nat) (best : Option Match) (p : Partial) : Option Match :=
  match p.node.value with
  | some rule => better best ⟨p.start, stop, rule⟩
  | none => best

/-- Drops the partial matches that start behind the best match. -/
def prune (st : Search) : Search :=
  match st.best with
  | some b => { st with live := st.live.filter (·.start ≤ b.start) }
  | none => st

/-- Reads the character at `pos`. -/
def step (root : Trie Rule) (pos : Nat) (c : Char) (st : Search) : Search :=
  let reached := moved c (⟨pos, root⟩ :: st.live)
  prune
    { live := reached.filter (!·.node.isLeaf)
      best := reached.foldl (record (pos + 1)) st.best }

/-- The first match to be settled in the text from `pos` on. -/
def seek (root : Trie Rule) (pos : Nat) (st : Search) : List Char → Option Match
  | [] => none
  | c :: rest =>
    let st := step root pos c st
    if st.best.isSome && (st.live.isEmpty || rest.isEmpty) then st.best
    else seek root (pos + 1) st rest

/-- The settled matches of a text of which `skip` characters are already covered and the next
one stands at `pos`. -/
def settle (root : Trie Rule) : (skip pos : Nat) → List Char → List Match
  | _, _, [] => []
  | skip + 1, pos, _ :: rest => settle root skip (pos + 1) rest
  | 0, pos, c :: rest =>
    match seek root pos {} (c :: rest) with
    | some m => m :: settle root (m.stop - pos - 1) (pos + 1) rest
    | none => []

/-- All matches, in the order of their starts. -/
def all (root : Trie Rule) (text : List Char) : List Match := settle root 0 0 text

end Search

end TextTypes.Conversion
