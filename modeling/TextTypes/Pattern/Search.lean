import TextTypes.Pattern.Basic
import TextTypes.Pattern.Places

/-!
Where patterns match.

A pattern leads from a set of positions to the set of positions at which a match may end. A
sequence goes on from where its first part has led; a repetition without bound goes on from
every position it has reached. Each such repetition remembers from which positions it has gone
on already, so that a repetition inside another never does the same work twice: entered again,
a pattern may leave out the positions it has answered with before. A pattern matches a text if
it leads anywhere from the positions of the text.
-/

namespace TextTypes.Pattern

/-- What the repetitions in a pattern remember; the shape follows the pattern. -/
inductive Memory
  | blank
  | pair (first second : Memory)
  /-- The positions that a repetition has gone on from, and what its inner part remembers. -/
  | seen (places : Places) (inner : Memory)
  deriving Repr

namespace Memory

def first : Memory → Memory
  | pair m _ => m
  | _ => blank

def second : Memory → Memory
  | pair _ m => m
  | _ => blank

def places : Memory → Places
  | seen s _ => s
  | _ => .none

def inner : Memory → Memory
  | seen _ m => m
  | _ => blank

end Memory

/-- How a part of a pattern is entered: with a set of positions, and with its memory. -/
abbrev Entry := Places → Memory → Places × Memory

/-- Goes on behind another part, unless that has led nowhere. -/
def andThen (enter : Entry) (s : Places) (m : Memory) : Places × Memory :=
  if s.isEmpty then (s, m) else enter s m

/-- Exactly `n` rounds, each with a memory of its own. -/
def exactly (enter : Entry) : (n : Nat) → Entry
  | 0, s, m => (s, m)
  | n + 1, s, m =>
    let (t, a) := enter s m.first
    let (u, b) := andThen (exactly enter n) t m.second
    (u, .pair a b)

/-- At most `n` rounds, each with a memory of its own. -/
def atMost (enter : Entry) : (n : Nat) → Entry
  | 0, s, m => (s, m)
  | n + 1, s, m =>
    let (t, a) := enter s m.first
    let (u, b) := andThen (atMost enter n) t m.second
    (s.union u, .pair a b)

/-- What a repetition without bound has come to: the positions reached, the positions from which
it has gone on, and what its inner part remembers. -/
structure Spread where
  found : Places
  seen : Places
  inner : Memory

/-- One round after the other, from `fresh` on. When a round reaches no position from which the
repetition has not gone on already, it is the last one. -/
def spread (enter : Entry) : (fuel : Nat) → (fresh : Places) → Spread → Spread
  | 0, _, st => st
  | fuel + 1, fresh, st =>
    let new := fresh.minus st.seen
    if new.isEmpty then st
    else
      let (t, inner) := enter new st.inner
      spread enter fuel t ⟨st.found.union t, st.seen.union new, inner⟩

/-- One round or more. -/
def oneOrMore (enter : Entry) (fuel : Nat) : Entry := fun s m =>
  let st := spread enter fuel s ⟨.none, m.places, m.inner⟩
  (st.found, .seen st.seen st.inner)

/-- At least `n` rounds; those from the last one required on share a memory. -/
def atLeast (enter : Entry) (fuel : Nat) : (n : Nat) → Entry
  | 0, s, m =>
    let (t, m) := oneOrMore enter fuel s m
    (s.union t, m)
  | n + 1, s, m =>
    let (t, a) := exactly enter n s m.first
    let (u, b) := andThen (oneOrMore enter fuel) t m.second
    (u, .pair a b)

/-- From `min` up to `max` rounds. -/
def between (enter : Entry) (min max : Nat) : Entry := fun s m =>
  let (t, a) := exactly enter min s m.first
  let (u, b) := andThen (atMost enter (max - min)) t m.second
  (u, .pair a b)

/-- Enters a pattern held against a text of `size` characters. More rounds than the text has
positions lead nowhere else, so every count is cut down to their number. -/
def enter (size : Nat) : Pattern Places → Entry
  | empty, s, m => (s, m)
  | char places, s, m => ((s.inter places).next, m)
  | start, s, m => (s.inter (.only 0), m)
  | stop, s, m => (s.inter (.only size), m)
  | group p, s, m => p.enter size s m
  | seq p q, s, m =>
    let (t, a) := p.enter size s m.first
    let (u, b) := andThen (q.enter size) t m.second
    (u, .pair a b)
  | alt p q, s, m =>
    let (t, a) := p.enter size s m.first
    let (u, b) := q.enter size s m.second
    (t.union u, .pair a b)
  | loop p min max, s, m =>
    let places := size + 1
    match max with
    | some max => between (p.enter size) (Nat.min min places) (Nat.min max places) s m
    | none => atLeast (p.enter size) (places + 1) (Nat.min min places) s m

/-- Where in a text the characters of a class stand. -/
def placesOf (text : List Char) (cls : CharClass) : Places := .ofText cls.contains text

/-- A pattern held against a text. The text is looked through once for every class. -/
def against (p : Pattern CharClass) (text : List Char) : Pattern Places :=
  let known := p.letters.eraseDups.map fun cls => (cls, placesOf text cls)
  p.map fun cls => (known.lookup cls).getD (placesOf text cls)

/-- The positions to which a pattern leads from some positions in a text. -/
def ends (p : Pattern CharClass) (text : List Char) (s : Places) : Places :=
  ((p.against text).enter text.length s .blank).1

/-- Whether a pattern matches some part of a text. -/
def isMatch (p : Pattern CharClass) (text : List Char) : Bool :=
  !(p.ends text (.upTo text.length)).isEmpty

end TextTypes.Pattern
