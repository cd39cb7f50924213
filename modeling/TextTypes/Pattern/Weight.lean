import TextTypes.Pattern.Basic
import TextTypes.Text.Utf8

/-!
How much room the automaton of a pattern takes.

The automaton reads bytes. It has one state for each byte of a character, some states for each
class and each choice, and for a counted repetition as many copies of what is repeated as it
may take rounds. It is laid out twice, for reading forward and for reading backward, where
parts that are remembered need no states. A pattern is refused if either layout is too large.
-/

namespace TextTypes.Pattern

open TextTypes.Text.Utf8

inductive Direction
  | forward
  | backward
  deriving DecidableEq, Repr

namespace Room

/-- The room of one state, in bytes. -/
def state : Nat := 32

/-- The room of one way out of a state that has many. -/
def way : Nat := 4

/-- The room of one byte span that leads on from a state. -/
def span : Nat := 8

/-- The largest room that is allowed. -/
def limit : Nat := 10 * 1024 * 1024

/-! ### Classes -/

/-- The rows below each first byte span; rows with equal first spans stand together. -/
def below (rows : List (List ByteSpan)) : List (List (List ByteSpan)) :=
  (rows.splitBy fun a b => a.head? = b.head?).map fun group => group.map List.tail

/-- Every set of rows that a state stands for, with the rows of `rows` first. -/
def nodes : (depth : Nat) → List (List ByteSpan) → List (List (List ByteSpan))
  | 0, _ => []
  | depth + 1, rows => rows :: ((below rows).filter (· != [[]])).flatMap (nodes depth)

/-- Read forward, states with the same ways on are one state. -/
def forwardClass (rows : List (List ByteSpan)) : Nat :=
  state + ((nodes 4 rows).eraseDups.map fun node =>
    state + span * (below node).length).foldr (· + ·) 0

/-- How many byte spans a row does not share with the row before it, from the lead on. -/
def unshared (before : List ByteSpan) : List (List ByteSpan) → Nat
  | [] => 0
  | row :: rest => row.length - (sharedFront before row).length + unshared row rest

/-- Read backward, only the states that lead into the same lead bytes are shared. -/
def backwardClass (rows : List (List ByteSpan)) : Nat :=
  2 * state + way * rows.length + state * unshared [] rows

def charClass (d : Direction) (cls : CharClass) : Nat :=
  match cls.member? with
  | some c => state * (bytes c).length
  | none =>
    if cls.isAscii then 2 * state + span * cls.spans.length
    else
      let rows := cls.spans.flatMap rows
      match d with
      | .forward => forwardClass rows
      | .backward => backwardClass rows

/-! ### Choices between words -/

/-- Groups what stands behind the first byte by that byte. -/
def byHead (words : List (List Nat)) : List (List (List Nat)) :=
  (words.filterMap List.head?).eraseDups.map fun b =>
    (words.filter (·.head? = some b)).map List.tail

/-- The room of words that go on from one state. A word that ends here parts those before it
from those after it; several that end before any other word goes on count once. -/
def wordTree : (fuel : Nat) → List (List Nat) → Nat
  | 0, _ => 0
  | fuel + 1, words =>
    if words.all List.isEmpty then 0
    else
      let leading := (words.takeWhile List.isEmpty).length
      let endings := (words.filter List.isEmpty).length - (leading - 1)
      let chunks := ((words.splitBy fun a b => a.isEmpty = b.isEmpty).filter
        (·.any (!·.isEmpty))).map byHead
      let room := chunks.map fun groups =>
        state + (if groups.length = 1 then 0 else span * groups.length) +
          (groups.map (wordTree fuel)).sum
      room.sum + state + way * (chunks.length + endings)

/-- The room of a choice between words, read in one direction. -/
def words (d : Direction) (ws : List (List Char)) : Nat :=
  let coded := ws.map fun w =>
    let w := w.flatMap bytes
    match d with
    | .forward => w
    | .backward => w.reverse
  state + wordTree ((coded.map List.length).foldl max 0 + 1) coded

end Room

/-- The room of a pattern. -/
structure Weight where
  /-- Without regard to a choice between words. -/
  plain : Nat
  /-- As branches of a choice. -/
  asBranches : Nat
  /-- Whether the last state has many ways out, so that the way behind it takes room. -/
  manyWays : Bool
  /-- The words between which the pattern chooses, if it is nothing else. -/
  words : List (List Char)

namespace Weight

/-- The room of the way behind a pattern. -/
def exit (w : Weight) : Nat := if w.manyWays then Room.way else 0

/-- A pattern that is no choice. -/
def of (plain : Nat) (manyWays : Bool) (words : List (List Char)) : Weight where
  plain
  asBranches := plain + Room.way + (if manyWays then Room.way else 0)
  manyWays
  words

def room (d : Direction) (w : Weight) : Nat :=
  if 2 ≤ w.words.length then Room.words d w.words else w.plain

def group (d : Direction) (w : Weight) : Weight :=
  match d with
  | .forward => of (2 * Room.state + w.room d + w.exit) false []
  | .backward => of (w.room d) w.manyWays []

def seq (d : Direction) (v w : Weight) : Weight :=
  let words := match v.words, w.words with
    | [a], [b] => [a ++ b]
    | _, _ => []
  match d with
  | .forward => of (v.room d + w.room d + v.exit) w.manyWays words
  | .backward => of (v.room d + w.room d + w.exit) v.manyWays words

def alt (v w : Weight) : Weight where
  plain := 2 * Room.state + v.asBranches + w.asBranches
  asBranches := v.asBranches + w.asBranches
  manyWays := false
  words := if v.words.isEmpty || w.words.isEmpty then [] else v.words ++ w.words

/-- A repetition; `consumes` tells whether every round takes a character. -/
def loop (d : Direction) (consumes : Bool) (w : Weight) (min : Nat) (max : Option Nat) : Weight :=
  let one := w.room d
  let copy := one + w.exit
  match min, max with
  | 0, some 1 => of (2 * Room.state + copy + 2 * Room.way) false []
  | 0, none =>
    if consumes then of (Room.state + copy + Room.way) true []
    else of (3 * Room.state + copy + 4 * Room.way) false []
  | min, none => of (min * copy + Room.state + Room.way) true []
  | min, some max =>
    if min = max then of (min * copy - w.exit) w.manyWays []
    else
      let optional := (max - min) * (Room.state + copy + 2 * Room.way)
      if min = 0 then of (2 * Room.state + optional) false []
      else of (min * copy + Room.state + optional) false []

end Weight

def weigh (d : Direction) : Pattern CharClass → Weight
  | empty | start | stop => .of Room.state false []
  | char cls =>
    .of (Room.charClass d cls) false
      (match cls.member? with
      | some c => [[c]]
      | none => [])
  | group p => (p.weigh d).group d
  | seq p q => (p.weigh d).seq d (q.weigh d)
  | alt p q => (p.weigh d).alt (q.weigh d)
  | loop p min max => (p.weigh d).loop d p.consumes min max

/-- Whether every match begins at the start of the text. -/
def opensAtStart : Pattern CharClass → Bool
  | start => true
  | empty | stop | char _ => false
  | group p => p.opensAtStart
  | seq p q => p.opensAtStart || (p.takesNone && q.opensAtStart)
  | alt p q => p.opensAtStart && q.opensAtStart
  | loop p min _ => min != 0 && p.opensAtStart

/-- Whether every match ends at the end of the text. -/
def closesAtStop : Pattern CharClass → Bool
  | stop => true
  | empty | start | char _ => false
  | group p => p.closesAtStop
  | seq p q => q.closesAtStop || (q.takesNone && p.closesAtStop)
  | alt p q => p.closesAtStop && q.closesAtStop
  | loop p min _ => min != 0 && p.closesAtStop

/-- The room of the whole automaton. Where a match need not begin at the edge of the text, other
bytes may come first; read forward, the match as a whole is remembered. -/
def room (d : Direction) (p : Pattern CharClass) : Nat :=
  let atEdge := match d with
    | .forward => p.opensAtStart
    | .backward => p.closesAtStop
  let lead := if atEdge then Room.state else 3 * Room.state + Room.span + 2 * Room.way
  let whole := match d with
    | .forward => (p.weigh d).group d
    | .backward => p.weigh d
  lead + whole.room d + whole.exit + Room.state

/-- Whether both layouts of a pattern keep to the limit. -/
def fits (p : Pattern CharClass) : Bool :=
  p.room .forward ≤ Room.limit && p.room .backward ≤ Room.limit

end TextTypes.Pattern
