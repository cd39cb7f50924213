import TextTypes.CodeSet.Basic
import TextTypes.IntMap.Basic
import TextTypes.TextType.Policy

/-!
Numerals: whole numbers written in the digits of some alphabet.

A numeral is read from left to right. A digit adds to the number; a sign is taken before the
first digit, once; an ignored character is passed over; anything else is an error. The number
is kept in 64 bits, and leaving them ends the reading with the bound that is violated.
-/

namespace TextTypes

open TextTypes.Unicode

/-- A fixed-width integer type. -/
structure IntegerType where
  name : String
  min : Int
  max : Int
  deriving DecidableEq, Repr

namespace IntegerType

def signed (name : String) (bits : Nat) : IntegerType :=
  ⟨name, -Int.pow 2 (bits - 1), Int.pow 2 (bits - 1) - 1⟩

def unsigned (name : String) (bits : Nat) : IntegerType := ⟨name, 0, Int.pow 2 bits - 1⟩

def i8 : IntegerType := signed "i8" 8
def i16 : IntegerType := signed "i16" 16
def i32 : IntegerType := signed "i32" 32
def i64 : IntegerType := signed "i64" 64
def u8 : IntegerType := unsigned "u8" 8
def u16 : IntegerType := unsigned "u16" 16
def u32 : IntegerType := unsigned "u32" 32

def all : List IntegerType := [i8, i16, i32, i64, u8, u16, u32]

/-- Whether a number is a value of the type. -/
def holds (t : IntegerType) (n : Int) : Bool := t.min ≤ n && n ≤ t.max

end IntegerType

namespace Bound

def value : Bound → Int
  | inclusive v => v
  | exclusive v => v

/-- Whether a number is too small for a lower bound. -/
def isAbove (b : Bound) (n : Int) : Bool :=
  match b with
  | inclusive v => n < v
  | exclusive v => n ≤ v

/-- Whether a number is too great for an upper bound. -/
def isBelow (b : Bound) (n : Int) : Bool :=
  match b with
  | inclusive v => v < n
  | exclusive v => v ≤ n

def inspect : Bound → String
  | inclusive v => Text.apply "Inclusive" [toString v]
  | exclusive v => Text.apply "Exclusive" [toString v]

end Bound

/-- What dashes and hyphens mean in a numeral. -/
inductive DashPolicy
  /-- A minus sign may lead; other dashes are errors. -/
  | keep
  | ignore
  /-- A minus sign may lead; other dashes are ignored. -/
  | ignoreInside
  deriving DecidableEq, Repr

def DashPolicy.name : DashPolicy → String
  | keep => "Keep"
  | ignore => "IgnoreAll"
  | ignoreInside => "IgnoreAllExceptLeadingNegativeSign"

structure Numeral where
  target : IntegerType
  digits : IntMap Int32
  radix : Nat
  min : Bound
  max : Bound
  ignored : CodeSet
  dashes : DashPolicy

namespace Numeral

def negativeSigns : List Char := ['-', '\u2212', '\ufe63', '\uff0d']

def positiveSigns : List Char := ['+', '\uff0b']

variable (n : Numeral)

/-- The value of a digit. -/
def digit? (c : Char) : Option Int := (n.digits.get? (Int32.ofNat c.toNat)).map Int32.toInt

def isSign (c : Char) : Bool :=
  positiveSigns.contains c || (negativeSigns.contains c && n.dashes != .ignore)

/-- The number so far with its sign, whether a sign may still come, and the digits read. -/
structure State where
  negative : Bool := false
  leading : Bool := true
  count : Nat := 0
  value : Int := 0
  deriving DecidableEq, Repr

/-- The number after one more digit. -/
def append (st : State) (d : Int) : Int :=
  if st.negative then st.value * n.radix - d else st.value * n.radix + d

/-- Reads the character at an index. -/
def step (st : State) (index : Nat) (c : Char) : Except ParseError State :=
  match n.digit? c with
  | some d =>
    let value := n.append st d
    if IntegerType.i64.holds value then
      .ok { st with leading := false, count := st.count + 1, value }
    else if st.negative then .error (.belowMin n.min)
    else .error (.aboveMax n.max)
  | none =>
    if st.leading && n.isSign c then
      .ok { st with leading := false, negative := negativeSigns.contains c }
    else if n.ignored.containsChar c then .ok st
    else .error (.invalid (.of c) c.toNat index)

/-- Reads the characters from an index on. -/
def run (st : State) (index : Nat) : List Char → Except ParseError State
  | [] => .ok st
  | c :: rest =>
    match n.step st index c with
    | .ok st => run st (index + 1) rest
    | .error e => .error e

/-- Holds a number against the least and then the greatest value. -/
def check (v : Int) : Except ParseError Int :=
  if n.min.isAbove v then .error (.belowMin n.min)
  else if n.max.isBelow v then .error (.aboveMax n.max)
  else .ok v

/-- The number of a text that is not blank. -/
def read (s : List Char) : Except ParseError Int := do
  let st ← n.run {} (margin s) (trim s)
  if st.count = 0 then throw (.tooShort 1 0)
  n.check st.value

/-- The number of a text; absent and blank input has none. -/
def parse (input : Option (List Char)) : Except ParseError (Option Int) :=
  match input with
  | none => .ok none
  | some s => if s.all isBlank then .ok none else (n.read s).map some

/-- The events of `parse`, given its outcome. -/
def parseEvents : Except ParseError (Option Int) → List Event
  | .ok _ => []
  | .error e =>
    [{ level := .trace
       message := "integral parse failed"
       fields := [("kind", e.kind.code), ("index", Text.option (e.index?.map toString))] }]

def inspect : String :=
  Text.record "IntegralNumericParser" [("target", Text.quotedString n.target.name),
    ("radix", toString n.radix), ("min", n.min.inspect), ("max", n.max.inspect),
    ("ignored", n.ignored.inspect), ("dashes", n.dashes.name)]

end Numeral

end TextTypes
