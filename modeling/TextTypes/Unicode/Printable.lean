import TextTypes.Unicode.CategoryRuns
import TextTypes.Unicode.PrintData

/-!
Which characters are shown as themselves.

Controls, format characters, private and unassigned code points and all separators except the
plain space are not visible, nor are the four fillers among the letters. A character that extends
a grapheme merges with the character before it; only the two halfwidth sound marks take a place
of their own.
-/

namespace TextTypes.Unicode

open TextTypes.Range

namespace Printable

def ranges (rows : List Nat) : List (Nat × Nat) := Packed.pairs (Packed.entries 24 12 rows)

def extenders : Array (Nat × Nat) := (ranges PrintData.extenders).toArray

def recent : Array (Nat × Nat) := (ranges PrintData.recent).toArray

def isIn (table : Array (Nat × Nat)) (n : Nat) : Bool :=
  (Bisect.find? table fun r => if n < r.1 then .lt else if r.2 < n then .gt else .eq).isSome

end Printable

/-- The fillers of the Hangul script, letters without a shape. -/
def isFiller (c : Char) : Bool := [0x115F, 0x1160, 0x3164, 0xFFA0].contains c.toNat

def isExtender (c : Char) : Bool := 0x300 ≤ c.toNat && Printable.isIn Printable.extenders c.toNat

/-- The halfwidth voiced and semi-voiced sound marks, which extend a grapheme. -/
def isSoundMark (c : Char) : Bool := c.toNat == 0xFF9E || c.toNat == 0xFF9F

def merges (c : Char) : Bool := isExtender c && !isSoundMark c

def isVisible (c : Char) : Bool :=
  let n := c.toNat
  if n < 0x7F then 0x20 ≤ n
  else
    match categoryOf n with
    | .cc | .cf | .cs | .co | .zs | .zl | .zp => false
    | .cn => Printable.isIn Printable.recent n
    | _ => !isFiller c

end TextTypes.Unicode
