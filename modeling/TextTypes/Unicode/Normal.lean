import TextTypes.Bisect
import TextTypes.CodePoint
import TextTypes.Unicode.NormalData
import TextTypes.Unicode.Packed

/-!
Normalization forms.

A text is decomposed character by character, its combining marks are put into canonical
order, and a composing form joins each starter with the marks and starters that combine with
it and are not blocked. Syllables of the Hangul block follow arithmetic rules.
-/

namespace TextTypes.Unicode

namespace Hangul

def sBase : Nat := 0xAC00
def lBase : Nat := 0x1100
def vBase : Nat := 0x1161
def tBase : Nat := 0x11A7
def lCount : Nat := 19
def vCount : Nat := 21
def tCount : Nat := 28
def sCount : Nat := lCount * vCount * tCount

def isSyllable (n : Nat) : Bool := sBase ≤ n && n < sBase + sCount

/-- A syllable's leading consonant, vowel and, unless there is none, trailing consonant. -/
def decompose (n : Nat) : List Nat :=
  let i := n - sBase
  let front := [lBase + i / (vCount * tCount), vBase + i % (vCount * tCount) / tCount]
  if i % tCount = 0 then front else front ++ [tBase + i % tCount]

def compose? (a b : Nat) : Option Nat :=
  if lBase ≤ a && a < lBase + lCount && vBase ≤ b && b < vBase + vCount then
    some (sBase + ((a - lBase) * vCount + (b - vBase)) * tCount)
  else if isSyllable a && (a - sBase) % tCount == 0 && tBase < b && b < tBase + tCount then
    some (a + (b - tBase))
  else none

end Hangul

namespace Normal

def canonical : Array (Nat × List Nat) :=
  (Packed.groups (Packed.entries 24 12 NormalData.canonical)).toArray

def compatible : Array (Nat × List Nat) :=
  (Packed.groups (Packed.entries 24 12 NormalData.compatible)).toArray

def composites : Array (Nat × Nat × Nat) :=
  (Packed.triples (Packed.entries 24 12 NormalData.composites)).toArray

def classes : Array (Nat × Nat × Nat) :=
  (Packed.triples (Packed.entries 24 12 NormalData.classes)).toArray

/-- The combining class; a starter has class zero. -/
def classOf (c : Char) : Nat :=
  let n := c.toNat
  if n < 0x300 then 0
  else
    let side := fun (first, last, _) =>
      if n < first then .lt else if last < n then .gt else .eq
    match Bisect.find? classes side with
    | some (_, _, cls) => cls
    | none => 0

/-- The full decomposition of one character. -/
def decompose (compat : Bool) (c : Char) : List Char :=
  let n := c.toNat
  let side := fun (entry : Nat × List Nat) => compare n entry.1
  if n < 0xA0 then [c]
  else if Hangul.isSyllable n then CodePoint.scalars (Hangul.decompose n)
  else
    match if compat then Bisect.find? compatible side else none with
    | some entry => CodePoint.scalars entry.2
    | none =>
      match Bisect.find? canonical side with
      | some entry => CodePoint.scalars entry.2
      | none => [c]

/-- Whether two neighbours are both marks. -/
def areMarks (a b : Char) : Bool := classOf a != 0 && classOf b != 0

/-- Canonical order: each run of marks sorted by class, marks of one class in their order. -/
def reorder (s : List Char) : List Char :=
  (s.splitBy areMarks).flatMap fun run => run.mergeSort fun a b => classOf a ≤ classOf b

/-- The character that two characters combine to. -/
def compose? (a b : Char) : Option Char :=
  if b.toNat < 0x300 then none
  else
    match Hangul.compose? a.toNat b.toNat with
    | some n => CodePoint.scalar? n
    | none =>
      let side := fun (x, y, _) => (compare a.toNat x).then (compare b.toNat y)
      match Bisect.find? composites side with
      | some (_, _, n) => CodePoint.scalar? n
      | none => none

/-- A mark is blocked by a mark before it of the same or a higher class. The marks before it are
listed latest first. -/
def isBlocked (marks : List Char) (c : Char) : Bool :=
  match marks with
  | m :: _ => classOf c ≤ classOf m
  | [] => false

/-- Composes a text after a starter and the marks behind it that did not combine, latest first. -/
def composeAfter (starter : Option Char) (marks : List Char) : List Char → List Char
  | [] => starter.toList ++ marks.reverse
  | c :: rest =>
    let joined := if isBlocked marks c then none else starter.bind (compose? · c)
    match joined with
    | some j => composeAfter (some j) marks rest
    | none =>
      if classOf c = 0 then starter.toList ++ marks.reverse ++ composeAfter (some c) [] rest
      else composeAfter starter (c :: marks) rest

def compose (s : List Char) : List Char := composeAfter none [] s

end Normal

inductive NormalForm
  | preserve
  | nfc
  | nfd
  | nfkc
  | nfkd
  deriving DecidableEq, Repr

namespace NormalForm

def apply : NormalForm → List Char → List Char
  | preserve, s => s
  | nfd, s => Normal.reorder (s.flatMap (Normal.decompose false))
  | nfkd, s => Normal.reorder (s.flatMap (Normal.decompose true))
  | nfc, s => Normal.compose (Normal.reorder (s.flatMap (Normal.decompose false)))
  | nfkc, s => Normal.compose (Normal.reorder (s.flatMap (Normal.decompose true)))

/-- Whether a text is already in the form. -/
def holds (f : NormalForm) (s : List Char) : Bool := f.apply s == s

def name : NormalForm → String
  | preserve => "Preserve"
  | nfc => "Nfc"
  | nfd => "Nfd"
  | nfkc => "Nfkc"
  | nfkd => "Nfkd"

end NormalForm

end TextTypes.Unicode
