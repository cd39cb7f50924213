import TextTypes.CodePoint
import TextTypes.Range.Span

/-!
Code points as bytes.

A code point below 0x80 is one byte. A longer form has a lead byte, whose mark tells the
length, and six bits in each byte behind it, which is marked 0x80. A span of code points is
covered by rows of byte spans: the code points of a row are those with one byte of each span.
-/

namespace TextTypes.Text.Utf8

open TextTypes.Range

/-- The forms by length: the code points that have the form, the mark of its lead byte and how
many bytes stand behind the lead. No surrogate has a form. -/
def forms : List (Span × Nat × Nat) :=
  [(⟨0, 0x7F, by omega⟩, 0, 0), (⟨0x80, 0x7FF, by omega⟩, 0xC0, 1),
    (⟨0x800, 0xD7FF, by omega⟩, 0xE0, 2), (⟨0xE000, 0xFFFF, by omega⟩, 0xE0, 2),
    (⟨0x10000, 0x10FFFF, by omega⟩, 0xF0, 3)]

/-- `n` with `more` bytes behind its lead. -/
def digits : (more : Nat) → (mark n : Nat) → List Nat
  | 0, mark, n => [mark + n]
  | more + 1, mark, n =>
    (mark + n / 64 ^ (more + 1)) :: digits more 0x80 (n % 64 ^ (more + 1))

/-- The bytes of a character. -/
def bytes (c : Char) : List Nat :=
  match forms.find? (·.1.contains c.toNat) with
  | some (_, mark, more) => digits more mark c.toNat
  | none => []

/-- The first and the last of a span of bytes. -/
abbrev ByteSpan := Nat × Nat

/-- The rows for all numbers from `lo` to `hi` with `more` bytes behind the lead, ascending. The
numbers whose lead byte is only partly used stand in rows of their own. -/
def rowsBetween : (more : Nat) → (mark lo hi : Nat) → List (List ByteSpan)
  | 0, mark, lo, hi => [[(mark + lo, mark + hi)]]
  | more + 1, mark, lo, hi =>
    let unit := 64 ^ (more + 1)
    let under (lead lo hi : Nat) : List (List ByteSpan) :=
      (rowsBetween more 0x80 lo hi).map ((mark + lead, mark + lead) :: ·)
    let first := lo / unit
    let last := hi / unit
    if first = last then under first (lo % unit) (hi % unit)
    else
      let wholeFirst := lo % unit = 0
      let wholeLast := hi % unit = unit - 1
      let a := if wholeFirst then first else first + 1
      let b := if wholeLast then last else last - 1
      (if wholeFirst then [] else under first (lo % unit) (unit - 1)) ++
        (if a ≤ b then [(mark + a, mark + b) :: List.replicate (more + 1) (0x80, 0xBF)]
          else []) ++
        (if wholeLast then [] else under last 0 (hi % unit))

/-- The rows that cover a span, ascending. -/
def rows (s : Span) : List (List ByteSpan) :=
  forms.flatMap fun (form, mark, more) =>
    match s.clip form.lo form.hi with
    | some part => rowsBetween more mark part.lo part.hi
    | none => []

end TextTypes.Text.Utf8
