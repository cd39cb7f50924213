import TextTypes.Proofs.Conversion.Tiling
import TextTypes.Proofs.Unicode.Blank
import TextTypes.TextType.Basic

/-!
The places of a text.

A reading sees a text between its first and its last visible character. There, each character either
stays in place or belongs to a source that is replaced, and every visible character is there.
-/

namespace TextTypes.TextType

open TextTypes.Unicode

variable {t : TextType} {text : List Char}

/-- A place from the first visible character of a text to its last. -/
structure Inside (text : List Char) (i : Nat) : Prop where
  start : ∃ j ≤ i, ∃ c, text[j]? = some c ∧ isBlank c = false
  stop : ∃ j, i ≤ j ∧ ∃ c, text[j]? = some c ∧ isBlank c = false

/-- A source that covers a place of a text is replaced by `r`. -/
def ReplacedBy (t : TextType) (text : List Char) (i : Nat) (r : List Char) : Prop :=
  ∃ j source, .replaced j source r ∈ t.converter.pieces (trim text) ∧
    margin text + j ≤ i ∧ i < margin text + j + source.length

section Kept

variable {k : Nat} {c : Char} (h : .kept k c ∈ t.converter.pieces (trim text))

include h

lemma getElem?_trim_of_kept : (trim text)[k]? = some c := by
  obtain ⟨k', hk, hc⟩ := (Converter.tiles_pieces t.converter (trim text)).getElem?_of_kept h
  rwa [hk, Nat.zero_add]

lemma getElem?_of_kept : text[margin text + k]? = some c := by
  have hc := getElem?_trim_of_kept h
  obtain ⟨hlt, -⟩ := List.getElem?_eq_some_iff.mp hc
  rwa [getElem?_margin_add hlt]

lemma inside_of_kept : Inside text (margin text + k) := by
  obtain ⟨hlt, -⟩ := List.getElem?_eq_some_iff.mp (getElem?_trim_of_kept h)
  have hne : trim text ≠ [] := List.ne_nil_of_length_pos (by omega)
  refine ⟨⟨margin text + 0, by omega, (trim text).head hne, ?_, ?_⟩,
    ⟨margin text + ((trim text).length - 1), by omega, (trim text).getLast hne, ?_, ?_⟩⟩
  · rw [getElem?_margin_add (by omega), ← List.head?_eq_getElem?, List.head?_eq_some_head hne]
  · exact isBlank_head_trim _ (List.head?_eq_some_head hne)
  · rw [getElem?_margin_add (by omega), ← List.getLast?_eq_getElem?,
      List.getLast?_eq_some_getLast hne]
  · exact isBlank_getLast_trim _ (List.getLast?_eq_some_getLast hne)

/-- What stays in place belongs to no source that is replaced. -/
lemma not_replacedBy_of_kept {r : List Char} : ¬t.ReplacedBy text (margin text + k) r := by
  rintro ⟨j, source, hr, hle, hlt⟩
  have hsame := (Converter.tiles_pieces t.converter (trim text)).eq_of_spans h hr (i := k)
    ⟨Nat.le_refl k, Nat.lt_succ_self k⟩ ⟨by simp only [Converter.Piece.index]; omega, by
      simp only [Converter.Piece.index, Converter.Piece.source]; omega⟩
  cases hsame

end Kept

/-- A visible character stays in place, or it belongs to a source that is replaced. -/
lemma kept_or_replacedBy {i : Nat} {c : Char} (hi : text[i]? = some c) (hc : isBlank c = false) :
    (∃ k, i = margin text + k ∧ .kept k c ∈ t.converter.pieces (trim text)) ∨
      ∃ r, t.ReplacedBy text i r := by
  obtain ⟨k, rfl, hk⟩ := exists_getElem?_trim hi hc
  obtain ⟨hlt, -⟩ := List.getElem?_eq_some_iff.mp hk
  obtain ⟨p, hp, hle, hspans⟩ := (Converter.tiles_pieces t.converter (trim text)).exists_spans hlt
  rw [Nat.zero_add] at hle hspans
  cases p with
  | kept j d =>
    obtain rfl : j = k := Nat.le_antisymm hle (Nat.le_of_lt_succ hspans)
    obtain rfl : d = c := Option.some.inj ((getElem?_trim_of_kept hp).symm.trans hk)
    exact .inl ⟨j, rfl, hp⟩
  | replaced j source r =>
    simp only [Converter.Piece.index, Converter.Piece.source] at hle hspans
    exact .inr ⟨r, j, source, hp, by omega, by omega⟩

end TextTypes.TextType
