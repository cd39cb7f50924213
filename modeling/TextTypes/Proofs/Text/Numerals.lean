import Mathlib.Tactic.Common
import TextTypes.Text.Hex

/-!
Numerals are read back.

A numeral has digits only, and so ends at the first other character. In hexadecimal it may have
zeros in front; they do not change the number, so a numeral of any width has only one.
-/

namespace TextTypes.Text

/-! ### Decimal numerals -/

lemma isDigit_of_mem_toString {n : Nat} {c : Char} (h : c ∈ (toString n).toList) :
    c.isDigit = true := by
  rw [Nat.toString_eq_repr, Nat.toList_repr] at h
  exact Nat.isDigit_of_mem_toDigits (by decide) (by decide) h

lemma toList_toString_ne_nil (n : Nat) : (toString n).toList ≠ [] := by
  rw [Nat.toString_eq_repr, Nat.toList_repr]
  exact Nat.toDigits_ne_nil

lemma toString_inj {m n : Nat} (h : toString m = toString n) : m = n := by
  have hdigits := congrArg String.toList h
  rw [Nat.toString_eq_repr, Nat.toString_eq_repr, Nat.toList_repr, Nat.toList_repr] at hdigits
  rw [← Nat.ofDigitChars_ten_toDigits (n := m), hdigits, Nat.ofDigitChars_ten_toDigits]

/-! ### Hexadecimal numerals -/

/-- The digits in the order of their values. -/
def hexDigits : List Char :=
  ['0', '1', '2', '3', '4', '5', '6', '7', '8', '9', 'a', 'b', 'c', 'd', 'e', 'f']

/-- The number of a numeral. -/
def ofHex (s : List Char) : Nat := s.foldl (fun n c => 16 * n + hexDigits.idxOf c) 0

lemma digitChar_mem {d : Nat} (hd : d < 16) : d.digitChar ∈ hexDigits := by
  revert d
  decide

lemma idxOf_digitChar {d : Nat} (hd : d < 16) : hexDigits.idxOf d.digitChar = d := by
  revert d
  decide

lemma mem_hexDigits_of_mem_toDigits {n : Nat} {c : Char} (h : c ∈ Nat.toDigits 16 n) :
    c ∈ hexDigits := by
  induction n using Nat.strongRecOn with
  | ind n ih =>
    rw [Nat.toDigits_eq_if (by decide)] at h
    split at h
    next hlt =>
      rw [List.mem_singleton.mp h]
      exact digitChar_mem hlt
    next hge =>
      rcases List.mem_append.mp h with h | h
      · exact ih (n / 16) (Nat.div_lt_self (by omega) (by decide)) h
      · rw [List.mem_singleton.mp h]
        exact digitChar_mem (Nat.mod_lt n (by decide))

lemma ofHex_append (s : List Char) (c : Char) :
    ofHex (s ++ [c]) = 16 * ofHex s + hexDigits.idxOf c := by
  simp [ofHex]

lemma ofHex_toDigits (n : Nat) : ofHex (Nat.toDigits 16 n) = n := by
  induction n using Nat.strongRecOn with
  | ind n ih =>
    rw [Nat.toDigits_eq_if (by decide)]
    split
    next hlt => simp [ofHex, idxOf_digitChar hlt]
    next hge =>
      rw [ofHex_append, ih (n / 16) (Nat.div_lt_self (by omega) (by decide)),
        idxOf_digitChar (Nat.mod_lt n (by decide))]
      omega

lemma ofHex_padded (k : Nat) (s : List Char) : ofHex (List.replicate k '0' ++ s) = ofHex s := by
  induction k with
  | zero => rfl
  | succ k ih => exact ih

lemma toList_padLeft (width : Nat) (s : String) :
    (padLeft width s).toList = List.replicate (width - s.length) '0' ++ s.toList := by
  rw [padLeft, String.toList_append, String.toList_ofList]

lemma ofHex_hex (width n : Nat) : ofHex (hex width n).toList = n := by
  rw [hex, toList_padLeft, ofHex_padded, String.toList_ofList, ofHex_toDigits]

/-- **A numeral has one number**, whatever its width. -/
theorem hex_inj {width width' m n : Nat} (h : hex width m = hex width' n) : m = n := by
  rw [← ofHex_hex width m, h, ofHex_hex]

lemma mem_padLeft {width : Nat} {s : String} {c : Char} (h : c ∈ (padLeft width s).toList) :
    c = '0' ∨ c ∈ s.toList := by
  rw [toList_padLeft] at h
  exact (List.mem_append.mp h).imp_left List.eq_of_mem_replicate

lemma mem_hex {width n : Nat} {c : Char} (h : c ∈ (hex width n).toList) : c ∈ hexDigits := by
  rcases mem_padLeft h with rfl | h
  · decide
  · rw [String.toList_ofList] at h
    exact mem_hexDigits_of_mem_toDigits h

lemma mem_upperHex {width n : Nat} {c : Char} (h : c ∈ (upperHex width n).toList) :
    c ∈ hexDigits.map Char.toUpper := by
  rcases mem_padLeft h with rfl | h
  · decide
  · rw [String.toList_ofList] at h
    obtain ⟨d, hd, rfl⟩ := List.mem_map.mp h
    exact List.mem_map_of_mem (mem_hexDigits_of_mem_toDigits hd)

lemma toList_hex_ne_nil (width n : Nat) : (hex width n).toList ≠ [] := by
  rw [hex, toList_padLeft, String.toList_ofList]
  exact List.append_ne_nil_of_right_ne_nil _ Nat.toDigits_ne_nil

end TextTypes.Text
