import Mathlib.Data.Nat.Bitwise
import TextTypes.Pattern.Places

/-!
The members of sets of positions.
-/

namespace TextTypes.Pattern.Places

variable {s t : Places} {i n : Nat}

lemma mem_iff : i ∈ s ↔ s.bits.testBit i = true := Iff.rfl

@[simp] lemma not_mem_none : i ∉ none := by simp [mem_iff, none]

@[simp] lemma mem_only : i ∈ only n ↔ i = n := by
  rw [mem_iff, only, Nat.one_shiftLeft, Nat.testBit_two_pow, decide_eq_true_iff]
  exact eq_comm

@[simp] lemma mem_union : i ∈ s.union t ↔ i ∈ s ∨ i ∈ t := by simp [mem_iff, union]

@[simp] lemma mem_inter : i ∈ s.inter t ↔ i ∈ s ∧ i ∈ t := by simp [mem_iff, inter]

@[simp] lemma mem_minus : i ∈ s.minus t ↔ i ∈ s ∧ i ∉ t := by
  simp only [mem_iff, minus, Nat.testBit_xor, Nat.testBit_or]
  cases s.bits.testBit i <;> cases t.bits.testBit i <;> decide

@[simp] lemma mem_next : i ∈ s.next ↔ ∃ k ∈ s, i = k + 1 := by
  cases i with
  | zero => simp [mem_iff, next]
  | succ k => simp [mem_iff, next]

lemma isEmpty_eq_false : s.isEmpty = false ↔ ∃ i, i ∈ s := by
  rw [isEmpty, beq_eq_false_iff_ne]
  exact ⟨Nat.exists_testBit_of_ne_zero, fun ⟨i, hi⟩ h => by simp [mem_iff, h] at hi⟩

lemma mem_ofText {α : Type} {test : α → Bool} {text : List α} :
    i ∈ ofText test text ↔ ∃ letter, text[i]? = some letter ∧ test letter = true := by
  induction text generalizing i with
  | nil => simp [mem_iff, ofText]
  | cons a text ih =>
    -- the first letter stands in the lowest bit, all others one bit further up
    have bits : (ofText test (a :: text)).bits =
        Nat.bit (test a) (ofText test text).bits := by
      rw [Nat.bit_val]
      rfl
    cases i with
    | zero => simp [mem_iff, bits]
    | succ i =>
      rw [mem_iff, bits, Nat.testBit_bit_succ, ← mem_iff, ih, List.getElem?_cons_succ]

end TextTypes.Pattern.Places
