import Mathlib.Data.List.DropRight
import Mathlib.Tactic.Common
import TextTypes.Unicode.Blank

/-!
Trimming.

A trimmed text has no white space at its ends, and only white space has been taken off it. A
visible stretch at the front of a text stays there. A text that is visible at both ends is all that
is left of it between any white space.
-/

namespace TextTypes.Unicode

variable {s u : List Char}

lemma trimEnd_eq_rdropWhile (s : List Char) : trimEnd s = s.rdropWhile isBlank := rfl

/-! ### What trimming takes away -/

/-- Only white space is trimmed off. -/
lemma exists_eq_append_trim (s : List Char) :
    ∃ front back, s = front ++ trim s ++ back ∧ (∀ c ∈ front, isBlank c = true) ∧
      ∀ c ∈ back, isBlank c = true := by
  refine ⟨s.takeWhile isBlank, (trimStart s).rtakeWhile isBlank, ?_, ?_, ?_⟩
  · rw [trim, trimEnd_eq_rdropWhile, List.append_assoc, List.rdropWhile_append_rtakeWhile,
      trimStart, List.takeWhile_append_dropWhile]
  · exact fun c hc => List.mem_takeWhile_imp hc
  · exact fun c hc => List.mem_rtakeWhile_imp hc

lemma trim_of_blank (h : ∀ c ∈ s, isBlank c = true) : trim s = [] := by
  rw [trim, trimStart, List.dropWhile_eq_nil_iff.mpr h]
  rfl

lemma isBlank_head_trim : ∀ c ∈ (trim s).head?, isBlank c = false := by
  intro c hc
  have hstart := List.head?_dropWhile_not isBlank s
  obtain ⟨back, hback⟩ : trim s <+: s.dropWhile isBlank := List.rdropWhile_prefix isBlank _
  rw [← hback, List.head?_append, Option.mem_def.mp hc] at hstart
  exact hstart

lemma isBlank_getLast_trim : ∀ c ∈ (trim s).getLast?, isBlank c = false := by
  intro c hc
  obtain ⟨hne, rfl⟩ := List.mem_getLast?_eq_getLast hc
  rw [← Bool.not_eq_true]
  exact List.rdropWhile_last_not isBlank (trimStart s) hne

/-! ### What holds it up -/

lemma trimEnd_append (h : ∀ c ∈ s, isBlank c = false) : trimEnd (s ++ u) = s ++ trimEnd u := by
  simp only [trimEnd_eq_rdropWhile]
  induction u using List.reverseRecOn with
  | nil =>
    rw [List.append_nil, List.rdropWhile_nil, List.append_nil, List.rdropWhile_eq_self_iff]
    intro hne
    simp [h _ (List.getLast_mem hne)]
  | append_singleton u c ih =>
    rw [← List.append_assoc, List.rdropWhile_concat, List.rdropWhile_concat, ih]
    split
    · rfl
    · rw [List.append_assoc]

lemma trim_append (h : ∀ c ∈ s, isBlank c = false) (hne : s ≠ []) :
    trim (s ++ u) = s ++ trimEnd u := by
  have hstart : trimStart (s ++ u) = s ++ u := by
    obtain ⟨c, rest, rfl⟩ := List.exists_cons_of_ne_nil hne
    exact List.dropWhile_cons_of_neg (by simp [h c List.mem_cons_self])
  rw [trim, hstart, trimEnd_append h]

/-! ### Where it stands -/

/-- A text that is visible at both ends is what trimming leaves of it between white space. -/
lemma trim_append_append {front back : List Char} (hfront : ∀ c ∈ front, isBlank c = true)
    (hback : ∀ c ∈ back, isBlank c = true) (hne : s ≠ []) (hhead : ∀ c ∈ s.head?, isBlank c = false)
    (hlast : ∀ c ∈ s.getLast?, isBlank c = false) :
    margin (front ++ s ++ back) = front.length ∧ trim (front ++ s ++ back) = s := by
  obtain ⟨c, rest, rfl⟩ := List.exists_cons_of_ne_nil hne
  have hc : isBlank c = false := hhead c rfl
  have hstart : trimStart (front ++ (c :: rest) ++ back) = (c :: rest) ++ back := by
    rw [trimStart, List.append_assoc, List.dropWhile_append_of_pos hfront]
    exact List.dropWhile_cons_of_neg (by simp [hc])
  constructor
  · rw [margin, List.append_assoc, List.takeWhile_append_of_pos hfront, List.cons_append,
      List.takeWhile_cons_of_neg (by simp [hc]), List.append_nil]
  · have hreverse : ∀ d ∈ back.reverse, isBlank d = true := fun d hd =>
      hback d (List.mem_reverse.mp hd)
    rw [trim, hstart, trimEnd, List.reverse_append, List.dropWhile_append_of_pos hreverse]
    refine List.rdropWhile_eq_self_iff.mpr fun h => ?_
    rw [hlast _ (List.getLast_mem_getLast? h)]
    exact Bool.false_ne_true

lemma trim_eq_self (hhead : ∀ c ∈ s.head?, isBlank c = false)
    (hlast : ∀ c ∈ s.getLast?, isBlank c = false) : trim s = s := by
  rcases eq_or_ne s [] with rfl | hne
  · rfl
  · have h := (trim_append_append (List.forall_mem_nil _) (List.forall_mem_nil _) hne hhead hlast).2
    rwa [List.nil_append, List.append_nil] at h

lemma trim_ne_nil (h : s.all isBlank = false) : trim s ≠ [] := by
  intro hnil
  obtain ⟨front, back, hs, hfront, hback⟩ := exists_eq_append_trim s
  rw [hnil, List.append_nil] at hs
  rw [hs, List.all_eq_true.mpr (List.forall_mem_append.mpr ⟨hfront, hback⟩)] at h
  cases h

/-- What is left of a text stands behind its margin. -/
lemma exists_eq_margin_append_trim (h : s.all isBlank = false) :
    ∃ front back, s = front ++ trim s ++ back ∧ front.length = margin s ∧
      (∀ c ∈ front, isBlank c = true) ∧ ∀ c ∈ back, isBlank c = true := by
  obtain ⟨front, back, hs, hfront, hback⟩ := exists_eq_append_trim s
  have hmargin := (trim_append_append hfront hback (trim_ne_nil h) isBlank_head_trim
    isBlank_getLast_trim).1
  rw [← hs] at hmargin
  exact ⟨front, back, hs, hmargin.symm, hfront, hback⟩

/-- White space around a text moves what is left of it, and nothing else. -/
lemma trim_surround {before after : List Char} (hbefore : ∀ c ∈ before, isBlank c = true)
    (hafter : ∀ c ∈ after, isBlank c = true) (h : s.all isBlank = false) :
    margin (before ++ s ++ after) = margin s + before.length ∧
      trim (before ++ s ++ after) = trim s := by
  obtain ⟨front, back, hs, hmargin, hfront, hback⟩ := exists_eq_margin_append_trim h
  have hsplit : before ++ s ++ after = before ++ front ++ trim s ++ (back ++ after) := by
    conv_lhs => rw [hs]
    simp only [List.append_assoc]
  have houter := trim_append_append (List.forall_mem_append.mpr ⟨hbefore, hfront⟩)
    (List.forall_mem_append.mpr ⟨hback, hafter⟩) (trim_ne_nil h) isBlank_head_trim
    isBlank_getLast_trim
  rw [hsplit, houter.1, houter.2, List.length_append, hmargin, Nat.add_comm]
  exact ⟨rfl, rfl⟩

lemma getElem?_margin_add {k : Nat} (hk : k < (trim s).length) :
    s[margin s + k]? = (trim s)[k]? := by
  have h : s.all isBlank = false := by
    rw [← Bool.not_eq_true, List.all_eq_true]
    intro hblank
    rw [trim_of_blank hblank] at hk
    cases hk
  obtain ⟨front, back, hs, hmargin, -, -⟩ := exists_eq_margin_append_trim h
  rw [← hmargin]
  conv_lhs => rw [hs]
  rw [List.append_assoc, List.getElem?_append_right (Nat.le_add_right _ _),
    Nat.add_sub_cancel_left, List.getElem?_append_left hk]

/-- Whatever is visible is left. -/
lemma exists_getElem?_trim {i : Nat} {c : Char} (hi : s[i]? = some c) (hc : isBlank c = false) :
    ∃ k, i = margin s + k ∧ (trim s)[k]? = some c := by
  have h : s.all isBlank = false := List.all_eq_false.mpr ⟨c, List.mem_of_getElem? hi, by simp [hc]⟩
  obtain ⟨front, back, hs, hmargin, hfront, hback⟩ := exists_eq_margin_append_trim h
  have hle : front.length ≤ i := by
    by_contra hlt
    rw [hs, List.append_assoc, List.getElem?_append_left (by omega)] at hi
    rw [hfront c (List.mem_of_getElem? hi)] at hc
    cases hc
  have hlt : i - front.length < (trim s).length := by
    by_contra hge
    rw [hs, List.append_assoc, List.getElem?_append_right hle,
      List.getElem?_append_right (by omega)] at hi
    rw [hback c (List.mem_of_getElem? hi)] at hc
    cases hc
  refine ⟨i - front.length, by omega, ?_⟩
  rwa [← getElem?_margin_add hlt, ← hmargin, Nat.add_sub_cancel' hle]

end TextTypes.Unicode
