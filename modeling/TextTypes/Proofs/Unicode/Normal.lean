import Mathlib.Data.List.SplitBy
import Mathlib.Tactic.Common
import TextTypes.Proofs.Bisect
import TextTypes.Unicode.Blank
import TextTypes.Unicode.Normal

/-!
Composing a text leaves something to see.

The decomposition of a character that is no white space has such a character in it, reordering
drops nothing, and two characters never combine to white space. So a text that is blank in its
composed form was blank before.
-/

namespace TextTypes.Unicode

/-- Whether a number lies in a stretch of characters without white space. -/
def nonblank (n : Nat) : Bool :=
  (Nat.ble 0xA1 n && Nat.ble n 0x167F) || (Nat.ble 0x21 n && Nat.ble n 0x7E) ||
    (Nat.ble 0x1681 n && Nat.ble n 0x1FFF) || (Nat.ble 0x2060 n && Nat.ble n 0x2FFF) ||
    (Nat.ble 0x3001 n && Nat.ble n 0xD7FF) || (Nat.ble 0xE000 n && Nat.ble n 0x10FFFF)

lemma exists_scalar?_of_nonblank {n : Nat} (h : nonblank n = true) :
    ∃ c, CodePoint.scalar? n = some c ∧ isBlank c = false := by
  simp only [nonblank, Bool.or_eq_true, Bool.and_eq_true, Nat.ble_eq] at h
  have hvalid : n.isValidChar := by
    unfold Nat.isValidChar
    omega
  refine ⟨Char.ofNat n, if_pos hvalid, ?_⟩
  have hn : (Char.ofNat n).toNat = n := CodePoint.toNat_of_scalar? (if_pos hvalid)
  rw [← Bool.not_eq_true]
  simp only [isBlank, hn, Bool.or_eq_true, Bool.and_eq_true, decide_eq_true_eq, beq_iff_eq]
  omega

lemma exists_mem_scalars {ns : List Nat} {n : Nat} (hn : n ∈ ns) (h : nonblank n = true) :
    ∃ c ∈ CodePoint.scalars ns, isBlank c = false := by
  obtain ⟨c, hc, hblank⟩ := exists_scalar?_of_nonblank h
  exact ⟨c, List.mem_filterMap.mpr ⟨n, hn, hc⟩, hblank⟩

namespace Normal

/-! ### Decomposition -/

/-- The characters that decompose to white space: the wide spaces. -/
def isWideSpace (n : Nat) : Bool := Nat.beq n 0x2000 || Nat.beq n 0x2001

/-- Reads one entry. The state tells whether the last marked entry is a wide space or has a visible
entry behind it; it is lost when the next marked entry comes before that. -/
def look (state : Option Bool) (e : Nat) : Option Bool :=
  state.bind fun seen =>
    bif Nat.ble Packed.mark e then bif seen then some (isWideSpace (e - Packed.mark)) else none
    else some (seen || nonblank e)

/-- Reads rows, one after the other, and tells whether the state is never lost. -/
def showing : (seen : Bool) → List Nat → Bool
  | seen, [] => seen
  | seen, row :: rest =>
    match (Packed.entries 24 12 [row]).foldl look (some seen) with
    | some seen => showing seen rest
    | none => false

lemma showing_canonical : showing true NormalData.canonical = true := by decide +kernel

lemma foldl_look_of_showing {seen : Bool} {rows : List Nat} (h : showing seen rows = true) :
    (Packed.entries 24 12 rows).foldl look (some seen) = some true := by
  induction rows generalizing seen with
  | nil => exact congrArg some h
  | cons row rest ih =>
    have hentries : Packed.entries 24 12 (row :: rest) =
        Packed.entries 24 12 [row] ++ Packed.entries 24 12 rest := by
      simp [Packed.entries]
    unfold showing at h
    rw [hentries, List.foldl_append]
    split at h
    next seen' hrow => rw [hrow, ih h]
    · cases h

lemma foldl_look_none (es : List Nat) : es.foldl look none = none := by
  induction es with
  | nil => rfl
  | cons e rest ih => exact ih

/-- A state that is never lost has seen something behind every marked entry. -/
lemma visible_splitMarked {seen : Bool} {es : List Nat}
    (h : es.foldl look (some seen) = some true) :
    (seen = true ∨ ∃ n ∈ (Packed.splitMarked es).1, nonblank n = true) ∧
      ∀ g ∈ (Packed.splitMarked es).2, isWideSpace g.1 = true ∨ ∃ n ∈ g.2, nonblank n = true := by
  induction es generalizing seen with
  | nil => exact ⟨.inl (Option.some.inj h), by simp [Packed.splitMarked]⟩
  | cons e rest ih =>
    rw [List.foldl_cons] at h
    unfold Packed.splitMarked
    by_cases hmark : e < Packed.mark
    · have hlook : look (some seen) e = some (seen || nonblank e) := by
        have hble : Nat.ble Packed.mark e = false := by
          rw [← Bool.not_eq_true, Nat.ble_eq]
          omega
        simp only [look, Option.bind_some, hble, cond_false]
      rw [hlook] at h
      obtain ⟨hfront, hgroups⟩ := ih h
      simp only [hmark, if_true]
      refine ⟨?_, hgroups⟩
      rw [Bool.or_eq_true] at hfront
      rcases hfront with (hseen | he) | ⟨n, hn, hshown⟩
      · exact .inl hseen
      · exact .inr ⟨e, List.mem_cons_self, he⟩
      · exact .inr ⟨n, List.mem_cons_of_mem e hn, hshown⟩
    · have hble : Nat.ble Packed.mark e = true := Nat.ble_eq.mpr (by omega)
      rcases seen with _ | _
      · have hlook : look (some false) e = none := by
          simp only [look, Option.bind_some, hble, cond_true, cond_false]
        rw [hlook, foldl_look_none] at h
        cases h
      · have hlook : look (some true) e = some (isWideSpace (e - Packed.mark)) := by
          simp only [look, Option.bind_some, hble, cond_true]
        rw [hlook] at h
        obtain ⟨hfront, hgroups⟩ := ih h
        simp only [hmark, if_false]
        exact ⟨.inl trivial, List.forall_mem_cons.mpr ⟨hfront, hgroups⟩⟩

/-- A syllable opens with a leading consonant. -/
lemma exists_nonblank_hangul {n : Nat} (h : Hangul.isSyllable n = true) :
    ∃ m ∈ Hangul.decompose n, nonblank m = true := by
  simp only [Hangul.isSyllable, Bool.and_eq_true, decide_eq_true_eq] at h
  simp only [Hangul.sBase, Hangul.sCount, Hangul.lCount, Hangul.vCount, Hangul.tCount] at h
  refine ⟨Hangul.lBase + (n - Hangul.sBase) / (Hangul.vCount * Hangul.tCount), ?_, ?_⟩
  · unfold Hangul.decompose
    simp only
    split <;> simp
  · simp only [nonblank, Hangul.sBase, Hangul.lBase, Hangul.vCount, Hangul.tCount,
      Bool.or_eq_true, Bool.and_eq_true, Nat.ble_eq]
    omega

/-- A character of the table has a visible one in its decomposition, unless it is a wide space. -/
lemma visible_of_mem_canonical {entry : Nat × List Nat} (h : entry ∈ canonical.toList) :
    isWideSpace entry.1 = true ∨ ∃ n ∈ entry.2, nonblank n = true := by
  rw [canonical, List.toList_toArray, Packed.groups] at h
  exact (visible_splitMarked (foldl_look_of_showing showing_canonical)).2 entry h

lemma isBlank_of_isWideSpace {c : Char} (h : isWideSpace c.toNat = true) : isBlank c = true := by
  simp only [isWideSpace, Bool.or_eq_true, Nat.beq_eq] at h
  simp only [isBlank, Bool.or_eq_true, Bool.and_eq_true, decide_eq_true_eq, beq_iff_eq]
  omega

lemma exists_nonblank_decompose {c : Char} (h : isBlank c = false) :
    ∃ d ∈ decompose false c, isBlank d = false := by
  unfold decompose
  dsimp only
  rw [if_neg Bool.false_ne_true]
  split
  · exact ⟨c, List.mem_singleton_self c, h⟩
  split
  next hsyllable =>
    obtain ⟨m, hm, hshown⟩ := exists_nonblank_hangul hsyllable
    exact exists_mem_scalars hm hshown
  rcases hfind : Bisect.find? canonical fun entry => compare c.toNat entry.1 with _ | entry
  · exact ⟨c, List.mem_singleton_self c, h⟩
  · obtain ⟨hmem, hside⟩ := Bisect.mem_of_find? hfind
    have hn : entry.1 = c.toNat := (Nat.compare_eq_eq.mp hside).symm
    rcases visible_of_mem_canonical hmem with hwide | ⟨m, hm, hshown⟩
    · rw [hn] at hwide
      rw [isBlank_of_isWideSpace hwide] at h
      cases h
    · exact exists_mem_scalars hm hshown

lemma mem_reorder {s : List Char} {c : Char} : c ∈ reorder s ↔ c ∈ s := by
  rw [reorder, List.mem_flatMap]
  simp only [List.mem_mergeSort]
  rw [← List.mem_flatten, List.flatten_splitBy]

/-! ### Composition -/

/-- Whether the third of every three entries is visible. -/
def thirdsShowing : List Nat → Bool
  | _ :: _ :: n :: rest => nonblank n && thirdsShowing rest
  | _ => true

lemma thirdsShowing_composites :
    thirdsShowing (Packed.entries 24 12 NormalData.composites) = true := by
  decide +kernel

lemma nonblank_of_mem_triples {es : List Nat} (h : thirdsShowing es = true)
    {x : Nat × Nat × Nat} (hx : x ∈ Packed.triples es) : nonblank x.2.2 = true := by
  induction es using Packed.triples.induct with
  | case1 a b n rest ih =>
    rw [thirdsShowing, Bool.and_eq_true] at h
    rcases List.mem_cons.mp hx with rfl | hx
    · exact h.1
    · exact ih h.2 hx
  | case2 es hshort =>
    unfold Packed.triples at hx
    split at hx
    next a b n rest => exact absurd rfl (hshort a b n rest)
    · cases hx

lemma isBlank_of_scalar? {n : Nat} {j : Char} (h : nonblank n = true)
    (hj : CodePoint.scalar? n = some j) : isBlank j = false := by
  obtain ⟨c, hc, hblank⟩ := exists_scalar?_of_nonblank h
  obtain rfl := Option.some.inj (hc.symm.trans hj)
  exact hblank

lemma nonblank_of_hangul {a b n : Nat} (h : Hangul.compose? a b = some n) :
    nonblank n = true := by
  unfold Hangul.compose? at h
  simp only [nonblank, Bool.or_eq_true, Bool.and_eq_true, Nat.ble_eq]
  split at h
  next hfront =>
    have hn := Option.some.inj h
    simp only [Bool.and_eq_true, decide_eq_true_eq] at hfront
    simp only [Hangul.sBase, Hangul.lBase, Hangul.vBase, Hangul.lCount, Hangul.vCount,
      Hangul.tCount] at hfront hn
    omega
  split at h
  next hback =>
    have hn := Option.some.inj h
    simp only [Hangul.isSyllable, Bool.and_eq_true, decide_eq_true_eq] at hback
    simp only [Hangul.sBase, Hangul.sCount, Hangul.tBase, Hangul.lCount, Hangul.vCount,
      Hangul.tCount] at hback hn
    omega
  · cases h

/-- **What two characters combine to is no white space.** -/
theorem isBlank_of_compose? {a b j : Char} (h : compose? a b = some j) : isBlank j = false := by
  unfold compose? at h
  split at h
  · cases h
  split at h
  next n hhangul => exact isBlank_of_scalar? (nonblank_of_hangul hhangul) h
  · simp only at h
    split at h
    next x y n hfind =>
      have hmem := (Bisect.mem_of_find? hfind).1
      rw [composites, List.toList_toArray] at hmem
      exact isBlank_of_scalar? (nonblank_of_mem_triples thirdsShowing_composites hmem) h
    · cases h

/-- Something visible in front or ahead is still there in the end, if only as a part. -/
lemma exists_nonblank_composeAfter {starter : Option Char} {marks s : List Char} {c : Char}
    (hmem : c ∈ starter.toList ++ marks ++ s) (h : isBlank c = false) :
    ∃ d ∈ composeAfter starter marks s, isBlank d = false := by
  induction s generalizing starter marks c with
  | nil =>
    refine ⟨c, ?_, h⟩
    simpa [composeAfter] using hmem
  | cons e rest ih =>
    unfold composeAfter
    simp only
    split
    next j hjoined =>
      have hj : isBlank j = false := by
        split at hjoined
        · cases hjoined
        · obtain ⟨a, -, hcompose⟩ := Option.bind_eq_some_iff.mp hjoined
          exact isBlank_of_compose? hcompose
      exact ih (c := j) (by simp) hj
    next =>
      split
      · rw [List.mem_append, List.mem_cons] at hmem
        rcases hmem with hfront | rfl | hrest
        · exact ⟨c, List.mem_append_left _ (by simpa using hfront), h⟩
        · obtain ⟨d, hd, hblank⟩ := @ih (some c) [] c (by simp) h
          exact ⟨d, List.mem_append_right _ hd, hblank⟩
        · obtain ⟨d, hd, hblank⟩ := @ih (some e) [] c (by simp [hrest]) h
          exact ⟨d, List.mem_append_right _ hd, hblank⟩
      · refine ih (c := c) ?_ h
        simp only [List.mem_append, List.mem_cons] at hmem ⊢
        tauto

end Normal

/-- **A text that is blank in its composed form was blank before.** -/
theorem NormalForm.all_isBlank_of_nfc {s : List Char} (h : (nfc.apply s).all isBlank = true) :
    s.all isBlank = true := by
  by_contra hs
  obtain ⟨c, hc, hblank⟩ : ∃ c ∈ s, isBlank c = false := by
    simpa [List.all_eq_true] using hs
  obtain ⟨d, hd, hdblank⟩ := Normal.exists_nonblank_decompose hblank
  have hreordered : d ∈ Normal.reorder (s.flatMap (Normal.decompose false)) :=
    Normal.mem_reorder.mpr (List.mem_flatMap.mpr ⟨c, hc, hd⟩)
  have hfront : d ∈ Option.toList none ++ [] ++
      Normal.reorder (s.flatMap (Normal.decompose false)) := by
    simpa using hreordered
  obtain ⟨e, he, heblank⟩ := Normal.exists_nonblank_composeAfter hfront hdblank
  rw [List.all_eq_true.mp h e he] at heblank
  cases heblank

end TextTypes.Unicode
