import Mathlib.Data.List.Pairwise
import TextTypes.Proofs.Range.Spans
import TextTypes.Unicode.CategoryRuns

/-!
The runs of the category table partition the code space.

So the spans of a category are exactly the code points of that category, and a mask of
categories speaks about code points one at a time.
-/

namespace TextTypes.Unicode

open TextTypes.Range

/-! ### Masks -/

namespace Category

lemma ordinal_lt (c : Category) : c.ordinal < 64 := by cases c <;> decide

lemma ofOrdinal?_ordinal (c : Category) : ofOrdinal? c.ordinal = some c := by cases c <;> rfl

lemma ordinal_inj {c d : Category} (h : c.ordinal = d.ordinal) : c = d := by
  rw [← Option.some_inj, ← ofOrdinal?_ordinal c, h, ofOrdinal?_ordinal]

lemma mem_all (c : Category) : c ∈ all := List.mem_of_getElem? (ofOrdinal?_ordinal c)

end Category

namespace CategoryMask

variable {mask mask' : CategoryMask} {c d : Category}

lemma not_has_zero (c : Category) : ¬(has 0#64 c = true) := by simp [has]

lemma has_or : has (mask ||| mask') c = true ↔ has mask c = true ∨ has mask' c = true := by
  simp [has]

lemma has_and_not :
    has (mask &&& ~~~mask') c = true ↔ has mask c = true ∧ ¬(has mask' c = true) := by
  simp [has, c.ordinal_lt]

lemma has_bit : has (bit c) d = true ↔ d = c := by
  unfold has bit
  rw [BitVec.getLsbD_shiftLeft, BitVec.getLsbD_one]
  simp only [d.ordinal_lt, Bool.and_eq_true, Bool.not_eq_true', decide_eq_true_eq,
    decide_eq_false_iff_not]
  constructor
  · rintro ⟨⟨-, hle⟩, -, heq⟩
    exact Category.ordinal_inj (by omega)
  · rintro rfl
    exact ⟨⟨trivial, Nat.lt_irrefl _⟩, by omega, Nat.sub_self _⟩

lemma has_ofList {cs : List Category} : has (ofList cs) c = true ↔ c ∈ cs := by
  have h : ∀ mask, has (cs.foldl (fun mask c => mask ||| bit c) mask) c = true ↔
      has mask c = true ∨ c ∈ cs := by
    induction cs with
    | nil => simp
    | cons d cs ih =>
      intro mask
      rw [List.foldl_cons, ih, has_or, has_bit, List.mem_cons, or_assoc]
  rw [ofList, h]
  simp [not_has_zero]

lemma mem_toList : c ∈ toList mask ↔ has mask c = true := by
  simp [toList, Category.mem_all]

end CategoryMask

/-! ### The table -/

namespace Run

/-- Whether an entry and those after it open runs of known categories, one behind the other. -/
def wellPlaced (e : Nat) : List Nat → Bool
  | [] => e / 32 ≤ CodePoint.last && e % 32 < 30
  | next :: rest => e / 32 < next / 32 && e % 32 < 30 && wellPlaced next rest

/-- Whether entries are well placed from the first code point on. -/
def partitions : List Nat → Bool
  | [] => false
  | e :: rest => e / 32 == 0 && wellPlaced e rest

lemma partitions_rows : partitions (Packed.entries 28 10 CategoryData.rows) = true := by
  decide +kernel

lemma exists_ofOrdinal? {n : Nat} (h : n < 30) : ∃ c, Category.ofOrdinal? n = some c :=
  Option.isSome_iff_exists.mp (by simpa [Category.ofOrdinal?, Category.all] using h)

lemma le_last_of_wellPlaced {e : Nat} {rest : List Nat} (h : wellPlaced e rest = true) :
    e / 32 ≤ CodePoint.last := by
  induction rest generalizing e with
  | nil =>
    simp only [wellPlaced, Bool.and_eq_true, decide_eq_true_eq] at h
    exact h.1
  | cons next rest ih =>
    simp only [wellPlaced, Bool.and_eq_true, decide_eq_true_eq] at h
    exact Nat.le_of_lt (Nat.lt_of_lt_of_le h.1.1 (ih h.2))

/-- Where the run in front of some entries ends. -/
def stopBefore : List Nat → Nat
  | [] => CodePoint.last
  | next :: _ => next / 32 - 1

lemma ofEntries_cons {e : Nat} {rest : List Nat} (h : wellPlaced e rest = true) :
    ∃ c hle, ofEntries (e :: rest) = ⟨⟨e / 32, stopBefore rest, hle⟩, c⟩ :: ofEntries rest := by
  have hle : e / 32 ≤ stopBefore rest ∧ e % 32 < 30 := by
    cases rest with
    | nil => simpa [wellPlaced, stopBefore] using h
    | cons next rest =>
      simp only [wellPlaced, Bool.and_eq_true, decide_eq_true_eq] at h
      exact ⟨Nat.le_sub_one_of_lt h.1.1, h.1.2⟩
  obtain ⟨c, hc⟩ := exists_ofOrdinal? hle.2
  refine ⟨c, hle.1, ?_⟩
  have hspan : Span.ofBounds? (e / 32) (stopBefore rest) = some ⟨_, _, hle.1⟩ := dif_pos hle.1
  cases rest with
  | nil =>
    unfold stopBefore at hspan
    simp only [ofEntries, hspan, hc]
    rfl
  | cons next rest =>
    unfold stopBefore at hspan
    rw [ofEntries]
    simp only [hspan, hc]
    rfl

/-- Well placed entries cover everything from the first one on, each code point once. -/
lemma partition_ofEntries {e : Nat} {rest : List Nat} (h : wellPlaced e rest = true) :
    Spans.Ascending ((ofEntries (e :: rest)).map span) ∧
      ∀ cp, Spans.Covers ((ofEntries (e :: rest)).map span) cp ↔
        e / 32 ≤ cp ∧ cp ≤ CodePoint.last := by
  induction rest generalizing e with
  | nil =>
    obtain ⟨c, hle, hcons⟩ := ofEntries_cons h
    rw [hcons]
    refine ⟨List.pairwise_singleton _ _, fun cp => ?_⟩
    simp [ofEntries, Span.mem_def, stopBefore]
  | cons next rest ih =>
    obtain ⟨c, hle, hcons⟩ := ofEntries_cons h
    simp only [wellPlaced, Bool.and_eq_true, decide_eq_true_eq] at h
    obtain ⟨⟨hlt, -⟩, hrest⟩ := h
    obtain ⟨hascending, hcovers⟩ := ih hrest
    have hlast := le_last_of_wellPlaced hrest
    rw [hcons, List.map_cons]
    refine ⟨List.pairwise_cons.mpr ⟨fun s hs => ?_, hascending⟩, fun cp => ?_⟩
    · have := ((hcovers s.lo).mp ⟨s, hs, s.lo_mem⟩).1
      simp only [stopBefore]
      omega
    · rw [Spans.covers_cons, hcovers, Span.mem_def]
      simp only [stopBefore]
      omega

lemma partition_of_partitions {es : List Nat} (h : partitions es = true) :
    Spans.Ascending ((ofEntries es).map span) ∧
      ∀ cp, Spans.Covers ((ofEntries es).map span) cp ↔ cp ≤ CodePoint.last := by
  cases es with
  | nil => cases h
  | cons e rest =>
    simp only [partitions, Bool.and_eq_true, beq_iff_eq] at h
    obtain ⟨hascending, hcovers⟩ := partition_ofEntries h.2
    refine ⟨hascending, fun cp => (hcovers cp).trans ?_⟩
    rw [h.1]
    exact and_iff_right (Nat.zero_le cp)

/-- **The runs partition the code space.** -/
theorem partition_all :
    Spans.Ascending (all.map span) ∧
      ∀ cp, Spans.Covers (all.map span) cp ↔ cp ≤ CodePoint.last :=
  partition_of_partitions partitions_rows

lemma exists_mem_span {cp : Nat} (h : cp ≤ CodePoint.last) : ∃ r ∈ all, cp ∈ r.span := by
  obtain ⟨s, hs, hcp⟩ := (partition_all.2 cp).mpr h
  obtain ⟨r, hr, rfl⟩ := List.mem_map.mp hs
  exact ⟨r, hr, hcp⟩

lemma le_last_of_mem_span {r : Run} (hr : r ∈ all) {cp : Nat} (h : cp ∈ r.span) :
    cp ≤ CodePoint.last :=
  (partition_all.2 cp).mp ⟨_, List.mem_map_of_mem hr, h⟩

section Ascending

variable {runs : List Run} {r r' : Run} {cp : Nat}

lemma eq_of_mem_span (hruns : Spans.Ascending (runs.map span)) (hr : r ∈ runs) (hr' : r' ∈ runs)
    (h : cp ∈ r.span) (h' : cp ∈ r'.span) : r = r' := by
  by_contra hne
  have : Std.Symm fun r r' : Run => ¬(cp ∈ r.span ∧ cp ∈ r'.span) :=
    ⟨fun r r' hn hmem => hn hmem.symm⟩
  have hdisjoint : runs.Pairwise fun r r' => ¬(cp ∈ r.span ∧ cp ∈ r'.span) :=
    (List.pairwise_map.mp hruns).imp fun {r r'} hlt hmem => by
      have := hmem.1.2
      have := hmem.2.1
      omega
  exact hdisjoint.forall hr hr' hne ⟨h, h'⟩

/-- The search finds the run of a code point. -/
lemma find?_side (hruns : Spans.Ascending (runs.map span)) (hr : r ∈ runs) (h : cp ∈ r.span) :
    Bisect.find? runs.toArray (fun r => r.span.side cp) = some r := by
  have hsome : (Bisect.find? runs.toArray fun r => r.span.side cp).isSome :=
    (Bisect.isSome_find?_iff (Spans.sided_of_ascending hruns cp)).mpr
      ⟨r, hr, Span.side_eq_iff.mpr h⟩
  obtain ⟨r', hr'⟩ := Option.isSome_iff_exists.mp hsome
  obtain ⟨hmem, heq⟩ := Bisect.mem_of_find? hr'
  rw [hr', eq_of_mem_span hruns hmem hr (Span.side_eq_iff.mp heq) h]

end Ascending

end Run

/-! ### The category of a code point -/

variable {cp : Nat}

lemma categoryOf_eq {r : Run} (hr : r ∈ Run.all) (h : cp ∈ r.span) :
    categoryOf cp = r.category := by
  have hfind : Bisect.find? Run.table (fun r => r.span.side cp) = some r := by
    unfold Run.table
    exact Run.find?_side Run.partition_all.1 hr h
  unfold categoryOf
  rw [hfind]

/-- A number past the last code point counts as unassigned. -/
lemma categoryOf_of_last_lt (h : CodePoint.last < cp) : categoryOf cp = .cn := by
  have hnone : Bisect.find? Run.table (fun r => r.span.side cp) = none := by
    rcases hfind : Bisect.find? Run.table (fun r => r.span.side cp) with _ | r
    · rfl
    · obtain ⟨hr, hside⟩ := Bisect.mem_of_find? hfind
      have hle := Run.le_last_of_mem_span hr (Span.side_eq_iff.mp hside)
      omega
  unfold categoryOf
  rw [hnone]

/-- **The spans of a category cover its code points.** -/
theorem Category.covers_spans_iff {c : Category} :
    Spans.Covers c.spans cp ↔ cp ≤ CodePoint.last ∧ categoryOf cp = c := by
  constructor
  · rintro ⟨s, hs, hcp⟩
    obtain ⟨r, hr, rfl⟩ := List.mem_map.mp hs
    obtain ⟨hall, hcategory⟩ := List.mem_filter.mp hr
    rw [categoryOf_eq hall hcp]
    exact ⟨Run.le_last_of_mem_span hall hcp, of_decide_eq_true hcategory⟩
  · rintro ⟨hlast, rfl⟩
    obtain ⟨r, hr, hcp⟩ := Run.exists_mem_span hlast
    refine ⟨r.span, List.mem_map_of_mem (List.mem_filter.mpr ⟨hr, ?_⟩), hcp⟩
    exact decide_eq_true (categoryOf_eq hr hcp).symm

end TextTypes.Unicode
