import Mathlib.Tactic.Common
import Mathlib.Data.List.Infix
import TextTypes.Proofs.Bisect
import TextTypes.Range.Span

/-!
What lists of spans cover.

Sorting and merging change how code points are covered and not which; where no two spans overlap,
they do not change how many. Lists with a gap between any two spans are a normal form: two of them
that cover the same code points are equal.
-/

namespace TextTypes.Range

namespace Span

lemma lo_mem (s : Span) : s.lo ∈ s := ⟨Nat.le_refl _, s.lo_le_hi⟩

lemma hi_mem (s : Span) : s.hi ∈ s := ⟨s.lo_le_hi, Nat.le_refl _⟩

lemma ext_bounds {s t : Span} (hlo : s.lo = t.lo) (hhi : s.hi = t.hi) : s = t := by
  obtain ⟨a, b, h⟩ := s
  obtain ⟨c, d, h'⟩ := t
  simp only at hlo hhi
  subst hlo hhi
  rfl

lemma ofBounds?_eq_some {lo hi : Nat} {s : Span} :
    ofBounds? lo hi = some s ↔ s.lo = lo ∧ s.hi = hi := by
  unfold ofBounds?
  split
  · rename_i h
    rw [Option.some.injEq]
    exact ⟨fun heq => by subst heq; exact ⟨rfl, rfl⟩, fun ⟨hlo, hhi⟩ =>
      ext_bounds hlo.symm hhi.symm⟩
  · rename_i h
    refine ⟨fun heq => (by cases heq), fun ⟨hlo, hhi⟩ => absurd s.lo_le_hi (by omega)⟩

/-- The part of a span inside the bounds has the code points inside the bounds. -/
lemma exists_clip_iff {lo hi cp : Nat} {s : Span} :
    (∃ t, s.clip lo hi = some t ∧ cp ∈ t) ↔ cp ∈ s ∧ lo ≤ cp ∧ cp ≤ hi := by
  simp only [clip, ofBounds?_eq_some, mem_def]
  constructor
  · rintro ⟨t, ⟨hlo, hhi⟩, hmem⟩
    omega
  · rintro ⟨hmem, hlo, hhi⟩
    exact ⟨⟨max s.lo lo, min s.hi hi, by omega⟩, ⟨rfl, rfl⟩, by simp only; omega⟩

lemma exists_mem_minus_iff {cut s : Span} {cp : Nat} :
    (∃ t ∈ minus cut s, cp ∈ t) ↔ cp ∈ s ∧ cp ∉ cut := by
  have hs := s.lo_le_hi
  have hcut := cut.lo_le_hi
  simp only [minus, before, after, List.mem_append, mem_def]
  by_cases hlo : s.lo < cut.lo <;> by_cases hhi : cut.hi < s.hi
  · simp only [dif_pos hlo, dif_pos hhi, List.mem_singleton, or_and_right, exists_or,
      exists_eq_left]
    omega
  · simp only [dif_pos hlo, dif_neg hhi, List.mem_singleton, List.not_mem_nil, or_false,
      exists_eq_left]
    omega
  · simp only [dif_neg hlo, dif_pos hhi, List.mem_singleton, List.not_mem_nil, false_or,
      exists_eq_left]
    omega
  · simp only [dif_neg hlo, dif_neg hhi, List.not_mem_nil, or_self, false_and, exists_false,
      false_iff]
    omega

/-- How a cut meets a span, with what it leaves of the span. -/
inductive Leaves (cut s : Span) : List Span → Prop
  | apart (h : cut.hi < s.lo ∨ s.hi < cut.lo) : Leaves cut s [s]
  | nothing (h : cut.lo ≤ s.lo ∧ s.hi ≤ cut.hi) : Leaves cut s []
  | ends {front back : Span} (h : s.lo < cut.lo ∧ cut.hi < s.hi)
      (hfront : front.lo = s.lo ∧ front.hi = cut.lo - 1)
      (hback : back.lo = cut.hi + 1 ∧ back.hi = s.hi) : Leaves cut s [front, back]
  | back {back : Span} (h : cut.lo ≤ s.lo ∧ s.lo ≤ cut.hi ∧ cut.hi < s.hi)
      (hback : back.lo = cut.hi + 1 ∧ back.hi = s.hi) : Leaves cut s [back]
  | front {front : Span} (h : s.lo < cut.lo ∧ cut.lo ≤ s.hi ∧ s.hi ≤ cut.hi)
      (hfront : front.lo = s.lo ∧ front.hi = cut.lo - 1) : Leaves cut s [front]

lemma leaves_minus (cut s : Span) : Leaves cut s (minus cut s) := by
  have hs := s.lo_le_hi
  have hcut := cut.lo_le_hi
  unfold minus before after
  by_cases hlo : s.lo < cut.lo <;> by_cases hhi : cut.hi < s.hi
  · rw [dif_pos hlo, dif_pos hhi]
    exact .ends ⟨hlo, hhi⟩ ⟨rfl, Nat.min_eq_right (by omega)⟩ ⟨Nat.max_eq_right (by omega), rfl⟩
  · rw [dif_pos hlo, dif_neg hhi, List.append_nil]
    by_cases hout : s.hi < cut.lo
    · have hsame : (⟨s.lo, min s.hi (cut.lo - 1), by omega⟩ : Span) = s :=
        ext_bounds rfl (Nat.min_eq_left (by omega))
      rw [hsame]
      exact .apart (.inr hout)
    · exact .front ⟨hlo, by omega, by omega⟩ ⟨rfl, Nat.min_eq_right (by omega)⟩
  · rw [dif_neg hlo, dif_pos hhi, List.nil_append]
    by_cases hout : cut.hi < s.lo
    · have hsame : (⟨max s.lo (cut.hi + 1), s.hi, by omega⟩ : Span) = s :=
        ext_bounds (Nat.max_eq_left (by omega)) rfl
      rw [hsame]
      exact .apart (.inl hout)
    · exact .back ⟨by omega, by omega, hhi⟩ ⟨Nat.max_eq_right (by omega), rfl⟩
  · rw [dif_neg hlo, dif_neg hhi]
    exact .nothing ⟨by omega, by omega⟩

lemma minus_of_apart {cut s : Span} (h : cut.hi < s.lo ∨ s.hi < cut.lo) : minus cut s = [s] := by
  have hs := s.lo_le_hi
  have hcut := cut.lo_le_hi
  have hleaves := leaves_minus cut s
  generalize minus cut s = pieces at hleaves ⊢
  cases hleaves with
  | apart => rfl
  | nothing hin => omega
  | ends hin => omega
  | back hin => omega
  | front hin => omega

lemma side_eq_iff {s : Span} {cp : Nat} : side cp s = .eq ↔ cp ∈ s := by
  rw [side, mem_def]
  split
  · simp only [reduceCtorEq, false_iff]
    omega
  · split
    · simp only [reduceCtorEq, false_iff]
      omega
    · simp only [true_iff]
      omega

lemma side_lt_iff {s : Span} {cp : Nat} : side cp s = .lt ↔ cp < s.lo := by
  rw [side]
  split
  · simp only [true_iff]
    omega
  · split
    · simp only [reduceCtorEq, false_iff]
      omega
    · simp only [reduceCtorEq, false_iff]
      omega

lemma side_gt_iff {s : Span} {cp : Nat} : side cp s = .gt ↔ s.hi < cp := by
  have := s.lo_le_hi
  rw [side]
  split
  · simp only [reduceCtorEq, false_iff]
    omega
  · split
    · simp only [true_iff]
      omega
    · simp only [reduceCtorEq, false_iff]
      omega

end Span

namespace Spans

/-! ### Cover -/

def Covers (spans : List Span) (cp : Nat) : Prop := ∃ s ∈ spans, cp ∈ s

section Covers

variable {spans ts : List Span} {s : Span} {cp : Nat}

@[simp] lemma covers_nil : ¬Covers [] cp := by rintro ⟨s, hs, -⟩; cases hs

@[simp] lemma covers_cons : Covers (s :: spans) cp ↔ cp ∈ s ∨ Covers spans cp := by
  simp [Covers]

@[simp] lemma covers_append : Covers (spans ++ ts) cp ↔ Covers spans cp ∨ Covers ts cp := by
  simp [Covers, or_and_right, exists_or]

lemma covers_perm (h : spans.Perm ts) : Covers spans cp ↔ Covers ts cp := by
  simp only [Covers, h.mem_iff]

lemma covers_flatMap {α : Type} {l : List α} {f : α → List Span} :
    Covers (l.flatMap f) cp ↔ ∃ x ∈ l, Covers (f x) cp := by
  simp only [Covers, List.mem_flatMap]
  constructor
  · rintro ⟨s, ⟨x, hx, hs⟩, hcp⟩
    exact ⟨x, hx, s, hs, hcp⟩
  · rintro ⟨x, hx, s, hs, hcp⟩
    exact ⟨s, ⟨x, hx, hs⟩, hcp⟩

lemma covers_clip {lo hi : Nat} :
    Covers (spans.filterMap (Span.clip lo hi)) cp ↔ Covers spans cp ∧ lo ≤ cp ∧ cp ≤ hi := by
  simp only [Covers, List.mem_filterMap]
  constructor
  · rintro ⟨t, ⟨s, hs, ht⟩, hcp⟩
    obtain ⟨hmem, hbounds⟩ := Span.exists_clip_iff.mp ⟨t, ht, hcp⟩
    exact ⟨⟨s, hs, hmem⟩, hbounds⟩
  · rintro ⟨⟨s, hs, hmem⟩, hbounds⟩
    obtain ⟨t, ht, hcp⟩ := Span.exists_clip_iff.mpr ⟨hmem, hbounds⟩
    exact ⟨t, ⟨s, hs, ht⟩, hcp⟩

/-- **A removal takes out the code points of the cut and no others.** -/
theorem covers_remove {cut : Span} :
    Covers (remove cut spans) cp ↔ Covers spans cp ∧ cp ∉ cut := by
  rw [remove, covers_flatMap]
  unfold Covers
  simp only [Span.exists_mem_minus_iff]
  constructor
  · rintro ⟨s, hs, hmem, hcut⟩
    exact ⟨⟨s, hs, hmem⟩, hcut⟩
  · rintro ⟨⟨s, hs, hmem⟩, hcut⟩
    exact ⟨s, hs, hmem, hcut⟩

end Covers

/-! ### Order -/

/-- By their starts. -/
def Sorted (spans : List Span) : Prop := spans.Pairwise fun s t => s.lo ≤ t.lo

/-- One behind the other, without overlap. -/
def Ascending (spans : List Span) : Prop := spans.Pairwise fun s t => s.hi < t.lo

/-- One behind the other, with a code point left out between any two. -/
def Gapped (spans : List Span) : Prop := spans.Pairwise fun s t => s.hi + 1 < t.lo

section Order

variable {spans : List Span} {s : Span} {cp : Nat}

lemma Gapped.ascending (h : Gapped spans) : Ascending spans :=
  h.imp fun hlt => by omega

lemma Ascending.sorted (h : Ascending spans) : Sorted spans :=
  h.imp fun {s _} hlt => by have := s.lo_le_hi; omega

/-- What a span leads is covered from its start on. -/
lemma Sorted.lo_le (h : Sorted (s :: spans)) (hcp : Covers (s :: spans) cp) : s.lo ≤ cp := by
  rcases covers_cons.mp hcp with hmem | ⟨t, ht, hmem⟩
  · exact hmem.1
  · exact Nat.le_trans (List.rel_of_pairwise_cons h ht) hmem.1

/-- Entries with ascending spans point to the one that contains a code point. -/
lemma sided_of_ascending {α : Type} {f : α → Span} {l : List α} (h : Ascending (l.map f))
    (cp : Nat) : Bisect.Sided (fun x => (f x).side cp) l := by
  refine (List.pairwise_map.mp h).imp fun {x y} hlt => ?_
  have hx := (f x).lo_le_hi
  have hy := (f y).lo_le_hi
  rw [Span.side_lt_iff, Span.side_lt_iff, Span.side_gt_iff, Span.side_gt_iff]
  omega

end Order

/-! ### Sorting -/

section Sorting

variable {spans : List Span} {s : Span}

lemma insert_perm (s : Span) (spans : List Span) : (insert s spans).Perm (s :: spans) := by
  induction spans with
  | nil => exact List.Perm.refl _
  | cons t rest ih =>
    unfold insert
    split
    · exact List.Perm.refl _
    · exact (ih.cons t).trans (List.Perm.swap s t rest)

lemma le_eq_true_iff {s t : Span} :
    s.le t = true ↔ s.lo < t.lo ∨ s.lo = t.lo ∧ s.hi ≤ t.hi := by
  simp [Span.le]

lemma sorted_insert (h : Sorted spans) : Sorted (insert s spans) := by
  induction spans with
  | nil => exact List.pairwise_singleton _ _
  | cons t rest ih =>
    have ht : ∀ u ∈ rest, t.lo ≤ u.lo := fun u hu => List.rel_of_pairwise_cons h hu
    unfold insert
    split
    · rename_i hle
      have hst : s.lo ≤ t.lo := by
        rcases le_eq_true_iff.mp hle with hlt | ⟨heq, -⟩ <;> omega
      refine List.pairwise_cons.mpr ⟨fun u hu => ?_, h⟩
      rcases List.mem_cons.mp hu with rfl | hu
      · exact hst
      · exact Nat.le_trans hst (ht u hu)
    · rename_i hle
      have hts : t.lo ≤ s.lo := by
        rw [le_eq_true_iff] at hle
        omega
      refine List.pairwise_cons.mpr ⟨fun u hu => ?_, ih h.of_cons⟩
      rcases List.mem_cons.mp ((insert_perm s rest).mem_iff.mp hu) with rfl | hu
      · exact hts
      · exact ht u hu

lemma sort_perm (spans : List Span) : (sort spans).Perm spans := by
  induction spans with
  | nil => exact List.Perm.refl _
  | cons s spans ih => exact (insert_perm s _).trans (ih.cons s)

lemma sorted_sort (spans : List Span) : Sorted (sort spans) := by
  induction spans with
  | nil => exact List.Pairwise.nil
  | cons s spans ih => exact sorted_insert ih

end Sorting

/-! ### Merging -/

section Merging

variable {spans : List Span} {s : Span} {cp : Nat}

lemma mem_join {t : Span} (hlo : s.lo ≤ t.lo) (htouch : t.lo ≤ s.hi + 1) :
    cp ∈ s.join t ↔ cp ∈ s ∨ cp ∈ t := by
  have hs := s.lo_le_hi
  have ht := t.lo_le_hi
  simp only [Span.mem_def, Span.join]
  omega

lemma sorted_join {t : Span} (h : Sorted (s :: t :: spans)) : Sorted (s.join t :: spans) := by
  have hst := List.rel_of_pairwise_cons h List.mem_cons_self
  refine List.pairwise_cons.mpr ⟨fun u hu => ?_, h.of_cons.of_cons⟩
  have := List.rel_of_pairwise_cons h (List.mem_cons_of_mem t hu)
  simp only [Span.join]
  omega

lemma covers_absorb (h : Sorted (s :: spans)) :
    Covers (absorb s spans) cp ↔ Covers (s :: spans) cp := by
  induction spans generalizing s with
  | nil => rfl
  | cons t rest ih =>
    unfold absorb
    split
    · rename_i htouch
      rw [ih (sorted_join h), covers_cons, covers_cons, covers_cons,
        mem_join (List.rel_of_pairwise_cons h List.mem_cons_self) htouch, or_assoc]
    · rw [covers_cons, covers_cons, ih h.of_cons]

/-- The first span keeps its start, and the spans it could not take in lie behind a gap. -/
lemma gapped_absorb (h : Sorted (s :: spans)) :
    Gapped (absorb s spans) ∧ ∀ t ∈ absorb s spans, s.lo ≤ t.lo := by
  induction spans generalizing s with
  | nil => exact ⟨List.pairwise_singleton _ _, fun t ht => by rw [List.mem_singleton.mp ht]⟩
  | cons t rest ih =>
    have hst := List.rel_of_pairwise_cons h List.mem_cons_self
    unfold absorb
    split
    · obtain ⟨hgapped, hlo⟩ := ih (sorted_join h)
      refine ⟨hgapped, fun u hu => Nat.le_trans ?_ (hlo u hu)⟩
      simp only [Span.join]
      omega
    · rename_i htouch
      obtain ⟨hgapped, hlo⟩ := ih h.of_cons
      refine ⟨List.pairwise_cons.mpr ⟨fun u hu => ?_, hgapped⟩, fun u hu => ?_⟩
      · have := hlo u hu
        omega
      · rcases List.mem_cons.mp hu with rfl | hu
        · exact Nat.le_refl _
        · exact Nat.le_trans hst (hlo u hu)

lemma covers_coalesce (h : Sorted spans) : Covers (coalesce spans) cp ↔ Covers spans cp := by
  cases spans with
  | nil => rfl
  | cons s rest => exact covers_absorb h

lemma gapped_coalesce (h : Sorted spans) : Gapped (coalesce spans) := by
  cases spans with
  | nil => exact List.Pairwise.nil
  | cons s rest => exact (gapped_absorb h).1

theorem covers_compact (spans : List Span) : Covers (compact spans) cp ↔ Covers spans cp := by
  rw [compact, covers_coalesce (sorted_sort spans), covers_perm (sort_perm spans)]

theorem gapped_compact (spans : List Span) : Gapped (compact spans) :=
  gapped_coalesce (sorted_sort spans)

end Merging

/-! ### Size -/

section Size

variable {spans ts : List Span} {s t : Span}

@[simp] lemma size_nil : size [] = 0 := rfl

@[simp] lemma size_cons : size (s :: spans) = s.size + size spans := rfl

lemma size_append : size (spans ++ ts) = size spans + size ts := by
  induction spans with
  | nil => simp
  | cons s spans ih =>
    rw [List.cons_append, size_cons, size_cons, ih]
    omega

/-- Two spans that touch without overlap make up one of their lengths together. -/
lemma size_join (h : s.hi + 1 = t.lo) : (s.join t).size = s.size + t.size := by
  have hs := s.lo_le_hi
  have ht := t.lo_le_hi
  simp only [Span.size, Span.join]
  omega

lemma ascending_join (h : Ascending (s :: t :: spans)) : Ascending (s.join t :: spans) := by
  have hst : s.hi < t.lo := List.rel_of_pairwise_cons h List.mem_cons_self
  have ht := t.lo_le_hi
  refine List.pairwise_cons.mpr ⟨fun u hu => ?_, h.of_cons.of_cons⟩
  have htu : t.hi < u.lo := List.rel_of_pairwise_cons h.of_cons hu
  simp only [Span.join]
  omega

/-- Where nothing overlaps, merging spans that touch keeps the number of code points. -/
lemma size_absorb (h : Ascending (s :: spans)) : size (absorb s spans) = size (s :: spans) := by
  induction spans generalizing s with
  | nil => rfl
  | cons t rest ih =>
    have hst : s.hi < t.lo := List.rel_of_pairwise_cons h List.mem_cons_self
    unfold absorb
    split
    · rename_i htouch
      have hjoin : (s.join t).size = s.size + t.size := size_join (by omega)
      rw [ih (ascending_join h), size_cons, size_cons, size_cons, hjoin]
      omega
    · rw [size_cons, size_cons, ih h.of_cons]

lemma size_coalesce (h : Ascending spans) : size (coalesce spans) = size spans := by
  cases spans with
  | nil => rfl
  | cons s rest => exact size_absorb h

end Size

/-! ### Normal form -/

section NormalForm

variable {spans ts : List Span} {s t : Span}

/-- Behind its first span, a gapped list covers what it covers behind the span's end. -/
lemma Gapped.covers_tail (h : Gapped (s :: spans)) {cp : Nat} :
    Covers spans cp ↔ Covers (s :: spans) cp ∧ s.hi < cp := by
  rw [covers_cons]
  constructor
  · rintro ⟨u, hu, hcp⟩
    have := List.rel_of_pairwise_cons h hu
    exact ⟨.inr ⟨u, hu, hcp⟩, by have := hcp.1; omega⟩
  · rintro ⟨hmem | hcover, hlt⟩
    · exact absurd hmem.2 (by omega)
    · exact hcover

/-- The first span ends where the code points covered from its start on end. -/
lemma Gapped.not_covers_succ (h : Gapped (s :: spans)) : ¬Covers (s :: spans) (s.hi + 1) := by
  rw [covers_cons]
  rintro (hmem | ⟨u, hu, hcp⟩)
  · exact absurd hmem.2 (by omega)
  · have := List.rel_of_pairwise_cons h hu
    have := hcp.1
    omega

lemma Gapped.head_le (ht : Gapped (t :: ts))
    (h : ∀ cp, Covers (s :: spans) cp → Covers (t :: ts) cp) (hlo : s.lo = t.lo) :
    s.hi ≤ t.hi := by
  by_contra hlt
  have hmem : t.hi + 1 ∈ s := ⟨by have := t.lo_le_hi; omega, by omega⟩
  exact ht.not_covers_succ (h _ (covers_cons.mpr (.inl hmem)))

/-- **Gapped spans are determined by what they cover.** -/
theorem gapped_ext (hs : Gapped spans) (ht : Gapped ts)
    (h : ∀ cp, Covers spans cp ↔ Covers ts cp) : spans = ts := by
  induction spans generalizing ts with
  | nil =>
    cases ts with
    | nil => rfl
    | cons t ts => exact absurd ((h t.lo).mpr (covers_cons.mpr (.inl t.lo_mem))) covers_nil
  | cons s spans ih =>
    cases ts with
    | nil => exact absurd ((h s.lo).mp (covers_cons.mpr (.inl s.lo_mem))) covers_nil
    | cons t ts =>
      have hlo : s.lo = t.lo := Nat.le_antisymm
        (hs.ascending.sorted.lo_le ((h t.lo).mpr (covers_cons.mpr (.inl t.lo_mem))))
        (ht.ascending.sorted.lo_le ((h s.lo).mp (covers_cons.mpr (.inl s.lo_mem))))
      have hhi : s.hi = t.hi := Nat.le_antisymm
        (ht.head_le (fun cp => (h cp).mp) hlo)
        (hs.head_le (fun cp => (h cp).mpr) hlo.symm)
      have htail : ∀ cp, Covers spans cp ↔ Covers ts cp := fun cp => by
        rw [hs.covers_tail, ht.covers_tail, h cp, hhi]
      rw [Span.ext_bounds hlo hhi, ih hs.of_cons ht.of_cons htail]

/-- In whatever way spans are sorted, merging them compacts them. -/
lemma coalesce_eq_compact {sorted : List Span} (hperm : sorted.Perm spans)
    (hsorted : Sorted sorted) : coalesce sorted = compact spans :=
  gapped_ext (gapped_coalesce hsorted) (gapped_compact spans) fun cp => by
    rw [covers_coalesce hsorted, covers_compact, covers_perm hperm]

end NormalForm

end Spans

end TextTypes.Range
