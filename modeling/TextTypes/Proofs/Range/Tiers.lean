import TextTypes.Proofs.Range.Spans
import TextTypes.Range.Tier

/-!
Tiers share out the code points.

The parts of a span by tier cover what the span covers, so what is done to all tiers is done to
the set. Compact tiers are a normal form, as gapped spans are.
-/

namespace TextTypes.Range

lemma Tier.bounds_iff {t : Tier} {cp : Nat} :
    t.first ≤ cp ∧ cp ≤ t.last ↔ cp ≤ CodePoint.last ∧ Tier.of cp = t := by
  unfold Tier.of
  cases t <;> split_ifs <;>
    simp only [Tier.first, Tier.last, CodePoint.last, and_true, and_false, iff_false] <;> omega

lemma Tier.of_mono {cp cp' : Nat} (h : Tier.of cp = .single ∧ Tier.of cp' ≠ .single ∨
    Tier.of cp = .double ∧ Tier.of cp' = .triple) : cp < cp' := by
  unfold Tier.of at h
  split_ifs at h <;> simp at h <;> omega

namespace Tiered

/-- The spans of one tier. -/
def part (r : Tiered) : Tier → List Span
  | .single => r.single
  | .double => r.double
  | .triple => r.triple

def Covers (r : Tiered) (cp : Nat) : Prop := ∃ t, Spans.Covers (r.part t) cp

/-- Every tier covers code points of its own only. -/
def Filed (r : Tiered) : Prop :=
  ∀ t cp, Spans.Covers (r.part t) cp → cp ≤ CodePoint.last ∧ Tier.of cp = t

variable {r r' : Tiered} {cp : Nat}

lemma ext_part (h : ∀ t, r.part t = r'.part t) : r = r' := by
  obtain ⟨a, b, c⟩ := r
  obtain ⟨a', b', c'⟩ := r'
  exact congr (congr (congrArg Tiered.mk (h .single)) (h .double)) (h .triple)

lemma covers_toList : Spans.Covers r.toList cp ↔ r.Covers cp := by
  rw [toList, Spans.covers_append, Spans.covers_append]
  constructor
  · rintro ((h | h) | h)
    · exact ⟨.single, h⟩
    · exact ⟨.double, h⟩
    · exact ⟨.triple, h⟩
  · rintro ⟨_ | _ | _, h⟩
    · exact .inl (.inl h)
    · exact .inl (.inr h)
    · exact .inr h

lemma Filed.covers_part (h : r.Filed) {t : Tier} :
    Spans.Covers (r.part t) cp ↔ r.Covers cp ∧ Tier.of cp = t := by
  constructor
  · intro hcover
    exact ⟨⟨t, hcover⟩, (h t cp hcover).2⟩
  · rintro ⟨⟨u, hcover⟩, rfl⟩
    rwa [(h u cp hcover).2]

lemma Filed.le_last (h : r.Filed) (hcover : r.Covers cp) : cp ≤ CodePoint.last := by
  obtain ⟨t, ht⟩ := hcover
  exact (h t cp ht).1

/-! ### The operations -/

lemma part_empty (t : Tier) : ({} : Tiered).part t = [] := by cases t <;> rfl

lemma part_addAll (r : Tiered) (spans : List Span) (t : Tier) :
    (r.addAll spans).part t = r.part t ++ spans.filterMap t.clip := by
  cases t <;> rfl

lemma addAll_addAll (r : Tiered) (spans ts : List Span) :
    (r.addAll spans).addAll ts = r.addAll (spans ++ ts) := by
  refine ext_part fun t => ?_
  rw [part_addAll, part_addAll, part_addAll, List.filterMap_append, List.append_assoc]

lemma addAll_nil (r : Tiered) : r.addAll [] = r :=
  ext_part fun t => by rw [part_addAll, List.filterMap_nil, List.append_nil]

lemma part_remove (r : Tiered) (cut : Span) (t : Tier) :
    (r.remove cut).part t = Spans.remove cut (r.part t) := by
  cases t <;> rfl

lemma part_compact (r : Tiered) (t : Tier) : r.compact.part t = Spans.compact (r.part t) := by
  cases t <;> rfl

lemma covers_clip {spans : List Span} {t : Tier} :
    Spans.Covers (spans.filterMap t.clip) cp ↔
      Spans.Covers spans cp ∧ cp ≤ CodePoint.last ∧ Tier.of cp = t := by
  rw [← Tier.bounds_iff]
  exact Spans.covers_clip

lemma not_covers_empty : ¬({} : Tiered).Covers cp := by
  rintro ⟨t, h⟩
  rw [part_empty] at h
  exact Spans.covers_nil h

lemma filed_empty : ({} : Tiered).Filed := fun t _ h => absurd ⟨t, h⟩ not_covers_empty

/-- **What is added is covered from then on**, as far as the code space goes. -/
theorem covers_addAll {spans : List Span} :
    (r.addAll spans).Covers cp ↔ r.Covers cp ∨ Spans.Covers spans cp ∧ cp ≤ CodePoint.last := by
  simp only [Covers, part_addAll, Spans.covers_append, covers_clip]
  constructor
  · rintro ⟨t, h | ⟨hcover, hlast, -⟩⟩
    · exact .inl ⟨t, h⟩
    · exact .inr ⟨hcover, hlast⟩
  · rintro (⟨t, h⟩ | ⟨hcover, hlast⟩)
    · exact ⟨t, .inl h⟩
    · exact ⟨Tier.of cp, .inr ⟨hcover, hlast, rfl⟩⟩

lemma Filed.addAll (h : r.Filed) (spans : List Span) : (r.addAll spans).Filed := by
  intro t cp hcover
  rw [part_addAll, Spans.covers_append, covers_clip] at hcover
  rcases hcover with hcover | ⟨-, hlast, htier⟩
  · exact h t cp hcover
  · exact ⟨hlast, htier⟩

lemma covers_remove {cut : Span} : (r.remove cut).Covers cp ↔ r.Covers cp ∧ cp ∉ cut := by
  simp only [Covers, part_remove, Spans.covers_remove, exists_and_right]

lemma Filed.remove (h : r.Filed) (cut : Span) : (r.remove cut).Filed := by
  intro t cp hcover
  rw [part_remove, Spans.covers_remove] at hcover
  exact h t cp hcover.1

/-- **What is removed is not covered any more.** -/
theorem covers_removeAll {cuts : List Span} :
    (r.removeAll cuts).Covers cp ↔ r.Covers cp ∧ ¬Spans.Covers cuts cp := by
  unfold removeAll
  induction cuts generalizing r with
  | nil => simp
  | cons cut cuts ih =>
    rw [List.foldl_cons, ih, covers_remove, Spans.covers_cons, not_or, and_assoc]

lemma Filed.removeAll (h : r.Filed) (cuts : List Span) : (r.removeAll cuts).Filed := by
  unfold Tiered.removeAll
  induction cuts generalizing r with
  | nil => exact h
  | cons cut cuts ih => exact ih (h.remove cut)

lemma covers_compact : r.compact.Covers cp ↔ r.Covers cp := by
  simp only [Covers, part_compact, Spans.covers_compact]

lemma Filed.compact (h : r.Filed) : r.compact.Filed := by
  intro t cp hcover
  rw [part_compact, Spans.covers_compact] at hcover
  exact h t cp hcover

/-- **Compact tiers are determined by what they cover.** -/
theorem compact_ext (h : r.Filed) (h' : r'.Filed) (heq : ∀ cp, r.Covers cp ↔ r'.Covers cp) :
    r.compact = r'.compact := by
  refine ext_part fun t => ?_
  rw [part_compact, part_compact]
  refine Spans.gapped_ext (Spans.gapped_compact _) (Spans.gapped_compact _) fun cp => ?_
  rw [Spans.covers_compact, Spans.covers_compact, h.covers_part, h'.covers_part, heq]

/-- The tiers stand one behind the other. -/
lemma Filed.ascending_toList (h : r.Filed) (hpart : ∀ t, Spans.Ascending (r.part t)) :
    Spans.Ascending r.toList := by
  have hlt : ∀ t u, (t = .single ∧ u ≠ .single ∨ t = .double ∧ u = .triple) →
      ∀ s ∈ r.part t, ∀ s' ∈ r.part u, s.hi < s'.lo := by
    rintro t u htu s hs s' hs'
    have ht := (h t s.hi ⟨s, hs, s.hi_mem⟩).2
    have hu := (h u s'.lo ⟨s', hs', s'.lo_mem⟩).2
    exact Tier.of_mono (by rwa [ht, hu])
  refine List.pairwise_append.mpr ⟨List.pairwise_append.mpr ⟨hpart .single, hpart .double,
    hlt .single .double (by decide)⟩, hpart .triple, fun s hs s' hs' => ?_⟩
  rcases List.mem_append.mp hs with hs | hs
  · exact hlt .single .triple (by decide) s hs s' hs'
  · exact hlt .double .triple (by decide) s hs s' hs'

/-- The sizes of the tiers add up. -/
lemma size_toList (r : Tiered) : Spans.size r.toList = r.size := by
  rw [toList, Spans.size_append, Spans.size_append]
  rfl

end Tiered

end TextTypes.Range
