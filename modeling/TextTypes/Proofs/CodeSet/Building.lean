import TextTypes.CodeSet.Builder
import TextTypes.Proofs.CodeSet.Transforms

/-!
What a built set accepts.

A build starts from two tables of spans and two masks. Cutting the excluded spans and the
members of the excluded categories out of the included spans is not enough: an excluded code
point can also come in through an included category. Such a category is listed and cut, and the
others are met by no exclusion.
-/

namespace TextTypes.CodeSet.Builder

open TextTypes.Range TextTypes.Unicode

/-- Whether some call included a code point. -/
def Includes (b : Builder) (cp : Nat) : Prop :=
  b.included.Covers cp ∨ b.includedCategories.has (categoryOf cp) = true

/-- Whether some call excluded a code point. -/
def Excludes (b : Builder) (cp : Nat) : Prop :=
  b.excluded.Covers cp ∨ b.excludedCategories.has (categoryOf cp) = true

/-- What every call keeps. -/
structure WellFormed (b : Builder) : Prop where
  included : b.included.Filed
  excluded : b.excluded.Filed

lemma wellFormed_empty : ({} : Builder).WellFormed := ⟨Tiered.filed_empty, Tiered.filed_empty⟩

/-! ### The steps of a build -/

/-- The spans cut out of the included ones. -/
def cuts (b : Builder) : List Span :=
  b.excluded.compact.toList ++ b.excludedCategories.toList.flatMap Category.spans

/-- The included categories that are not excluded as such. -/
def mask (b : Builder) : CategoryMask := b.includedCategories &&& ~~~b.excludedCategories

/-- The categories of the mask that are listed. -/
def listing (b : Builder) : List Category := listed b.excluded.compact b.mask

/-- The spans of the built set, not yet compact. -/
def accepted (b : Builder) : Tiered :=
  ((b.included.removeAll b.cuts).addAll (b.listing.flatMap Category.spans)).removeAll
    b.excluded.compact.toList

lemma buildRanged_eq (b : Builder) (h : b.error = none) :
    b.buildRanged = .ok ⟨.ranged (.ofTiered b.accepted.compact),
      b.mask &&& ~~~CategoryMask.ofList b.listing, b.accepted.compact.size⟩ := by
  unfold buildRanged
  rw [h]
  rfl

lemma buildRanged_error (b : Builder) {e : BuildError} (h : b.error = some e) :
    b.buildRanged = .error e := by
  unfold buildRanged
  rw [h]

variable {b : Builder} {cp : Nat} {c : Category}

lemma covers_members {cs : List Category} :
    Spans.Covers (cs.flatMap Category.spans) cp ↔ cp ≤ CodePoint.last ∧ categoryOf cp ∈ cs := by
  rw [Spans.covers_flatMap]
  simp only [Category.covers_spans_iff]
  constructor
  · rintro ⟨c, hc, hlast, rfl⟩
    exact ⟨hlast, hc⟩
  · rintro ⟨hlast, hmem⟩
    exact ⟨_, hmem, hlast, rfl⟩

lemma covers_cuts (hcp : cp ≤ CodePoint.last) : Spans.Covers b.cuts cp ↔ b.Excludes cp := by
  rw [cuts, Spans.covers_append, Tiered.covers_toList, Tiered.covers_compact, covers_members,
    CategoryMask.mem_toList]
  exact or_congr_right (and_iff_right hcp)

lemma has_mask :
    b.mask.has c = true ↔ b.includedCategories.has c = true ∧ ¬b.excludedCategories.has c = true :=
  CategoryMask.has_and_not

lemma overlaps_iff {s t : Span} : s.overlaps t = true ↔ ∃ cp, cp ∈ s ∧ cp ∈ t := by
  have hs := s.lo_le_hi
  have ht := t.lo_le_hi
  simp only [Span.overlaps, Bool.and_eq_true, decide_eq_true_eq, Span.mem_def]
  constructor
  · intro h
    exact ⟨max s.lo t.lo, by omega⟩
  · rintro ⟨cp, h⟩
    omega

lemma meets_iff {spans : List Span} :
    meets spans c = true ↔ ∃ cp, Spans.Covers c.spans cp ∧ Spans.Covers spans cp := by
  simp only [meets, List.any_eq_true, overlaps_iff]
  constructor
  · rintro ⟨run, hrun, s, hs, cp, hcp, hcp'⟩
    exact ⟨cp, ⟨run, hrun, hcp⟩, s, hs, hcp'⟩
  · rintro ⟨cp, ⟨run, hrun, hcp⟩, s, hs, hcp'⟩
    exact ⟨run, hrun, s, hs, cp, hcp, hcp'⟩

/-- A category is listed if one of its members is excluded by a span. -/
lemma mem_listing :
    c ∈ b.listing ↔
      b.mask.has c = true ∧ ∃ cp ≤ CodePoint.last, categoryOf cp = c ∧ b.excluded.Covers cp := by
  simp only [listing, listed, List.mem_filter, CategoryMask.mem_toList, meets_iff,
    Category.covers_spans_iff, Tiered.covers_toList, Tiered.covers_compact, and_assoc]

lemma covers_accepted (hcp : cp ≤ CodePoint.last) :
    b.accepted.Covers cp ↔
      (b.included.Covers cp ∧ ¬b.Excludes cp ∨ categoryOf cp ∈ b.listing) ∧
        ¬b.excluded.Covers cp := by
  rw [accepted, Tiered.covers_removeAll, Tiered.covers_addAll, Tiered.covers_removeAll,
    covers_cuts hcp, covers_members, Tiered.covers_toList, Tiered.covers_compact,
    and_iff_left hcp, and_iff_right hcp]

lemma WellFormed.accepted (h : b.WellFormed) : b.accepted.Filed :=
  ((h.included.removeAll _).addAll _).removeAll _

/-- An excluded code point is in no category that stays in the mask; any other one is accepted
as a member of a category or through its spans. -/
lemma accepts_iff (hcp : cp ≤ CodePoint.last) :
    b.accepted.Covers cp ∨
        (b.mask &&& ~~~CategoryMask.ofList b.listing).has (categoryOf cp) = true ↔
      b.Includes cp ∧ ¬b.Excludes cp := by
  rw [covers_accepted hcp, CategoryMask.has_and_not, CategoryMask.has_ofList]
  have hmask : b.mask.has (categoryOf cp) = true → ¬b.excluded.Covers cp →
      b.Includes cp ∧ ¬b.Excludes cp := fun h hspan =>
    ⟨.inr (has_mask.mp h).1, fun hexcluded =>
      (has_mask.mp h).2 (hexcluded.resolve_left hspan)⟩
  constructor
  · rintro (⟨⟨hincluded, hout⟩ | hlisted, hspan⟩ | ⟨hhas, hlisted⟩)
    · exact ⟨.inl hincluded, hout⟩
    · exact hmask (mem_listing.mp hlisted).1 hspan
    · exact hmask hhas fun hspan => hlisted (mem_listing.mpr ⟨hhas, cp, hcp, rfl, hspan⟩)
  · rintro ⟨hincluded, hout⟩
    have hspan : ¬b.excluded.Covers cp := fun h => hout (.inl h)
    rcases hincluded with hincluded | hhas
    · exact .inl ⟨.inl ⟨hincluded, hout⟩, hspan⟩
    · by_cases hlisted : categoryOf cp ∈ b.listing
      · exact .inl ⟨.inr hlisted, hspan⟩
      · exact .inr ⟨has_mask.mpr ⟨hhas, fun h => hout (.inr h)⟩, hlisted⟩

/-- A category stays in the mask if it is included as such and none of its members is excluded. -/
lemma has_kept_iff (hb : b.WellFormed) (cp : Nat) :
    (b.mask &&& ~~~CategoryMask.ofList b.listing).has (categoryOf cp) = true ↔
      b.includedCategories.has (categoryOf cp) = true ∧
        ∀ cp', categoryOf cp' = categoryOf cp → ¬b.Excludes cp' := by
  rw [CategoryMask.has_and_not, CategoryMask.has_ofList, mem_listing, has_mask]
  constructor
  · rintro ⟨⟨hincluded, hcategory⟩, hlisted⟩
    refine ⟨hincluded, fun cp' heq hexcluded => ?_⟩
    rcases hexcluded with hspan | hhas
    · exact hlisted ⟨⟨hincluded, hcategory⟩, cp', hb.excluded.le_last hspan, heq, hspan⟩
    · exact hcategory (heq ▸ hhas)
  · rintro ⟨hincluded, hout⟩
    exact ⟨⟨hincluded, fun h => hout cp rfl (.inr h)⟩,
      fun ⟨_, cp', _, heq, hspan⟩ => hout cp' heq (.inl hspan)⟩

/-- **A build accepts what is included and not excluded.** -/
theorem buildRanged_spec (hb : b.WellFormed) (herror : b.error = none) :
    ∃ s, b.buildRanged = .ok s ∧ s.WellFormed ∧
      ∀ cp ≤ CodePoint.last, (s.contains cp = true ↔ b.Includes cp ∧ ¬b.Excludes cp) := by
  obtain ⟨spans, hstorable, hstores, hcovers⟩ := Layout.exists_stores_compact hb.accepted
  obtain ⟨hspans, hwf⟩ := wellFormed_of_stores hstorable hstores
    (b.mask &&& ~~~CategoryMask.ofList b.listing) b.accepted.compact.size
  refine ⟨_, buildRanged_eq b herror, hwf, fun cp hcp => ?_⟩
  rw [contains_iff hwf, hspans, hcovers]
  exact accepts_iff hcp

end TextTypes.CodeSet.Builder
