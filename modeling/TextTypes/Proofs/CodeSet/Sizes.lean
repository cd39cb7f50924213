import Mathlib.Algebra.GroupWithZero.Nat
import TextTypes.Proofs.CodeSet.Built

/-!
What a set reports about its ranges.

The spans of a set are a normal form of what its layout contains, and its size is the number of
code points in them. The size is counted once, tier by tier, when the set is built; merging the
spans that touch at the border of two tiers does not change it, and no transform does.
-/

namespace TextTypes.CodeSet

open TextTypes.Range

/-- The size of a set is the number of code points in its spans. -/
def Counted (s : CodeSet) : Prop := s.size = Spans.size s.spans

lemma counted_empty : Counted .empty := rfl

/-- Tier by tier or merged across the borders of tiers, as many code points are covered. -/
lemma size_coalesce_compact {r : Tiered} (h : r.Filed) :
    Spans.size (Spans.coalesce r.compact.toList) = r.compact.size := by
  have hascending : Spans.Ascending r.compact.toList :=
    h.compact.ascending_toList (Layout.ascending_part_compact r)
  rw [Spans.size_coalesce hascending, Tiered.size_toList]

lemma Builder.counted_buildRanged {b : Builder} (hb : b.WellFormed) {s : CodeSet}
    (h : b.buildRanged = .ok s) : Counted s := by
  rcases herror : b.error with _ | e
  · rw [buildRanged_eq b herror] at h
    cases h
    exact (size_coalesce_compact hb.accepted).symm
  · rw [buildRanged_error b herror] at h
    cases h

lemma counted_of_make? {s s' : CodeSet} (hs : s.WellFormed) (hcounted : Counted s)
    {t : Transform} (h : t.make? s = some s') : Counted s' := by
  obtain ⟨-, hspans, -, hsize⟩ := make?_keeps hs h
  unfold Counted
  rw [hsize, hspans]
  exact hcounted

/-- What the builder of a set has collected is well formed. -/
lemma Builder.wellFormed_ofCalls {calls : List Call} {s : CodeSet}
    (hsets : ∀ call ∈ calls, ∀ t ∈ call.item.set?, Built t)
    (h : (ofCalls calls).buildRanged = .ok s) : (ofCalls calls).WellFormed :=
  (run calls (firstInvalid?_of_buildRanged h) fun call hcall t ht =>
    (hsets call hcall t ht).wellFormed).1

lemma Built.counted {s : CodeSet} (hs : Built s) : Counted s := by
  induction hs with
  | empty => exact counted_empty
  | @build calls s hsets h _ =>
    rcases hranged : (Builder.ofCalls calls).buildRanged with e | r
    · rw [Builder.build, hranged] at h
      cases h
    · have hcounted : Counted r :=
        Builder.counted_buildRanged (Builder.wellFormed_ofCalls hsets hranged) hranged
      have hr : Built r := .buildRanged calls hsets hranged
      rw [Builder.build, hranged] at h
      cases h
      exact counted_of_make? (t := .optimised) hr.wellFormed hcounted rfl
  | @buildRanged calls s hsets h _ =>
    exact Builder.counted_buildRanged (Builder.wellFormed_ofCalls hsets h) h
  | transform hs h ih => exact counted_of_make? hs.wellFormed ih h

/-- **The ranges of a set**, in whatever layout a chain of transforms has left it: they ascend with
a code point left out between any two, they cover what the layout contains, and the size of the
set is the sum of their lengths. -/
theorem Built.gapped_covers_size {s : CodeSet} (hs : Built s) :
    (s.spans.Pairwise fun r r' => r.hi + 1 < r'.lo) ∧
      (∀ cp, (∃ r ∈ s.spans, r.lo ≤ cp ∧ cp ≤ r.hi) ↔ s.layout.contains cp = true) ∧
      s.size = (s.spans.map fun r => r.hi - r.lo + 1).sum := by
  have hwf := hs.wellFormed
  refine ⟨hwf.storable.gapped, fun cp => ?_, hs.counted⟩
  exact (Layout.contains_iff hwf.storable hwf.stores).symm

/-- The ranges U+00F0 to U+0104, U+0106 to U+01FF and U+FFFE to U+10001, by tier. -/
def borders : CodeSet :=
  ⟨.ranged ⟨#[⟨0xF0, 0xFF, by decide⟩],
    #[⟨0x100, 0x104, by decide⟩, ⟨0x106, 0x1FF, by decide⟩, ⟨0xFFFE, 0xFFFF, by decide⟩],
    #[⟨0x10000, 0x10001, by decide⟩]⟩, 0#64, 275⟩

lemma built_borders : Built borders :=
  .buildRanged [.including (.range 0xF0 0x1FF), .excluding (.codePoint 0x105),
    .including (.range 0xFFFE 0x10001)] (by simp [Builder.Call.item, Builder.Item.set?]) rfl

/-- Five ranges in tiers, the same three in buckets by block. -/
theorem Built.gapped_covers_size_borders :
    (borders.toHashed 3).spans.map (fun r => (r.lo, r.hi)) =
        [(0xF0, 0x104), (0x106, 0x1FF), (0xFFFE, 0x10001)] ∧
      (borders.toHashed 3).layout.contains 0x10000 = true ∧
      (borders.toHashed 3).size = 0x15 + 0xFA + 4 := by
  have hbuilt : Built (borders.toHashed 3) := .transform (t := .hashed 3) built_borders rfl
  obtain ⟨-, hcovers, hsize⟩ := Built.gapped_covers_size hbuilt
  refine ⟨by decide +kernel, (hcovers 0x10000).mp ?_, hsize.trans ?_⟩
  · decide +kernel
  · decide +kernel

end TextTypes.CodeSet
