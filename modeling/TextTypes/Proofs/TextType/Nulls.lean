import TextTypes.Proofs.TextType.Casing
import TextTypes.Proofs.TextType.Coverage
import TextTypes.Proofs.TextType.Sizes

/-!
Absent and empty values.

The policy decides about input that is absent or blank. It has no say in a value that comes out
empty because everything visible in the text has been replaced by nothing.
-/

namespace TextTypes

open TextTypes.Unicode

namespace TextType

variable {t : TextType}

/-! ### Input that is absent or blank -/

lemma parse_none : t.parse none = .ok t.nulls.absent := rfl

lemma parse_blank {s : List Char} (hs : (t.normal.apply s).all isBlank = true) :
    t.parse (some s) = .ok t.nulls.blank := by
  rw [parse, read_blank hs]
  rfl

lemma parse_ne_none {s : List Char} (hs : (t.normal.apply s).all isBlank = false) :
    t.parse (some s) ≠ .ok none := by
  intro h
  obtain ⟨v, hv⟩ := exists_of_parse_eq_ok hs h
  cases hv

lemma resolves_some_iff {s : List Char} :
    t.Resolves (some s) ↔ (t.normal.apply s).all isBlank = true := by
  simp only [Resolves, Option.mem_def, Option.some.injEq, forall_eq']

/-! ### Text that comes to nothing -/

/-- Nothing is left of a replacement: whatever it has is white space, and trimmed off. -/
def Erases (t : TextType) (r : List Char) : Prop :=
  ∀ c ∈ r, t.whitespace.collapses = true ∧ isBlank c = true

lemma erases_of_settle {v : List Char} (h : t.settle v = []) : t.Erases v := by
  intro c hc
  unfold settle at h
  split at h
  next hcollapses =>
    refine ⟨hcollapses, ?_⟩
    by_contra hvisible
    exact trim_ne_nil (List.all_eq_false.mpr ⟨c, hc, hvisible⟩) h
  · rw [h] at hc
    cases hc

/-- What makes an empty value has nothing in it that would be left. -/
lemma erases_of_images {first : Bool} {s : List Char}
    (h : t.settle (t.case.images first s) = []) : t.Erases s := by
  intro c hc
  obtain ⟨d, hd, hblank⟩ := t.case.exists_mem_images first hc
  rw [← hblank]
  exact erases_of_settle h d hd

/-- A text leads to an empty value only if all that is visible in it is replaced by nothing. -/
lemma erased_of_parse {s : List Char} (hs : (t.normal.apply s).all isBlank = false)
    (h : t.parse (some s) = .ok (some [])) {i : Nat} {c : Char}
    (hi : (t.normal.apply s)[i]? = some c) (hc : isBlank c = false) :
    ∃ r, t.ReplacedBy (t.normal.apply s) i r ∧ t.Erases r := by
  obtain ⟨sources, w, hes, hw, hv, -⟩ := parse_eq_ok hs h
  rw [hw.written] at hv
  have herases := erases_of_images hv.symm
  rcases t.kept_or_replacedBy hi hc with ⟨k, -, hk⟩ | ⟨r, hreplaced⟩
  · -- what stays in place is written, and it is not trimmed off
    have hemit : t.emit c (margin (t.normal.apply s) + k) ∈ t.emissions (margin (t.normal.apply s))
        false (t.converter.pieces (trim (t.normal.apply s))) := emit_mem_emissions hk hc
    rw [hes] at hemit
    obtain ⟨d, hd, hwrite⟩ := List.mem_map.mp hemit
    obtain ⟨rfl, -⟩ := emit_eq_write hwrite.symm
    rw [(herases c hd).2] at hc
    cases hc
  · refine ⟨r, hreplaced, fun d hd => herases d ?_⟩
    obtain ⟨j, source, hr, -⟩ := hreplaced
    have hwrite : .write d ∈ t.emissions (margin (t.normal.apply s)) false
        (t.converter.pieces (trim (t.normal.apply s))) := write_mem_of_replaced hr hd
    rw [hes] at hwrite
    exact (List.mem_map_of_injective fun a b hab => Emission.write.inj hab).mp hwrite

/-- **What the null policy governs.** A type that turns empty input to null finds null exactly for
input that is absent or blank, and the empty text only if all that is visible in the input is
replaced by nothing, or by white space that is trimmed off. A type that turns null to the empty text
never finds null, and one that preserves both finds it exactly for absent input. -/
theorem parse_nulls (t : TextType) (input : Option (List Char)) :
    (t.nulls = .emptyToNull →
      (t.parse input = .ok none ↔ t.Resolves input) ∧
        (t.parse input = .ok (some []) → ∃ s ∈ input, (t.normal.apply s).all isBlank = false ∧
          ∀ i c, (t.normal.apply s)[i]? = some c → isBlank c = false →
            ∃ r, t.ReplacedBy (t.normal.apply s) i r ∧ t.Erases r)) ∧
      (t.nulls = .nullToEmpty → t.parse input ≠ .ok none) ∧
        (t.nulls = .preserve → (t.parse input = .ok none ↔ input = none)) := by
  rcases input with _ | s
  · rw [parse_none]
    refine ⟨fun hnulls => ?_, fun hnulls => ?_, fun hnulls => ?_⟩ <;> rw [hnulls]
    · exact ⟨⟨fun _ => by simp [Resolves], fun _ => rfl⟩, by rintro ⟨⟩⟩
    · rintro ⟨⟩
    · exact ⟨fun _ => rfl, fun _ => rfl⟩
  cases hs : (t.normal.apply s).all isBlank with
  | true =>
    rw [parse_blank hs, resolves_some_iff]
    refine ⟨fun hnulls => ?_, fun hnulls => ?_, fun hnulls => ?_⟩ <;> rw [hnulls]
    · exact ⟨⟨fun _ => hs, fun _ => rfl⟩, by rintro ⟨⟩⟩
    · rintro ⟨⟩
    · exact ⟨by rintro ⟨⟩, by rintro ⟨⟩⟩
  | false =>
    have hne := parse_ne_none hs
    refine ⟨fun _ => ⟨⟨fun h => absurd h hne, fun h => ?_⟩, fun h => ?_⟩, fun _ => hne,
      fun _ => ⟨fun h => absurd h hne, by rintro ⟨⟩⟩⟩
    · rw [resolves_some_iff.mp h] at hs
      cases hs
    · exact ⟨s, rfl, hs, fun i c hi hc => erased_of_parse hs h hi hc⟩

/-- Blank input becomes null, and two hyphens that are replaced by nothing become the empty text.
Absent input is null unless the policy turns it to the empty text. -/
theorem parse_nulls_captions :
    (∃ t, (Builder.captions.withNulls .emptyToNull).build = .ok t ∧ t.nulls = .emptyToNull ∧
      t.parse (some [' ']) = .ok none ∧ t.parse (some "- -".toList) = .ok (some []) ∧
      ∃ r, t.ReplacedBy "- -".toList 2 r ∧ t.Erases r) ∧
    (∃ t, (Builder.captions.withNulls .nullToEmpty).build = .ok t ∧ t.nulls = .nullToEmpty ∧
      t.parse none ≠ .ok none) ∧
    ∃ t, (Builder.captions.withNulls .preserve).build = .ok t ∧ t.nulls = .preserve ∧
      t.parse none = .ok none ∧ t.parse (some [' ']) ≠ .ok none := by
  have hbuilds : ∀ p : NullPolicy, ∃ t, (Builder.captions.withNulls p).build = .ok t ∧
      t.nulls = p ∧ t.normal = .preserve := by
    intro p
    obtain ⟨t, hbuild⟩ := Builder.exists_of_build (b := Builder.captions.withNulls p)
      (by cases p <;> decide +kernel)
    obtain ⟨-, pattern, accepted, converter, -, -, -, rfl⟩ := Builder.build_eq_ok_iff.mp hbuild
    exact ⟨_, hbuild, rfl, rfl⟩
  refine ⟨?_, ?_, ?_⟩
  · obtain ⟨t, hbuild, hnulls, hnormal⟩ := hbuilds .emptyToNull
    have hparse : t.parse (some "- -".toList) = .ok (some []) :=
      Builder.eq_of_build hbuild (fun t => t.parse _) (by decide +kernel)
    have hnull := ((t.parse_nulls (some [' '])).1 hnulls).1.mpr
      (resolves_some_iff.mpr (by rw [apply_of_preserve hnormal]; decide))
    obtain ⟨s, hs, -, herased⟩ := ((t.parse_nulls (some "- -".toList)).1 hnulls).2 hparse
    obtain rfl := Option.some.inj hs
    rw [apply_of_preserve hnormal] at herased
    exact ⟨t, hbuild, hnulls, hnull, hparse, herased 2 '-' (by decide) (by decide)⟩
  · obtain ⟨t, hbuild, hnulls, -⟩ := hbuilds .nullToEmpty
    exact ⟨t, hbuild, hnulls, (t.parse_nulls none).2.1 hnulls⟩
  · obtain ⟨t, hbuild, hnulls, -⟩ := hbuilds .preserve
    refine ⟨t, hbuild, hnulls, ((t.parse_nulls none).2.2 hnulls).mpr rfl, fun h => ?_⟩
    cases ((t.parse_nulls (some [' '])).2.2 hnulls).mp h

/-- The policy for empty input does not keep the empty text out: a hyphen that is replaced by
nothing leads to it. -/
theorem not_parse_ne_empty :
    ¬∀ (b : Builder) (t : TextType), b.build = .ok t → ∀ input,
      (t.nulls = .emptyToNull → t.parse input ≠ .ok (some [])) ∧
        (t.nulls = .nullToEmpty → t.parse input ≠ .ok none) ∧
          (t.nulls = .preserve → (t.parse input = .ok none ↔ input = none)) := by
  intro h
  obtain ⟨t, hbuild⟩ := Builder.exists_of_build (b := Builder.captions.withNulls .emptyToNull)
    (by decide +kernel)
  have hruns : (t.nulls, t.parse (some ['-'])) = (.emptyToNull, .ok (some [])) :=
    Builder.eq_of_build hbuild (fun t => (t.nulls, t.parse _)) (by decide +kernel)
  simp only [Prod.mk.injEq] at hruns
  exact (h _ t hbuild (some ['-'])).1 hruns.1 hruns.2

end TextType

end TextTypes
