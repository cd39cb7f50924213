import Mathlib.Tactic.Common
import TextTypes.TextType.Builder

/-!
What a build makes of a configuration.

A build fails for the sizes, the pattern, the accepted set or the converter. Everything else goes
into the type as it was configured.
-/

namespace TextTypes.TextType.Builder

variable {b : Builder} {t : TextType}

theorem build_eq_ok_iff :
    b.build = .ok t ↔
      b.minSize ≤ b.sizeLimit ∧ ∃ pattern accepted converter,
        b.readPattern = .ok pattern ∧ b.accepted.build = .ok accepted ∧
          b.converter.build = .ok converter ∧ t = { b with accepted, converter, pattern } := by
  constructor
  · intro h
    unfold build at h
    rcases Nat.lt_or_ge b.sizeLimit b.minSize with hlt | hle
    · rw [if_pos hlt] at h
      cases h
    rw [if_neg (Nat.not_lt.mpr hle)] at h
    rcases hpattern : b.readPattern with e | pattern
    · rw [hpattern] at h
      cases h
    rcases haccepted : b.accepted.build with e | accepted
    · rw [hpattern, haccepted] at h
      cases h
    rcases hconverter : b.converter.build with e | converter
    · rw [hpattern, haccepted, hconverter] at h
      cases h
    rw [hpattern, haccepted, hconverter] at h
    cases h
    exact ⟨hle, pattern, accepted, converter, rfl, rfl, rfl, rfl⟩
  · rintro ⟨hle, pattern, accepted, converter, hpattern, haccepted, hconverter, rfl⟩
    unfold build
    rw [if_neg (Nat.not_lt.mpr hle), hpattern, haccepted, hconverter]
    rfl

lemma exists_of_build (h : b.build.toOption.isSome = true) : ∃ t, b.build = .ok t := by
  rcases hb : b.build with e | t
  · rw [hb] at h
    cases h
  · exact ⟨t, rfl⟩

/-- What is computed from the outcome of a build is computed from the type. -/
lemma eq_of_build {α : Type} (h : b.build = .ok t) (f : TextType → α) {a : α}
    (hf : b.build.toOption.map f = some a) : f t = a := by
  rw [h] at hf
  exact Option.some.inj hf

end TextTypes.TextType.Builder
