import TextTypes.Proofs.Pattern.Anchors
import TextTypes.Proofs.TextType.Building
import TextTypes.Proofs.TextType.Outputs

/-!
What the pattern of a text type guarantees of its values.
-/

namespace TextTypes.TextType.Builder

open TextTypes.Unicode

variable {b : Builder} {t : TextType} {source s v : List Char}

lemma readAnchored?_of_build (h : b.build = .ok t) (hb : b.pattern = some source) :
    ∃ p, Pattern.readAnchored? source = some p ∧ t.pattern = some (p, source) := by
  obtain ⟨-, pattern, accepted, converter, hpattern, -, -, rfl⟩ := build_eq_ok_iff.mp h
  simp only [readPattern, hb] at hpattern
  split at hpattern
  · rename_i p hp
    cases hpattern
    exact ⟨p, hp, rfl⟩
  · cases hpattern

/-- **A value matches the pattern from end to end**, unless the text of the pattern is none by
itself because of a closing parenthesis that opens no group. -/
theorem matches_of_parse (h : b.build = .ok t) (hb : b.pattern = some source)
    (hs : (t.normal.apply s).all isBlank = false) (hv : t.parse (some s) = .ok (some v)) :
    (∃ w, Pattern.written? source = some w ∧ w.depth ≤ Pattern.nestingLimit ∧
      w.pattern.Matches v 0 v.length) ∨
    (Pattern.written? source = none ∧
      ∃ front back, source = front ++ ')' :: back ∧ (Pattern.written? front).isSome) := by
  obtain ⟨p, hp, ht⟩ := readAnchored?_of_build h hb
  obtain ⟨-, -, -, -, -, hcheck⟩ := parse_eq_ok hs hv
  have found : p.isMatch v = true := (check_eq_ok hcheck).2.1 _ ht
  obtain ⟨i, j, hij⟩ := Pattern.exists_matches_of_isMatch found
  refine (Pattern.written?_of_readAnchored? hp).imp_left ?_
  rintro ⟨w, hw, hdepth, hmatches⟩
  exact ⟨w, hw, hdepth, ((hmatches v i j).mp hij).2.2⟩

/-- Two capital letters and a digit. -/
def plates : Builder :=
  (((({} : Builder).acceptRange 0x41 0x5A).acceptRange 0x30 0x39).withPattern
    "[A-Z]\x7b2\x7d[0-9]".toList)

theorem matches_of_parse_plates :
    ∃ t, plates.build = .ok t ∧ t.parse (some "AB1".toList) = .ok (some "AB1".toList) ∧
      ∃ w, Pattern.written? "[A-Z]\x7b2\x7d[0-9]".toList = some w ∧
        w.pattern.Matches "AB1".toList 0 3 := by
  obtain ⟨t, h⟩ := exists_of_build (b := plates) (by decide +kernel)
  have hruns : (t.parse (some "AB1".toList), (t.normal.apply "AB1".toList).all isBlank) =
      (.ok (some "AB1".toList), false) :=
    eq_of_build h (fun t => (t.parse _, (t.normal.apply _).all isBlank)) (by decide +kernel)
  obtain ⟨hparse, hs⟩ := Prod.mk.inj hruns
  have hsome : (Pattern.written? "[A-Z]\x7b2\x7d[0-9]".toList).isSome = true := by decide +kernel
  rcases matches_of_parse h rfl hs hparse with ⟨w, hw, -, hmatches⟩ | ⟨none, -⟩
  · exact ⟨t, h, hparse, w, hw, hmatches⟩
  · rw [none] at hsome
    cases hsome

/-- A parenthesis that closes the group of the anchors lets a pattern pass that is none, and
values that go on behind what matches. -/
theorem exists_not_written :
    ∃ t, ((({} : Builder).acceptRange 0x61 0x7A).withPattern "a)|(b".toList).build = .ok t ∧
      (t.normal.apply "axyz".toList).all isBlank = false ∧
      t.parse (some "axyz".toList) = .ok (some "axyz".toList) ∧
      Pattern.read? "a)|(b".toList = none := by
  obtain ⟨t, h⟩ := exists_of_build
    (b := (({} : Builder).acceptRange 0x61 0x7A).withPattern "a)|(b".toList) (by decide +kernel)
  have hruns : (t.parse (some "axyz".toList), (t.normal.apply "axyz".toList).all isBlank) =
      (.ok (some "axyz".toList), false) :=
    eq_of_build h (fun t => (t.parse _, (t.normal.apply _).all isBlank)) (by decide +kernel)
  obtain ⟨hparse, hs⟩ := Prod.mk.inj hruns
  exact ⟨t, h, hs, hparse, by decide +kernel⟩

end TextTypes.TextType.Builder
