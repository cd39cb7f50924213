import TextTypes.Proofs.TextType.Building
import TextTypes.Proofs.TextType.Drafts

/-!
The greatest size is a filter.

A type with a greatest size has no values that the type without it does not have. What is held
against the size is the draft: the value together with the white space that is trimmed off it.
-/

namespace TextTypes.TextType

open TextTypes.Unicode

variable {t : TextType}

variable (t) in
/-- The same type with another greatest size. -/
def withMaxSize (maxSize : Option Nat) : TextType := { t with maxSize }

lemma emitted_withMaxSize (maxSize : Option Nat) (input : Option (List Char)) :
    (t.withMaxSize maxSize).emitted input = t.emitted input :=
  emitted_congr (t := t.withMaxSize maxSize) (u := t) rfl rfl rfl rfl input

lemma draft_withMaxSize (maxSize : Option Nat) (input : Option (List Char)) :
    (t.withMaxSize maxSize).draft input = t.draft input :=
  congrArg (spell t.case true) (t.emitted_withMaxSize maxSize input)

/-- The draft is held against the greatest size before anything else. -/
lemma parse_withMaxSize_of_visible {s v : List Char} {m : Nat}
    (hs : (t.normal.apply s).all isBlank = false)
    (h : (t.withMaxSize none).parse (some s) = .ok (some v)) :
    v = t.settle (t.draft (some s)) ∧ (t.withMaxSize (some m)).parse (some s) =
      if (t.draft (some s)).length ≤ m then .ok (some v) else .error (.tooLong m) := by
  have hnone := rejectionsOf_of_parse h
  obtain ⟨hv, -, hcheck⟩ :=
    parseLenient_eq_ok (t := t.withMaxSize none) hs (parseLenient_of_parse h)
  rw [draft_withMaxSize] at hv
  rw [emitted_withMaxSize, ← emitted_withMaxSize (some m)] at hnone
  -- the other checks have been passed without the greatest size
  have hchecked : (t.withMaxSize (some m)).check ((t.withMaxSize (some m)).settle
      (t.draft (some s))) = .ok () := hv ▸ hcheck
  refine ⟨hv, ?_⟩
  rw [parse_eq_parseLenient hnone, parseLenient_eq (t := t.withMaxSize (some m)) hs,
    draft_withMaxSize, hchecked, hv]
  show Except.map _ ((if _ then _ else _ : Except ParseError Unit).bind _) = _
  split <;> rfl

/-- What is settled is the draft without white space at its ends. -/
lemma exists_eq_append_settle (s : List Char) :
    ∃ front back, s = front ++ t.settle s ++ back ∧ (∀ c ∈ front, isBlank c = true) ∧
      (∀ c ∈ back, isBlank c = true) ∧
      (t.whitespace.collapses = false → front = [] ∧ back = []) := by
  unfold settle
  cases t.whitespace.collapses with
  | false => exact ⟨[], [], by simp⟩
  | true =>
    obtain ⟨front, back, hs, hfront, hback⟩ := exists_eq_append_trim s
    exact ⟨front, back, hs, hfront, hback, by simp⟩

/-- **The greatest size is a filter.** Where a text has a value without it, the type with a greatest
size has the same value or refuses it as too long. It is too long if the draft is: the value with
the white space that is trimmed off it, which is none unless the type collapses white space. -/
theorem parse_withMaxSize {input : Option (List Char)} {v : List Char} (m : Nat)
    (h : (t.withMaxSize none).parse input = .ok (some v)) :
    ((t.withMaxSize (some m)).parse input =
      if (t.draft input).length ≤ m then .ok (some v) else .error (.tooLong m)) ∧
    ∃ front back, t.draft input = front ++ v ++ back ∧ (∀ c ∈ front, isBlank c = true) ∧
      (∀ c ∈ back, isBlank c = true) ∧
      (t.whitespace.collapses = false → front = [] ∧ back = []) := by
  rcases t.resolves_or input with hblank | ⟨s, rfl, hs⟩
  · obtain ⟨a, ha, hread⟩ := hblank.read
    have hparse : ∀ maxSize, (t.withMaxSize maxSize).parse input = .ok a := fun maxSize =>
      congrArg (Except.map Prod.fst) (hread (t.withMaxSize maxSize) rfl rfl .strict)
    rw [hparse] at h ⊢
    obtain rfl := Except.ok.inj h
    obtain rfl := ha v rfl
    rw [hblank.draft]
    exact ⟨(if_pos (Nat.zero_le m)).symm, [], [], by simp⟩
  · obtain ⟨rfl, hparse⟩ := parse_withMaxSize_of_visible hs h
    exact ⟨hparse, exists_eq_append_settle _⟩

/-- Captions: small letters without hyphens, and no two blanks side by side. -/
def Builder.captions : Builder :=
  { (({} : Builder).acceptRange 0x61 0x7A).convertChar '-' [] with
    whitespace := .collapse
    normal := .preserve }

/-- The blank in front of a hyphen that is dropped counts, though it is trimmed off. -/
theorem parse_withMaxSize_captions :
    ∃ t, Builder.captions.build = .ok t ∧
      (t.withMaxSize none).parse (some "ab -".toList) = .ok (some "ab".toList) ∧
      (t.withMaxSize (some 3)).parse (some "ab -".toList) = .ok (some "ab".toList) ∧
      (t.withMaxSize (some 2)).parse (some "ab -".toList) = .error (.tooLong 2) := by
  obtain ⟨t, h⟩ := Builder.exists_of_build (b := Builder.captions) (by decide +kernel)
  have hparse : (t.withMaxSize none).parse (some "ab -".toList) = .ok (some "ab".toList) :=
    Builder.eq_of_build h (fun t => (t.withMaxSize none).parse _) (by decide +kernel)
  have hdraft : (t.draft (some "ab -".toList)).length = 3 :=
    Builder.eq_of_build h (fun t => (t.draft _).length) (by decide +kernel)
  have hthree := (parse_withMaxSize 3 hparse).1
  have htwo := (parse_withMaxSize 2 hparse).1
  rw [hdraft] at hthree htwo
  exact ⟨t, h, hparse, hthree, htwo⟩

/-- A value of two characters may be too long for a greatest size of two. -/
theorem not_filtered_captions :
    ∃ t, Builder.captions.build = .ok t ∧
      (t.withMaxSize none).parse (some "ab -".toList) = .ok (some "ab".toList) ∧
      "ab".toList.length ≤ 2 ∧
      (t.withMaxSize (some 2)).parse (some "ab -".toList) = .error (.tooLong 2) := by
  obtain ⟨t, h⟩ := Builder.exists_of_build (b := Builder.captions) (by decide +kernel)
  refine ⟨t, h, ?_, by decide, ?_⟩
  · exact Builder.eq_of_build h (fun t => (t.withMaxSize none).parse _) (by decide +kernel)
  · exact Builder.eq_of_build h (fun t => (t.withMaxSize (some 2)).parse _) (by decide +kernel)

end TextTypes.TextType
