import Mathlib.Tactic.Common
import TextTypes.Codes
import TextTypes.Proofs.CodeSet.Built
import TextTypes.Proofs.Conversion.Tiling
import TextTypes.Proofs.IntMap.Sequences
import TextTypes.Proofs.TextType.Building
import TextTypes.Proofs.TextType.Conversion
import TextTypes.Proofs.Unicode.Normal

/-!
What codes look like.

A code type accepts Latin letters only and replaces nothing. Each letter has one letter as its
upper case, so a value has the size that is asked for, and capitals all over. Blank input never
gets so far: it leads to the empty text, which none of the checks have seen.
-/

namespace TextTypes

open TextTypes.Unicode

namespace Converter

/-- Without rules, nothing is replaced. -/
lemma not_isReplacement_empty {r : List Char} : ¬empty.IsReplacement r := by
  have hget : ∀ key,
      (SequenceMap.Builder.freeze ({} : SequenceMap.Builder Char)).get? key = none := fun key => by
    rw [SequenceMap.Builder.get?_freeze SequenceMap.Builder.wellFormed_empty,
      SequenceMap.Builder.get?_empty]
  intro h
  cases h with
  | single map key hform h =>
    obtain rfl := Conversion.Form.direct.inj hform
    cases (hget key).symm.trans h
  | sequence trie source rule hform h => cases hform
  | category key h => cases (hget key).symm.trans h

lemma pieces_empty (text : List Char) :
    empty.pieces text = text.zipIdx.map fun e => .kept e.2 e.1 :=
  pieces_of_not_isReplacement (fun _ => not_isReplacement_empty) text

lemma convert_empty (text : List Char) : empty.convert text = text := by
  rw [convert, pieces_empty, List.flatMap_map]
  show text.zipIdx.flatMap (fun e => [e.1]) = text
  rw [← List.map_eq_flatMap, List.zipIdx_map_fst]

end Converter

/-- Without rules, every character of the text has to be let in. -/
lemma TextType.lets_pieces_empty {t : TextType} {text : List Char} :
    (∀ p ∈ Converter.empty.pieces text, t.Lets p) ↔ ∀ c ∈ text, t.Lets (.kept 0 c) := by
  rw [Converter.pieces_empty, List.forall_mem_map]
  constructor
  · intro h c hc
    obtain ⟨e, he, rfl⟩ := List.mem_map.mp ((List.zipIdx_map_fst 0 text).symm ▸ hc)
    exact h e he
  · intro h e he
    exact h e.1 ((List.zipIdx_map_fst 0 text) ▸ List.mem_map_of_mem he)

namespace Codes

/-! ### Letters -/

/-- A letter from A to Z, of either case. -/
def IsLetter (c : Char) : Prop :=
  'A'.toNat ≤ c.toNat ∧ c.toNat ≤ 'Z'.toNat ∨ 'a'.toNat ≤ c.toNat ∧ c.toNat ≤ 'z'.toNat

/-- A fixed number of letters. -/
def IsWord (size : Nat) (text : List Char) : Prop := text.length = size ∧ ∀ c ∈ text, IsLetter c

/-- A fixed number of capital letters. -/
def IsCode (size : Nat) (text : List Char) : Prop :=
  text.length = size ∧ ∀ c ∈ text, 'A' ≤ c ∧ c ≤ 'Z'

section Letter

variable {c : Char} (h : IsLetter c)

include h

lemma IsLetter.bounds : 0x41 ≤ c.toNat ∧ c.toNat < 0x80 := by
  have hA : 'A'.toNat = 0x41 := rfl
  have hZ : 'Z'.toNat = 0x5A := rfl
  have ha : 'a'.toNat = 0x61 := rfl
  have hz : 'z'.toNat = 0x7A := rfl
  unfold IsLetter at h
  omega

lemma IsLetter.not_isBlank : ¬isBlank c = true := by
  have := h.bounds
  simp only [isBlank, Bool.or_eq_true, Bool.and_eq_true, decide_eq_true_eq, beq_iff_eq]
  omega

lemma IsLetter.upper : Letters.upper c = [c.toUpper] := by
  rw [Letters.upper, if_pos h.bounds.2]

lemma IsLetter.toUpper_bounds : 'A' ≤ c.toUpper ∧ c.toUpper ≤ 'Z' := by
  have hall : ∀ n < 0x80, 'A'.toNat ≤ n ∧ n ≤ 'Z'.toNat ∨ 'a'.toNat ≤ n ∧ n ≤ 'z'.toNat →
      'A' ≤ (Char.ofNat n).toUpper ∧ (Char.ofNat n).toUpper ≤ 'Z' := by decide +kernel
  have hc := hall c.toNat h.bounds.2 h
  rwa [Char.ofNat_toNat] at hc

end Letter

lemma images_upper {first : Bool} {s : List Char} (h : ∀ c ∈ s, IsLetter c) :
    CasePolicy.upper.images first s = s.map Char.toUpper := by
  induction s generalizing first with
  | nil => rfl
  | cons c rest ih =>
    obtain ⟨hc, hrest⟩ := List.forall_mem_cons.mp h
    rw [CasePolicy.images, ih hrest, CasePolicy.image, hc.upper, List.map_cons,
      List.singleton_append]

lemma IsWord.isCode {size : Nat} {text : List Char} (h : IsWord size text) :
    IsCode size (text.map Char.toUpper) := by
  refine ⟨by rw [List.length_map, h.1], fun c hc => ?_⟩
  obtain ⟨d, hd, rfl⟩ := List.mem_map.mp hc
  exact (h.2 d hd).toUpper_bounds

/-! ### The types -/

/-- How the accepted set of a code type is configured. -/
def calls : List CodeSet.Builder.Call :=
  [.including (.range 'A'.toNat 'Z'.toNat), .including (.range 'a'.toNat 'z'.toNat)]

/-- What a code type accepts. -/
lemma exists_accepted (size : Nat) :
    ∃ accepted : CodeSet, (∀ c, accepted.containsChar c = true ↔ IsLetter c) ∧
      (letters size).accepted.build = .ok accepted := by
  have hvalid : CodeSet.Builder.firstInvalid? calls = none := by decide
  obtain ⟨r, -, hbuild, hwf, hcontains⟩ := CodeSet.Builder.build_spec hvalid
    (by simp [calls, CodeSet.Builder.Call.item, CodeSet.Builder.Item.set?])
  refine ⟨r.optimised, fun c => ?_, hbuild⟩
  rw [CodeSet.containsChar, CodeSet.contains_of_make? (t := .optimised) hwf rfl,
    hcontains _ (CodePoint.toNat_le_last c), IsLetter]
  simp [calls, CodeSet.Builder.Accepted, CodeSet.Builder.Call.Includes,
    CodeSet.Builder.Call.Excludes, CodeSet.Builder.Item.Has]

/-- What a code type is, whatever it does with absent input. -/
lemma exists_build (size : Nat) (nulls : NullPolicy) :
    ∃ accepted : CodeSet, (∀ c, accepted.containsChar c = true ↔ IsLetter c) ∧
      ((letters size).withNulls nulls).build =
        .ok { accepted, converter := .empty, case := .upper, nulls, minSize := size
              maxSize := some size } := by
  obtain ⟨accepted, hletters, haccepted⟩ := exists_accepted size
  exact ⟨accepted, hletters, TextType.Builder.build_eq_ok_iff.mpr
    ⟨Nat.le_refl size, none, accepted, .empty, rfl, haccepted, rfl, rfl⟩⟩

lemma parse_type_none (size : Nat) (nulls : NullPolicy) :
    (type ((letters size).withNulls nulls)).parse none = .ok nulls.absent := by
  obtain ⟨accepted, -, hbuild⟩ := exists_build size nulls
  rw [type, hbuild]
  rfl

lemma parse_type_blank {s : List Char} (hs : (NormalForm.nfc.apply s).all isBlank = true)
    (size : Nat) (nulls : NullPolicy) :
    (type ((letters size).withNulls nulls)).parse (some s) = .ok nulls.blank := by
  obtain ⟨accepted, -, hbuild⟩ := exists_build size nulls
  rw [type, hbuild, Except.toOption, Option.getD_some]
  simp only [TextType.parse, TextType.read, hs, if_true]
  rfl

/-- **The values of a code type** are the words of the right size, in capitals. -/
theorem parse_type_eq_ok_iff {size : Nat} {nulls : NullPolicy} {s v : List Char}
    (hs : (NormalForm.nfc.apply s).all isBlank = false) :
    (type ((letters size).withNulls nulls)).parse (some s) = .ok (some v) ↔
      IsWord size (trim (NormalForm.nfc.apply s)) ∧
        v = (trim (NormalForm.nfc.apply s)).map Char.toUpper := by
  obtain ⟨accepted, haccepted, hbuild⟩ := exists_build size nulls
  rw [type, hbuild, Except.toOption, Option.getD_some, TextType.parse_eq_ok_iff (.inr rfl) hs,
    Converter.convert_empty, TextType.lets_pieces_empty]
  constructor
  · rintro ⟨hv, hlets, hfits, hcheck⟩
    have hletters : ∀ c ∈ trim (NormalForm.nfc.apply s), IsLetter c := fun c hc => by
      by_cases hblank : isBlank c = true
      · cases (TextType.lets_blank hblank).mp (hlets c hc)
      · exact (haccepted c).mp ((TextType.lets_accepted hblank).mp (hlets c hc))
    have hv : v = (trim (NormalForm.nfc.apply s)).map Char.toUpper :=
      hv.trans (images_upper hletters)
    have hsize : v.length = size :=
      Nat.le_antisymm (hfits size rfl) (TextType.check_eq_ok hcheck).1
    exact ⟨⟨by rw [← hsize, hv, List.length_map], hletters⟩, hv⟩
  · rintro ⟨⟨hsize, hletters⟩, rfl⟩
    have hlength : ((trim (NormalForm.nfc.apply s)).map Char.toUpper).length = size := by
      rw [List.length_map, hsize]
    refine ⟨(images_upper hletters).symm, fun c hc => ?_, fun m hm => ?_, ?_⟩
    · have hc := hletters c hc
      exact (TextType.lets_accepted hc.not_isBlank).mpr ((haccepted c).mpr hc)
    · obtain rfl : size = m := Option.some.inj hm
      exact Nat.le_of_eq hlength
    · rw [TextType.check, if_neg (Nat.not_lt.mpr (Nat.le_of_eq hlength.symm))]
      rfl

/-- A value is a code, unless the input is blank and the policy decides. -/
lemma parse_type_some {size : Nat} {nulls : NullPolicy} {s : List Char} {r : Option (List Char)}
    (h : (type ((letters size).withNulls nulls)).parse (some s) = .ok r) :
    r = nulls.blank ∧ s.all isBlank = true ∨ ∃ v, r = some v ∧ IsCode size v := by
  rcases hs : (NormalForm.nfc.apply s).all isBlank with _ | _
  · obtain ⟨accepted, -, hbuild⟩ := exists_build size nulls
    have hvalue := h
    rw [type, hbuild, Except.toOption, Option.getD_some] at hvalue
    obtain ⟨v, rfl⟩ := TextType.exists_of_parse_eq_ok hs hvalue
    obtain ⟨hword, rfl⟩ := (parse_type_eq_ok_iff hs).mp h
    exact .inr ⟨_, rfl, hword.isCode⟩
  · rw [parse_type_blank hs] at h
    exact .inl ⟨(Except.ok.inj h).symm, NormalForm.all_isBlank_of_nfc hs⟩

/-- **What country codes and airport codes are.** A country code has two capital letters and an
airport code three. Blank input leads to an empty code of either kind, and absent input to an empty
airport code. -/
theorem of_isCode :
    (∀ input c, CountryCode.of input = .ok (some c) →
      c.text = [] ∧ (∃ s ∈ input, s.all isBlank = true) ∨ IsCode 2 c.text) ∧
      ∀ input c, AirportCode.of input = .ok c →
        c.text = [] ∧ (∀ s ∈ input, s.all isBlank = true) ∨ IsCode 3 c.text := by
  refine ⟨fun input c h => ?_, fun input c h => ?_⟩
  · rcases hparse : CountryCode.type.parse input with e | r
    · rw [CountryCode.of, hparse] at h
      cases h
    rw [CountryCode.of, hparse] at h
    obtain ⟨v, rfl, rfl⟩ := Option.map_eq_some_iff.mp (Except.ok.inj h)
    rcases input with _ | s
    · cases (parse_type_none 2 .preserve).symm.trans hparse
    have hparse : (type ((letters 2).withNulls .preserve)).parse (some s) = .ok (some v) := hparse
    rcases parse_type_some hparse with ⟨hr, hblank⟩ | ⟨_, hr, hcode⟩
    · exact .inl ⟨Option.some.inj hr, s, rfl, hblank⟩
    · exact .inr (Option.some.inj hr ▸ hcode)
  · rcases hparse : AirportCode.type.parse input with e | r
    · rw [AirportCode.of, hparse] at h
      cases h
    rw [AirportCode.of, hparse] at h
    obtain rfl : ⟨r.getD []⟩ = c := Except.ok.inj h
    rcases input with _ | s
    · cases (parse_type_none 3 .nullToEmpty).symm.trans hparse
      exact .inl ⟨rfl, by simp⟩
    rcases parse_type_some hparse with ⟨rfl, hblank⟩ | ⟨v, rfl, hcode⟩
    · exact .inl ⟨rfl, by simpa using hblank⟩
    · exact .inr hcode

/-- Letters of either case, with and without blanks around them, and nothing at all. -/
theorem of_isCode_letters :
    CountryCode.of (some " fR\n".toList) = .ok (some ⟨['F', 'R']⟩) ∧ IsCode 2 ['F', 'R'] ∧
      AirportCode.of (some "cdg".toList) = .ok ⟨['C', 'D', 'G']⟩ ∧ IsCode 3 ['C', 'D', 'G'] ∧
      AirportCode.of none = .ok ⟨[]⟩ := by
  have hcountry : CountryCode.of (some " fR\n".toList) = .ok (some ⟨['F', 'R']⟩) := by
    decide +kernel
  have hairport : AirportCode.of (some "cdg".toList) = .ok ⟨['C', 'D', 'G']⟩ := by
    decide +kernel
  refine ⟨hcountry, ?_, hairport, ?_, by decide +kernel⟩
  · exact (of_isCode.1 _ _ hcountry).resolve_left (by simp)
  · exact (of_isCode.2 _ _ hairport).resolve_left (by simp)

/-- Not every country code has two letters: the empty text leads to an empty one. -/
theorem not_isCode_of_blank :
    ¬((∀ input c, CountryCode.of input = .ok (some c) → IsCode 2 c.text) ∧
      ∀ input c, AirportCode.of input = .ok c →
        c.text = [] ∧ (∀ s ∈ input, s.all isBlank = true) ∨ IsCode 3 c.text) := by
  rintro ⟨hcountry, -⟩
  have hof : CountryCode.of (some []) = .ok (some ⟨[]⟩) := rfl
  exact absurd (hcountry _ _ hof).1 (by decide)

end Codes

end TextTypes
