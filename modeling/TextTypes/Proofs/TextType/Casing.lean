import TextTypes.Proofs.TextType.Conversion
import TextTypes.Proofs.TextType.Drafts
import TextTypes.Proofs.Unicode.Blank
import TextTypes.Proofs.Unicode.Letters

/-!
Casing is done on the value.

Case is mapped as characters are written, before the value is trimmed and past the replacements of
rejected characters. Since no mapping touches white space or U+FFFD, the value is the same as if it
had been cased at the very end. Title case is apart: its capital goes to the first character that
is emitted, and that is the first of the value only if nothing is trimmed off in front of it and
nothing is rejected before it.
-/

namespace TextTypes

open TextTypes.Unicode

namespace CasePolicy

variable {p : CasePolicy}

lemma sparesBlank_image (p : CasePolicy) (first : Bool) (c : Char) :
    Letters.SparesBlank c (p.image first c) := by
  cases p with
  | preserve => exact .inl rfl
  | upper => exact Letters.sparesBlank_upper c
  | lower => exact Letters.sparesBlank_lower c
  | title =>
    cases first with
    | true => exact Letters.sparesBlank_title c
    | false => exact Letters.sparesBlank_lower c

lemma image_replacementChar (p : CasePolicy) (first : Bool) :
    p.image first TextType.replacementChar = [TextType.replacementChar] := by
  have hupper : Letters.upper TextType.replacementChar = [TextType.replacementChar] := by
    decide +kernel
  have hlower : Letters.lower TextType.replacementChar = [TextType.replacementChar] := by
    decide +kernel
  have htitle : Letters.title TextType.replacementChar = [TextType.replacementChar] := by
    decide +kernel
  cases p with
  | preserve => rfl
  | upper => rw [image, hupper]
  | lower => rw [image, hlower]
  | title =>
    cases first with
    | true => rw [image, if_pos rfl, htitle]
    | false => rw [image, if_neg Bool.false_ne_true, hlower]

/-- White space leaves white space in an image, and anything else leaves something visible. -/
lemma exists_mem_images (p : CasePolicy) (first : Bool) {s : List Char} {c : Char} (h : c ∈ s) :
    ∃ d ∈ p.images first s, isBlank d = isBlank c := by
  induction s generalizing first with
  | nil => cases h
  | cons e rest ih =>
    rcases List.mem_cons.mp h with rfl | h
    · have himage := p.sparesBlank_image first c
      obtain ⟨d, hd⟩ := List.exists_mem_of_ne_nil _ himage.ne_nil
      exact ⟨d, List.mem_append_left _ hd, himage.isBlank_eq hd⟩
    · obtain ⟨d, hd, hblank⟩ := ih false h
      exact ⟨d, List.mem_append_right _ hd, hblank⟩

/-! ### Casing and trimming -/

/-- The first character may be trimmed off, and then no other one opens the text. -/
lemma trimStart_images (first : Bool) (s : List Char) :
    trimStart (p.images first s) = p.images (first && !s.head?.any isBlank) (trimStart s) := by
  induction s generalizing first with
  | nil => rfl
  | cons c rest ih =>
    -- white space is its own image, and the image of anything else begins with something visible
    by_cases hc : isBlank c = true
    · rw [images, (p.sparesBlank_image first c).eq_singleton hc, List.singleton_append]
      unfold trimStart at ih ⊢
      rw [List.dropWhile_cons_of_pos hc, List.dropWhile_cons_of_pos hc, ih]
      simp [hc]
    · rw [Bool.not_eq_true] at hc
      have hstart : trimStart (c :: rest) = c :: rest := List.dropWhile_cons_of_neg (by simp [hc])
      have himage := p.sparesBlank_image first c
      obtain ⟨d, more, hd⟩ := List.exists_cons_of_ne_nil himage.ne_nil
      have hblank : isBlank d = false := by
        rw [himage.isBlank_eq (hd ▸ List.mem_cons_self), hc]
      rw [hstart, List.head?_cons, Option.any_some, hc, Bool.not_false, Bool.and_true, images, hd,
        List.cons_append]
      exact List.dropWhile_cons_of_neg (by simp [hblank])

lemma trimEnd_images (first : Bool) (s : List Char) :
    trimEnd (p.images first s) = p.images first (trimEnd s) := by
  simp only [trimEnd_eq_rdropWhile]
  induction s using List.reverseRecOn with
  | nil => rfl
  | append_singleton s c ih =>
    have himage := p.sparesBlank_image (first && s.isEmpty) c
    rw [images_concat]
    by_cases hc : isBlank c = true
    · rw [himage.eq_singleton hc, List.rdropWhile_concat_pos _ _ _ hc,
        List.rdropWhile_concat_pos _ _ _ hc, ih]
    · rw [List.rdropWhile_concat_neg _ _ _ hc, images_concat, List.rdropWhile_eq_self_iff]
      intro hne
      rw [List.getLast_append_of_ne_nil hne himage.ne_nil,
        himage.isBlank_eq (List.getLast_mem himage.ne_nil)]
      exact hc

lemma trim_images (first : Bool) (s : List Char) :
    trim (p.images first s) = p.images (first && !s.head?.any isBlank) (trim s) := by
  rw [trim, trimStart_images, trimEnd_images]
  rfl

lemma images_eq_flatMap {f : Char → List Char} (h : ∀ first c, p.image first c = f c)
    (first : Bool) (s : List Char) : p.images first s = s.flatMap f := by
  induction s generalizing first with
  | nil => rfl
  | cons c rest ih => rw [images, h, ih, List.flatMap_cons]

end CasePolicy

namespace TextType

/-! ### Drafts -/

/-- How many characters are rejected before one is written. -/
def lead (es : List Emission) : Nat := (es.takeWhile fun e => e.rejection?.isSome).length

/-- Once a character has been written, nothing that is spelled depends on the place. -/
lemma spell_false (p : CasePolicy) (first : Bool) (es : List Emission) :
    spell p false es = p.images false (spell .preserve first es) := by
  induction es generalizing first with
  | nil => rfl
  | cons e rest ih =>
    cases e with
    | write c =>
      rw [spell, spell, ih false]
      rfl
    | reject fault c index =>
      rw [spell, spell, ih first, CasePolicy.images, CasePolicy.image_replacementChar]
      rfl

/-- What emissions spell is cased from the first written character on. -/
lemma exists_spell (es : List Emission) : ∃ u, ∀ p : CasePolicy,
    spell p true es = List.replicate (lead es) replacementChar ++ p.images true u := by
  induction es with
  | nil => exact ⟨[], fun p => rfl⟩
  | cons e rest ih =>
    cases e with
    | write c =>
      refine ⟨c :: spell .preserve false rest, fun p => ?_⟩
      rw [spell, spell_false p false rest]
      rfl
    | reject fault c index =>
      obtain ⟨u, hu⟩ := ih
      exact ⟨u, fun p => by rw [spell, hu p]; rfl⟩

variable {t : TextType}

variable (t) in
/-- The same type with another case policy. -/
def withCase (p : CasePolicy) : TextType := { t with case := p }

lemma emitted_withCase (p : CasePolicy) (input : Option (List Char)) :
    (t.withCase p).emitted input = t.emitted input :=
  emitted_congr (t := t.withCase p) (u := t) rfl rfl rfl rfl input

lemma draft_withCase (p : CasePolicy) (input : Option (List Char)) :
    (t.withCase p).draft input = spell p true (t.emitted input) :=
  congrArg (spell p true) (t.emitted_withCase p input)

variable (t) in
/-- Whether the first character of the draft is still there when the value is settled: a type that
collapses white space trims it off. -/
def opens (input : Option (List Char)) : Bool :=
  !(t.whitespace.collapses && (spell .preserve true (t.emitted input)).head?.any isBlank)

/-- A settled draft is cased from the first written character on, if that is still there. -/
lemma settle_images (p : CasePolicy) (k : Nat) (u : List Char) :
    let draft := List.replicate k replacementChar ++ u
    (t.settle draft).take k = List.replicate k replacementChar ∧
      t.settle (List.replicate k replacementChar ++ p.images true u) =
        (t.settle draft).take k ++
          p.images (!(t.whitespace.collapses && draft.head?.any isBlank))
            ((t.settle draft).drop k) := by
  have hvisible : ∀ c ∈ List.replicate k replacementChar, isBlank c = false := by
    intro c hc
    rw [List.eq_of_mem_replicate hc]
    decide
  have hlength : (List.replicate k replacementChar).length = k := List.length_replicate
  unfold settle
  cases t.whitespace.collapses with
  | false => simp [List.take_left' hlength, List.drop_left' hlength]
  | true =>
    -- U+FFFD in front holds up the trimming at the start
    cases k with
    | zero => simp [CasePolicy.trim_images]
    | succ k =>
      have hne : List.replicate (k + 1) replacementChar ≠ [] := List.cons_ne_nil _ _
      have hhead : (List.replicate (k + 1) replacementChar ++ u).head?.any isBlank = false := by
        rw [List.replicate_succ, List.cons_append, List.head?_cons, Option.any_some]
        decide
      simp only [if_true]
      rw [hhead, trim_append hvisible hne, trim_append hvisible hne, List.take_left' hlength,
        List.drop_left' hlength, CasePolicy.trimEnd_images]
      exact ⟨rfl, rfl⟩

/-! ### Values -/

/-- Nothing is asked of a value as a whole. -/
structure Unchecked (t : TextType) : Prop where
  minSize : t.minSize = 0
  maxSize : t.maxSize = none
  pattern : t.pattern = none
  validator : t.validator = none

namespace Unchecked

variable (ht : t.Unchecked)

include ht

lemma check (v : List Char) : t.check v = .ok () := by
  unfold TextType.check check.checkCustom
  rw [ht.minSize, if_neg (Nat.not_lt_zero _), ht.pattern, ht.validator]

lemma parseLenient_withCase (p : CasePolicy) {s : List Char}
    (hs : (t.normal.apply s).all isBlank = false) :
    (t.withCase p).parseLenient (some s) =
      .ok (some (t.settle ((t.withCase p).draft (some s))), rejectionsOf (t.emitted (some s))) := by
  have hp : (t.withCase p).Unchecked := ⟨ht.minSize, ht.maxSize, ht.pattern, ht.validator⟩
  rw [parseLenient_eq (t := t.withCase p) hs, hp.maxSize, hp.check, emitted_withCase]
  rfl

/-- Two case policies differ in the values alone, and there as they do in the settled drafts. -/
lemma parse_withCase {p : CasePolicy} {input : Option (List Char)} {f : List Char → List Char}
    (hnil : f [] = []) (hf : t.settle ((t.withCase p).draft input) =
      f (t.settle ((t.withCase .preserve).draft input))) :
    (t.withCase p).parse input = ((t.withCase .preserve).parse input).map (Option.map f) ∧
      (t.withCase p).parseLenient input =
        ((t.withCase .preserve).parseLenient input).map (Prod.map (Option.map f) id) := by
  obtain ⟨a, rs, hpreserve, hcased⟩ : ∃ a rs,
      (t.withCase .preserve).parseLenient input = .ok (a, rs) ∧
        (t.withCase p).parseLenient input = .ok (a.map f, rs) := by
    rcases t.resolves_or input with hblank | ⟨s, rfl, hs⟩
    · obtain ⟨a, ha, hread⟩ := hblank.read
      have hmap : a.map f = a := by
        cases a with
        | none => rfl
        | some v => rw [Option.map_some, ha v rfl, hnil]
      have hlenient : ∀ p, (t.withCase p).parseLenient input = .ok (a, []) := fun p =>
        hread (t.withCase p) rfl rfl .lenient
      exact ⟨a, [], hlenient .preserve, by rw [hlenient, hmap]⟩
    · refine ⟨_, _, ht.parseLenient_withCase .preserve hs, ?_⟩
      rw [ht.parseLenient_withCase p hs, hf]
      rfl
  -- the strict readings follow from the lenient ones, since both note the same
  rw [hpreserve, hcased, parse_of_parseLenient hpreserve, parse_of_parseLenient hcased]
  cases rs <;> exact ⟨rfl, rfl⟩

end Unchecked

/-- A configuration that asks nothing of a value as a whole leads to a type that does not either. -/
lemma Builder.unchecked_of_build {b : Builder} (h : b.build = .ok t) (hmin : b.minSize = 0)
    (hmax : b.maxSize = none) (hpattern : b.pattern = none) (hvalidator : b.validator = none) :
    t.Unchecked := by
  obtain ⟨-, pattern, accepted, converter, hread, -, -, rfl⟩ := build_eq_ok_iff.mp h
  rw [readPattern, hpattern] at hread
  exact ⟨hmin, hmax, (Except.ok.inj hread).symm, hvalidator⟩

/-- Where a character has one image, wherever it stands, the value is cased as a whole. -/
lemma settle_flatMap {p : CasePolicy} {f : Char → List Char} (hf : ∀ first c, p.image first c = f c)
    (input : Option (List Char)) : t.settle ((t.withCase p).draft input) =
      (t.settle ((t.withCase .preserve).draft input)).flatMap f := by
  have hspell : ∀ es, spell p true es = spell p false es := by
    intro es
    induction es with
    | nil => rfl
    | cons e rest ih =>
      cases e with
      | write c => rw [spell, spell, hf, hf]
      | reject fault c index => rw [spell, spell, ih]
  have hsettle : ∀ s, t.settle (p.images false s) = p.images false (t.settle s) := by
    intro s
    unfold settle
    split
    · rw [CasePolicy.trim_images, Bool.false_and]
    · rfl
  rw [draft_withCase, draft_withCase, hspell, spell_false p true, hsettle,
    CasePolicy.images_eq_flatMap hf]

/-- **Upper and lower case are put on the value.** Where nothing is asked of a value as a whole, the
two readings in upper case come to what they come to with case as it is, with the upper-case image
of each character in its place, and likewise in lower case. What is rejected is the same. -/
theorem parse_upper_lower (ht : t.Unchecked) (input : Option (List Char)) :
    ((t.withCase .upper).parse input =
        ((t.withCase .preserve).parse input).map (Option.map (·.flatMap Letters.upper)) ∧
      (t.withCase .upper).parseLenient input =
        ((t.withCase .preserve).parseLenient input).map
          (Prod.map (Option.map (·.flatMap Letters.upper)) id)) ∧
    ((t.withCase .lower).parse input =
        ((t.withCase .preserve).parse input).map (Option.map (·.flatMap Letters.lower)) ∧
      (t.withCase .lower).parseLenient input =
        ((t.withCase .preserve).parseLenient input).map
          (Prod.map (Option.map (·.flatMap Letters.lower)) id)) :=
  ⟨ht.parse_withCase rfl (settle_flatMap (fun _ _ => rfl) input),
    ht.parse_withCase rfl (settle_flatMap (fun _ _ => rfl) input)⟩

/-- Headlines: letters without hyphens, and no two blanks side by side. -/
def Builder.headlines : Builder :=
  { ((((({} : Builder).acceptRange 0x41 0x5A).acceptRange 0x61 0x7A).acceptChars ['ß']).convertChar
      '-' []) with
    whitespace := .collapse
    normal := .preserve }

lemma Builder.exists_headlines : ∃ t, headlines.build = .ok t ∧ t.Unchecked := by
  obtain ⟨t, h⟩ := exists_of_build (b := headlines) (by decide +kernel)
  exact ⟨t, h, unchecked_of_build h rfl rfl rfl rfl⟩

/-- A blank is trimmed off in front, one letter becomes two, and a quote is rejected. -/
theorem parse_upper_lower_headlines :
    ∃ t, Builder.headlines.build = .ok t ∧ t.Unchecked ∧
      (t.withCase .upper).parse (some "- Straße".toList) = .ok (some "STRASSE".toList) ∧
      (t.withCase .lower).parseLenient (some "- ß\" -X".toList) =
        .ok (some "ß\ufffd x".toList, [⟨0x22, 3, .invalid .quote⟩]) := by
  obtain ⟨t, hbuild, ht⟩ := Builder.exists_headlines
  obtain ⟨⟨hupper, -⟩, -⟩ := parse_upper_lower ht (some "- Straße".toList)
  obtain ⟨-, -, hlower⟩ := parse_upper_lower ht (some "- ß\" -X".toList)
  have hparse : (t.withCase .preserve).parse (some "- Straße".toList) =
      .ok (some "Straße".toList) :=
    Builder.eq_of_build hbuild (fun t => (t.withCase .preserve).parse _) (by decide +kernel)
  have hlenient : (t.withCase .preserve).parseLenient (some "- ß\" -X".toList) =
      .ok (some "ß\ufffd X".toList, [⟨0x22, 3, .invalid .quote⟩]) :=
    Builder.eq_of_build hbuild (fun t => (t.withCase .preserve).parseLenient _) (by decide +kernel)
  rw [hparse] at hupper
  rw [hlenient] at hlower
  exact ⟨t, hbuild, ht, hupper.trans (by decide +kernel), hlower.trans (by decide +kernel)⟩

/-- A text in title case behind its first `k` characters; `opens` tells whether it has a capital. -/
def titled (k : Nat) (opens : Bool) (v : List Char) : List Char :=
  v.take k ++ CasePolicy.title.images opens (v.drop k)

lemma lead_eq_zero {es : List Emission} (h : rejectionsOf es = []) : lead es = 0 := by
  rcases es with _ | ⟨c | ⟨fault, c, index⟩, rest⟩
  · rfl
  · rfl
  · cases h

/-- Replacement characters in front of the first written character are passed over. -/
lemma settle_titled (input : Option (List Char)) :
    (t.settle ((t.withCase .preserve).draft input)).take (lead (t.emitted input)) =
        List.replicate (lead (t.emitted input)) replacementChar ∧
      t.settle ((t.withCase .title).draft input) =
        titled (lead (t.emitted input)) (t.opens input)
          (t.settle ((t.withCase .preserve).draft input)) := by
  obtain ⟨u, hu⟩ := exists_spell (t.emitted input)
  have hplain := hu .preserve
  rw [CasePolicy.images_preserve] at hplain
  rw [draft_withCase, draft_withCase, hu .title, opens, hplain]
  exact t.settle_images .title _ u

/-- **Title case goes to the first character that is emitted.** Where nothing is asked of a value as
a whole, the two readings in title case come to what they come to with case as it is, but for the
letters. In a value of the strict reading, the first character is in title case and the others in
lower case; if white space was emitted first and trimmed off, all are in lower case. In a value of
the lenient reading, the replacements of what is rejected before the first character emitted are
passed over. -/
theorem parse_title (ht : t.Unchecked) (input : Option (List Char)) :
    (t.withCase .title).parse input =
        ((t.withCase .preserve).parse input).map
          (Option.map (CasePolicy.title.images (t.opens input))) ∧
      (t.withCase .title).parseLenient input =
        ((t.withCase .preserve).parseLenient input).map
          (Prod.map (Option.map (titled (lead (t.emitted input)) (t.opens input))) id) ∧
      ∀ v rs, (t.withCase .preserve).parseLenient input = .ok (some v, rs) →
        v.take (lead (t.emitted input)) =
          List.replicate (lead (t.emitted input)) replacementChar := by
  obtain ⟨hlead, hsettle⟩ := t.settle_titled input
  have hnil : titled (lead (t.emitted input)) (t.opens input) [] = [] := by
    rw [titled, List.take_nil, List.drop_nil]
    rfl
  obtain ⟨hparse, hlenient⟩ := ht.parse_withCase hnil hsettle
  refine ⟨?_, hlenient, fun v rs hv => ?_⟩
  · rw [hparse]
    rcases hresult : (t.withCase .preserve).parse input with e | a
    · rfl
    · have hnone := rejectionsOf_of_parse hresult
      rw [emitted_withCase] at hnone
      rw [lead_eq_zero hnone]
      rfl
  · rcases t.resolves_or input with hblank | ⟨s, rfl, hs⟩
    · rw [hblank.emitted]
      rfl
    · obtain ⟨rfl, -⟩ := parseLenient_eq_ok (t := t.withCase .preserve) hs hv
      exact hlead

/-- A title in which the first blank is trimmed off, and one behind a rejected quote. -/
theorem parse_title_headlines :
    ∃ t, Builder.headlines.build = .ok t ∧ t.Unchecked ∧
      (t.withCase .title).parse (some "-ßAB - cd".toList) = .ok (some "Ssab cd".toList) ∧
      (t.withCase .title).parse (some "- aB".toList) = .ok (some "ab".toList) ∧
      (t.withCase .title).parseLenient (some "\"aB".toList) =
        .ok (some "\ufffdAb".toList, [⟨0x22, 0, .invalid .quote⟩]) := by
  obtain ⟨t, hbuild, ht⟩ := Builder.exists_headlines
  have htitle := (parse_title ht (some "-ßAB - cd".toList)).1
  have hplain := (parse_title ht (some "- aB".toList)).1
  have hlenient := (parse_title ht (some "\"aB".toList)).2.1
  have hfirst : ((t.withCase .preserve).parse (some "-ßAB - cd".toList),
      t.opens (some "-ßAB - cd".toList)) = (.ok (some "ßAB cd".toList), true) :=
    Builder.eq_of_build hbuild (fun t => ((t.withCase .preserve).parse _, t.opens _))
      (by decide +kernel)
  have hsecond : ((t.withCase .preserve).parse (some "- aB".toList),
      t.opens (some "- aB".toList)) = (.ok (some "aB".toList), false) :=
    Builder.eq_of_build hbuild (fun t => ((t.withCase .preserve).parse _, t.opens _))
      (by decide +kernel)
  have hthird : ((t.withCase .preserve).parseLenient (some "\"aB".toList),
      t.opens (some "\"aB".toList), lead (t.emitted (some "\"aB".toList))) =
        (.ok (some "\ufffdaB".toList, [⟨0x22, 0, .invalid .quote⟩]), true, 1) :=
    Builder.eq_of_build hbuild
      (fun t => ((t.withCase .preserve).parseLenient _, t.opens _, lead (t.emitted _)))
      (by decide +kernel)
  simp only [Prod.mk.injEq] at hfirst hsecond hthird
  rw [hfirst.1, hfirst.2] at htitle
  rw [hsecond.1, hsecond.2] at hplain
  rw [hthird.1, hthird.2.1, hthird.2.2] at hlenient
  exact ⟨t, hbuild, ht, htitle.trans (by decide +kernel), hplain.trans (by decide +kernel),
    hlenient.trans (by decide +kernel)⟩

/-- The first character of a value need not be in title case: a blank has been there before it, or
something rejected has. -/
theorem not_titled_headlines :
    ∃ t, Builder.headlines.build = .ok t ∧ t.Unchecked ∧
      ((t.withCase .preserve).parse (some "- ab".toList) = .ok (some "ab".toList) ∧
        (t.withCase .title).parse (some "- ab".toList) = .ok (some "ab".toList) ∧
        CasePolicy.title.images true "ab".toList = "Ab".toList) ∧
      (t.withCase .preserve).parseLenient (some "\"ab".toList) =
          .ok (some "\ufffdab".toList, [⟨0x22, 0, .invalid .quote⟩]) ∧
        (t.withCase .title).parseLenient (some "\"ab".toList) =
          .ok (some "\ufffdAb".toList, [⟨0x22, 0, .invalid .quote⟩]) ∧
        CasePolicy.title.images true "\ufffdab".toList = "\ufffdab".toList := by
  obtain ⟨t, hbuild, ht⟩ := Builder.exists_headlines
  refine ⟨t, hbuild, ht, ⟨?_, ?_, by decide +kernel⟩, ?_, ?_, by decide +kernel⟩
  · exact Builder.eq_of_build hbuild (fun t => (t.withCase .preserve).parse _) (by decide +kernel)
  · exact Builder.eq_of_build hbuild (fun t => (t.withCase .title).parse _) (by decide +kernel)
  · exact Builder.eq_of_build hbuild (fun t => (t.withCase .preserve).parseLenient _)
      (by decide +kernel)
  · exact Builder.eq_of_build hbuild (fun t => (t.withCase .title).parseLenient _)
      (by decide +kernel)

end TextType

end TextTypes
