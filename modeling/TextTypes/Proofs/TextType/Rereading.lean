import TextTypes.Proofs.Codes
import TextTypes.Proofs.TextType.Nulls
import TextTypes.Proofs.TextType.Spacing

/-!
Reading a value again.

Without replacements, a value is in a form that reading leaves as it is: its characters stay, its
white space is where it may be, its case is that of the policy, and it passes the checks. For that,
the image of an accepted character has to be accepted too, and to be its own image.
-/

namespace TextTypes

open TextTypes.Unicode

/-! ### Cases -/

/-- A Latin letter in its other case. -/
def swapCase (c : Char) : Char := if c.isUpper then c.toLower else c.toUpper

/-- A set of ASCII characters that has no letter in one case only. -/
structure CodeSet.CaseClosed (accepted : CodeSet) : Prop where
  ascii : ∀ c, accepted.containsChar c = true → c.toNat < 0x80
  swap : ∀ c, accepted.containsChar c = true → accepted.containsChar (swapCase c) = true

namespace CasePolicy

/-- The image of an ASCII character is that character in one of its cases, and its own image. -/
lemma images_ascii : ((List.range 0x80).map Char.ofNat).all (fun c =>
    [preserve, upper, lower, title].all fun p => [true, false].all fun first =>
      [c, swapCase c].any fun d => p.image first c == [d] && p.image first d == [d]) = true := by
  decide +kernel

lemma exists_image_of_ascii (p : CasePolicy) (first : Bool) {c : Char} (hc : c.toNat < 0x80) :
    ∃ d ∈ [c, swapCase c], p.image first c = [d] ∧ p.image first d = [d] := by
  have hmem : c ∈ (List.range 0x80).map Char.ofNat :=
    List.mem_map.mpr ⟨c.toNat, List.mem_range.mpr hc, Char.ofNat_toNat c⟩
  have hpolicy := List.all_eq_true.mp (List.all_eq_true.mp images_ascii c hmem) p
    (by cases p <;> simp)
  have h := List.all_eq_true.mp hpolicy first (by cases first <;> simp)
  simpa only [List.any_eq_true, Bool.and_eq_true, beq_iff_eq] using h

end CasePolicy

/-- Null stands for null and the empty text for itself, wherever a policy leads to them. -/
lemma NullPolicy.resolved (p : NullPolicy) : ∀ r ∈ [p.absent, p.blank],
    r = none ∧ p.absent = none ∨ r = some [] ∧ p.blank = some [] := by
  cases p <;> decide

namespace TextType

variable {t : TextType}

/-! ### Characters that stay -/

/-- Neither acceptance nor white space makes anything else of a character. -/
def Stays (t : TextType) (c : Char) : Prop :=
  isBlank c = true ∧ (t.whitespace = .preserve ∨ t.whitespace = .collapse) ∨
    t.accepted.containsChar c = true ∧ (isBlank c = true → t.whitespace.substitute? = some c)

namespace Stays

variable {c : Char} (h : t.Stays c)

include h

lemma accepted (hc : isBlank c = false) : t.accepted.containsChar c = true := by
  rcases h with ⟨hblank, -⟩ | ⟨haccepted, -⟩
  · rw [hc] at hblank
    cases hblank
  · exact haccepted

lemma emit_eq (hc : isBlank c = false) (index : Nat) : t.emit c index = .write c :=
  if_pos (h.accepted hc)

/-- White space that stays is written, unless a type that collapses it is in a run. -/
lemma emitBlank_eq (hc : isBlank c = true) {inRun : Bool}
    (hrun : t.whitespace.collapses = true → inRun = false) (index : Nat) :
    t.emitBlank inRun c index = [.write c] := by
  unfold emitBlank
  rcases h with ⟨-, hpolicy | hpolicy⟩ | ⟨haccepted, hsubstitute⟩
  · rw [hpolicy]
  · rw [hrun (by rw [hpolicy]; rfl), hpolicy]
    rfl
  · have hemit : t.emit c index = .write c := if_pos haccepted
    have hsub := hsubstitute hc
    cases hpolicy : t.whitespace with
    | substitute s =>
      rw [hpolicy] at hsub
      obtain rfl : s = c := Option.some.inj hsub
      exact congrArg ([·]) hemit
    | collapseTo s =>
      rw [hpolicy] at hsub
      obtain rfl : s = c := Option.some.inj hsub
      rw [hrun (by rw [hpolicy]; rfl)]
      exact congrArg ([·]) hemit
    | _ => simp [hpolicy, WhitespacePolicy.substitute?] at hsub

/-- The image of a character that stays is one that stays, and its own image. -/
lemma exists_image (hcase : t.case = .preserve ∨ t.accepted.CaseClosed) (first : Bool) :
    ∃ d, t.Stays d ∧ t.case.image first c = [d] ∧ t.case.image first d = [d] := by
  rcases hcase with hcase | hclosed
  · rw [hcase]
    exact ⟨c, h, rfl, rfl⟩
  cases hc : isBlank c with
  | true =>
    have himage := (t.case.sparesBlank_image first c).eq_singleton hc
    exact ⟨c, h, himage, himage⟩
  | false =>
    have haccepted := h.accepted hc
    obtain ⟨d, hd, hc', hd'⟩ := t.case.exists_image_of_ascii first (hclosed.ascii c haccepted)
    have hvisible : isBlank d = false := by
      rw [(t.case.sparesBlank_image first c).isBlank_eq (hc' ▸ List.mem_singleton_self d), hc]
    refine ⟨d, .inr ⟨?_, fun hb => ?_⟩, hc', hd'⟩
    · rcases List.mem_cons.mp hd with rfl | hd
      · exact haccepted
      · rw [List.mem_singleton.mp hd]
        exact hclosed.swap c haccepted
    · rw [hvisible] at hb
      cases hb

end Stays

/-- The image of what stays is something that stays, and its own image. -/
lemma stays_images (hcase : t.case = .preserve ∨ t.accepted.CaseClosed) {s : List Char}
    (h : ∀ c ∈ s, t.Stays c) (first : Bool) :
    (∀ d ∈ t.case.images first s, t.Stays d) ∧
      t.case.images first (t.case.images first s) = t.case.images first s := by
  induction s generalizing first with
  | nil => exact ⟨by simp [CasePolicy.images], rfl⟩
  | cons c rest ih =>
    obtain ⟨hc, hrest⟩ := List.forall_mem_cons.mp h
    obtain ⟨d, hd, himage, hfixed⟩ := hc.exists_image hcase first
    obtain ⟨hstays, himages⟩ := ih hrest false
    rw [CasePolicy.images, himage, List.singleton_append, CasePolicy.images, hfixed, himages]
    exact ⟨List.forall_mem_cons.mpr ⟨hd, hstays⟩, rfl⟩

/-! ### Texts without replacements -/

section Kept

variable {s sources : List Char} {offset : Nat}

/-- What stays is emitted, as long as runs are as the policy wants them. -/
lemma emissions_of_stays (inRun : Bool) (index : Nat) (h : ∀ c ∈ s, t.Stays c)
    (hchain : t.whitespace.collapses = true →
      s.IsChain Apart ∧ (inRun = true → ∀ c ∈ s.head?, isBlank c = false)) :
    t.emissions offset inRun ((s.zipIdx index).map fun e => .kept e.2 e.1) = s.map .write := by
  induction s generalizing inRun index with
  | nil => rfl
  | cons c rest ih =>
    obtain ⟨hc, hrest⟩ := List.forall_mem_cons.mp h
    rw [List.zipIdx_cons, List.map_cons, emissions]
    cases hblank : isBlank c with
    | true =>
      have hrun : t.whitespace.collapses = true → inRun = false := fun hcollapses => by
        rw [← Bool.not_eq_true]
        intro hrun
        rw [(hchain hcollapses).2 hrun c rfl] at hblank
        cases hblank
      have hnext := ih true (index + 1) hrest fun hcollapses => by
        -- what follows white space is visible
        obtain ⟨hneighbours, hlater⟩ := List.isChain_cons.mp (hchain hcollapses).1
        refine ⟨hlater, fun _ d hd => (hneighbours d hd).resolve_left ?_⟩
        simp [hblank]
      rw [if_pos rfl, hc.emitBlank_eq hblank hrun, hnext]
      rfl
    | false =>
      have hnext := ih false (index + 1) hrest fun hcollapses =>
        ⟨(List.isChain_cons.mp (hchain hcollapses).1).2, by rintro ⟨⟩⟩
      rw [if_neg Bool.false_ne_true, hc.emit_eq hblank, hnext]
      rfl

lemma replaced_notMem_kept {i index : Nat} {source r : List Char} :
    .replaced i source r ∉ (s.zipIdx index).map fun e => Converter.Piece.kept e.2 e.1 := by
  intro hr
  obtain ⟨e, -, he⟩ := List.mem_map.mp hr
  cases he

lemma emissions_concat {c : Char} (hc : isBlank c = false) (i : Nat) (inRun : Bool)
    (pieces : List Converter.Piece) :
    t.emissions offset inRun (pieces ++ [.kept i c]) =
      t.emissions offset inRun pieces ++ [t.emit c (offset + i)] := by
  induction pieces generalizing inRun with
  | nil => simp [emissions, hc]
  | cons piece rest ih =>
    cases piece with
    | replaced j source r => rw [List.cons_append, emissions, emissions, ih, List.append_assoc]
    | kept j d =>
      rw [List.cons_append, emissions, emissions]
      split
      · rw [ih, List.append_assoc]
      · rw [ih, List.cons_append]

variable (h : t.emissions offset false (s.zipIdx.map fun e => .kept e.2 e.1) = sources.map .write)

include h

/-- A visible end of a text is written as it is. -/
lemma ends_of_emissions (hhead : ∀ c ∈ s.head?, isBlank c = false)
    (hlast : ∀ c ∈ s.getLast?, isBlank c = false) :
    sources.head? = s.head? ∧ sources.getLast? = s.getLast? := by
  rcases eq_or_ne s [] with rfl | hne
  · obtain rfl : sources = [] := List.map_eq_nil_iff.mp h.symm
    exact ⟨rfl, rfl⟩
  constructor
  · obtain ⟨c, rest, rfl⟩ := List.exists_cons_of_ne_nil hne
    rw [List.zipIdx_cons, List.map_cons, emissions, hhead c rfl, if_neg Bool.false_ne_true] at h
    obtain ⟨d, later, rfl, hd, -⟩ := List.map_eq_cons_iff.mp h.symm
    obtain rfl : c = d := (emit_eq_write hd.symm).1
    rfl
  · obtain ⟨front, c, rfl⟩ := List.eq_nil_or_concat s |>.resolve_left hne
    have hc := hlast c (by simp)
    rw [List.concat_eq_append, List.zipIdx_append, List.map_append, List.zipIdx_singleton,
      List.map_singleton, emissions_concat hc] at h
    obtain ⟨before, later, rfl, -, hlater⟩ := List.map_eq_append_iff.mp h.symm
    obtain ⟨d, rfl, hd⟩ := List.map_eq_singleton_iff.mp hlater
    rw [(emit_eq_write hd.symm).1]
    simp

/-- What is written stays, and stands apart where white space is collapsed. -/
lemma stays_of_emissions : ∀ c ∈ sources, t.Stays c := by
  intro c hc
  have hmem : Emission.write c ∈ sources.map .write := List.mem_map_of_mem hc
  rw [← h] at hmem
  refine (write_mem_emissions hmem).resolve_left ?_
  rintro ⟨i, source, r, hr, -⟩
  exact replaced_notMem_kept hr

lemma isChain_of_emissions (hspace : t.whitespace.collapses = true) :
    (t.case.images true sources).IsChain Apart := by
  have hspell : ∀ first, spell t.case first (sources.map .write) = t.case.images first sources := by
    clear h
    induction sources with
    | nil => exact fun first => rfl
    | cons c rest ih => exact fun first => congrArg (t.case.image first c ++ ·) (ih false)
  have hkept : ∀ i source r, .replaced i source r ∈
      (s.zipIdx.map fun e => Converter.Piece.kept e.2 e.1) → ∀ c ∈ r, isBlank c = false :=
    fun _ _ _ hr => absurd hr replaced_notMem_kept
  have hchain := (isChain_emissions hkept hspace t.case true offset false).1
  rwa [h, hspell] at hchain

end Kept

/-! ### Values -/

/-- A text in the form of a value. -/
structure Settled (t : TextType) (v : List Char) : Prop where
  ne_nil : v ≠ []
  stays : ∀ c ∈ v, t.Stays c
  head : ∀ c ∈ v.head?, isBlank c = false
  last : ∀ c ∈ v.getLast?, isBlank c = false
  apart : t.whitespace.collapses = true → v.IsChain Apart
  cased : t.case.images true v = v
  fits : ∀ m ∈ t.maxSize, v.length ≤ m
  check : t.check v = .ok ()

/-- What absent and blank input is resolved to is resolved to itself. -/
lemma Resolves.parse_eq {input r : Option (List Char)} (hblank : t.Resolves input)
    (h : t.parse input = .ok r) (hnormal : ∀ v ∈ r, t.normal.apply v = v) : t.parse r = .ok r := by
  have hvalue : r ∈ [t.nulls.absent, t.nulls.blank] := by
    cases input with
    | none =>
      obtain rfl := Except.ok.inj h
      simp
    | some s =>
      rw [parse_blank (resolves_some_iff.mp hblank)] at h
      obtain rfl := Except.ok.inj h
      simp
  rcases t.nulls.resolved r hvalue with ⟨rfl, habsent⟩ | ⟨rfl, hempty⟩
  · rw [parse_none, habsent]
  · rw [parse_blank (by rw [hnormal [] rfl]; rfl), hempty]

section Plain

variable (hr : ∀ r, ¬t.converter.IsReplacement r) {v : List Char}

include hr

/-- Reading leaves the form of a value as it is. -/
lemma Settled.parse_eq (h : t.Settled v) (hnormal : t.normal.apply v = v) :
    t.parse (some v) = .ok (some v) := by
  have hvisible : (t.normal.apply v).all isBlank = false := by
    obtain ⟨c, rest, rfl⟩ := List.exists_cons_of_ne_nil h.ne_nil
    rw [hnormal, List.all_cons, h.head c rfl, Bool.false_and]
  have hes : t.emissions (margin (t.normal.apply v)) false
      (t.converter.pieces (trim (t.normal.apply v))) = v.map .write := by
    rw [hnormal, trim_eq_self h.head h.last, Converter.pieces_of_not_isReplacement hr]
    exact emissions_of_stays false 0 h.stays fun hspace => ⟨h.apart hspace, by rintro ⟨⟩⟩
  have hsettle : t.settle (t.case.images true v) = v := by
    rw [h.cased, settle, trim_eq_self h.head h.last, ite_self]
  have hparse := parse_of_emissions hvisible hes (by rw [h.cased]; exact h.fits)
    (by rw [hsettle]; exact h.check)
  rwa [hsettle] at hparse

/-- What a reading finds is in the form of a value. -/
lemma settled_of_parse (hcase : t.case = .preserve ∨ t.accepted.CaseClosed) {s : List Char}
    (hs : (t.normal.apply s).all isBlank = false) (h : t.parse (some s) = .ok (some v)) :
    t.Settled v := by
  obtain ⟨sources, w, hes, hw, hv, hcheck⟩ := parse_eq_ok hs h
  rw [Converter.pieces_of_not_isReplacement hr] at hes
  obtain ⟨hhead, hlast⟩ := ends_of_emissions hes isBlank_head_trim isBlank_getLast_trim
  have hne : sources ≠ [] := by
    rintro rfl
    exact trim_ne_nil hs (List.head?_eq_none_iff.mp hhead.symm)
  -- the ends were visible, so nothing is trimmed off
  have htrim : trim (t.case.images true sources) = t.case.images true sources := by
    rw [CasePolicy.trim_images, trim_eq_self (hhead ▸ isBlank_head_trim)
      (hlast ▸ isBlank_getLast_trim)]
    obtain ⟨c, rest, rfl⟩ := List.exists_cons_of_ne_nil hne
    have hc : isBlank c = false := isBlank_head_trim c hhead.symm
    rw [List.head?_cons, Option.any_some, hc]
    rfl
  obtain rfl : v = t.case.images true sources := by
    rw [hv, hw.written, settle, htrim, ite_self]
  obtain ⟨hstays, hcased⟩ := stays_images hcase (stays_of_emissions hes) true
  refine ⟨?_, hstays, htrim ▸ isBlank_head_trim, htrim ▸ isBlank_getLast_trim,
    isChain_of_emissions hes, hcased, fun m hm => ?_, hcheck⟩
  · obtain ⟨c, hc⟩ := List.exists_mem_of_ne_nil sources hne
    obtain ⟨d, hd, -⟩ := t.case.exists_mem_images true hc
    exact List.ne_nil_of_mem hd
  · rw [← hw.written, List.length_reverse, ← hw.size]
    exact hw.fits m hm

/-- **A value is read as itself.** Take a type that replaces nothing and keeps case as it is, or
accepts ASCII characters only and each letter in both cases. Whatever it finds, it finds again in
what it has found, if normalizing that changes nothing. -/
theorem parse_value (hcase : t.case = .preserve ∨ t.accepted.CaseClosed)
    {input r : Option (List Char)} (h : t.parse input = .ok r)
    (hnormal : ∀ v ∈ r, t.normal.apply v = v) : t.parse r = .ok r := by
  rcases t.resolves_or input with hblank | ⟨s, rfl, hs⟩
  · exact hblank.parse_eq h hnormal
  · obtain ⟨v, rfl⟩ := exists_of_parse_eq_ok hs h
    exact (settled_of_parse hr hcase hs h).parse_eq hr (hnormal v rfl)

end Plain

/-- Letters of either case, the first of them in upper case and the others in lower case. -/
def Builder.titles : Builder :=
  ((Codes.letters 10).withCase .title).withWhitespace .collapse

/-- A letter in its other case is a letter. -/
lemma isLetter_swapCase {c : Char} (h : Codes.IsLetter c) : Codes.IsLetter (swapCase c) := by
  have hall : ∀ n < 0x80, 'A'.toNat ≤ n ∧ n ≤ 'Z'.toNat ∨ 'a'.toNat ≤ n ∧ n ≤ 'z'.toNat →
      let m := (swapCase (Char.ofNat n)).toNat
      'A'.toNat ≤ m ∧ m ≤ 'Z'.toNat ∨ 'a'.toNat ≤ m ∧ m ≤ 'z'.toNat := by decide +kernel
  have hc := hall c.toNat h.bounds.2 h
  rwa [Char.ofNat_toNat] at hc

/-- A configuration without rules leads to a type that replaces nothing. -/
lemma Builder.not_isReplacement_of_build {b : Builder} (h : b.build = .ok t)
    (hconverter : b.converter = {}) (r : List Char) : ¬t.converter.IsReplacement r := by
  obtain ⟨-, pattern, accepted, converter, -, -, hbuild, rfl⟩ := build_eq_ok_iff.mp h
  rw [hconverter] at hbuild
  obtain rfl := Except.ok.inj hbuild
  exact Converter.not_isReplacement_empty

lemma Builder.exists_titles : ∃ t, titles.build = .ok t ∧ t.accepted.CaseClosed := by
  obtain ⟨accepted, hletters, haccepted⟩ := Codes.exists_accepted 10
  refine ⟨{ accepted, converter := .empty, case := .title, whitespace := .collapse, minSize := 10
            maxSize := some 10 }, build_eq_ok_iff.mpr
    ⟨Nat.le_refl 10, none, accepted, .empty, rfl, haccepted, rfl, rfl⟩, fun c hc => ?_,
    fun c hc => ?_⟩
  · exact ((hletters c).mp hc).bounds.2
  · exact (hletters _).mpr (isLetter_swapCase ((hletters c).mp hc))

/-- A title in which the blanks have become one. -/
theorem parse_value_titles :
    ∃ t, Builder.titles.build = .ok t ∧ (∀ r, ¬t.converter.IsReplacement r) ∧
      t.accepted.CaseClosed ∧ t.parse (some "  mIXED \t case ".toList) =
        .ok (some "Mixed case".toList) ∧
      t.normal.apply "Mixed case".toList = "Mixed case".toList ∧
      t.parse (some "Mixed case".toList) = .ok (some "Mixed case".toList) := by
  obtain ⟨t, hbuild, hclosed⟩ := Builder.exists_titles
  have hr := Builder.not_isReplacement_of_build hbuild rfl
  have hparse : t.parse (some "  mIXED \t case ".toList) = .ok (some "Mixed case".toList) :=
    Builder.eq_of_build hbuild (fun t => t.parse _) (by decide +kernel)
  have hnormal : t.normal.apply "Mixed case".toList = "Mixed case".toList :=
    Builder.eq_of_build hbuild (fun t => t.normal.apply _) (by decide +kernel)
  exact ⟨t, hbuild, hr, hclosed, hparse, hnormal,
    parse_value hr (.inr hclosed) hparse (by rintro v ⟨⟩; exact hnormal)⟩

end TextType

end TextTypes
