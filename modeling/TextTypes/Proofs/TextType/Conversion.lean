import TextTypes.Proofs.TextType.Building
import TextTypes.Proofs.TextType.Outputs

/-!
Types that replace no white space.

Where white space is kept or forbidden, nothing is left out of the converted text and nothing is
added to it. A text has a value if every character that the converter leaves in place is let in,
and if the cased image of the converted text fits and passes the checks; the value is that image.
A type that keeps case as well adds nothing to its converter.
-/

namespace TextTypes

open TextTypes.Unicode

namespace CasePolicy

variable {p : CasePolicy}

lemma images_append (first : Bool) (s u : List Char) :
    p.images first (s ++ u) = p.images first s ++ p.images (first && s.isEmpty) u := by
  induction s generalizing first with
  | nil => simp [images]
  | cons c rest ih => simp [images, ih]

lemma images_preserve (first : Bool) (s : List Char) : preserve.images first s = s := by
  induction s generalizing first with
  | nil => rfl
  | cons c rest ih => rw [images, ih, image, List.singleton_append]

end CasePolicy

namespace TextType

variable {t : TextType}

/-! ### Runs that succeed -/

lemma Writer.exists_put {maxSize : Option Nat} {w : Writer} {s : List Char}
    (h : ∀ m ∈ maxSize, w.size + s.length ≤ m) : ∃ w', put maxSize w s = .ok w' := by
  rw [put_eq fun m hm => Nat.le_trans (Nat.le_add_right _ _) (h m hm), room_of_le h]
  exact ⟨_, rfl⟩

/-- Characters whose image fits can all be written. -/
lemma Writes.exists_run {w : Writer} {sources more : List Char} (hw : t.Writes sources w)
    (h : ∀ m ∈ t.maxSize, (t.case.images true (sources ++ more)).length ≤ m) :
    ∃ w', (more.map .write).foldlM (t.step .strict) w = .ok w' := by
  induction more generalizing w sources with
  | nil => exact ⟨w, rfl⟩
  | cons c rest ih =>
    have hsize : w.size = (t.case.images true sources).length := by
      rw [hw.size, ← hw.written, List.length_reverse]
    have hfits : ∀ m ∈ t.maxSize, w.size + (t.case.image w.first c).length ≤ m := fun m hm => by
      have hm := h m hm
      rw [CasePolicy.images_append, CasePolicy.images, List.length_append, List.length_append,
        Bool.true_and] at hm
      rw [hsize, hw.first]
      omega
    obtain ⟨next, hput⟩ := Writer.exists_put (w := { w with first := false }) hfits
    have hstep : t.step .strict w (.write c) = .ok next := hput
    obtain ⟨d, hd, hnext⟩ := hw.step hstep
    obtain rfl : c = d := Emission.write.inj hd
    obtain ⟨w', hrun⟩ := ih hnext fun m hm => by
      have := h m hm
      rwa [← List.append_cons]
    refine ⟨w', ?_⟩
    rw [List.map_cons, List.foldlM_cons, hstep]
    exact hrun

/-! ### Pieces -/

/-- What is asked of a piece where white space is kept or forbidden: a character that stays in place
is accepted, or it is white space that is kept. -/
def Lets (t : TextType) : Converter.Piece → Prop
  | .kept _ c =>
    if isBlank c then t.whitespace = .preserve else t.accepted.containsChar c = true
  | .replaced .. => True

lemma lets_blank {i : Nat} {c : Char} (h : isBlank c = true) :
    t.Lets (.kept i c) ↔ t.whitespace = .preserve := by
  rw [Lets, if_pos h]

lemma lets_accepted {i : Nat} {c : Char} (h : ¬isBlank c = true) :
    t.Lets (.kept i c) ↔ t.accepted.containsChar c = true := by
  rw [Lets, if_neg h]

lemma emissions_of_lets {offset : Nat} {inRun : Bool} {pieces : List Converter.Piece}
    (h : ∀ p ∈ pieces, t.Lets p) :
    t.emissions offset inRun pieces = (pieces.flatMap Converter.Piece.text).map .write := by
  induction pieces generalizing inRun with
  | nil => rfl
  | cons p rest ih =>
    obtain ⟨hp, hrest⟩ := List.forall_mem_cons.mp h
    cases p with
    | replaced i source r =>
      rw [emissions, ih hrest, List.flatMap_cons, List.map_append]
      rfl
    | kept i c =>
      rw [emissions, ih hrest, ih hrest, List.flatMap_cons, List.map_append]
      by_cases hblank : isBlank c = true
      · rw [if_pos hblank, emitBlank, (lets_blank hblank).mp hp]
        rfl
      · rw [if_neg hblank, emit, if_pos ((lets_accepted hblank).mp hp)]
        rfl

section Whitespace

variable (hspace : t.whitespace = .preserve ∨ t.whitespace = .forbid)

include hspace

/-- Where nothing is rejected, every piece is as asked. -/
lemma lets_of_emissions {offset : Nat} {inRun : Bool} {pieces : List Converter.Piece}
    {sources : List Char} (h : t.emissions offset inRun pieces = sources.map .write) :
    ∀ p ∈ pieces, t.Lets p := by
  have hwrite : ∀ e ∈ t.emissions offset inRun pieces, ∃ c, e = .write c := by
    rw [h]
    intro e he
    obtain ⟨c, -, rfl⟩ := List.mem_map.mp he
    exact ⟨c, rfl⟩
  clear h
  induction pieces generalizing inRun with
  | nil => simp
  | cons p rest ih =>
    cases p with
    | replaced i source r =>
      rw [emissions] at hwrite
      exact List.forall_mem_cons.mpr ⟨trivial, ih (List.forall_mem_append.mp hwrite).2⟩
    | kept i c =>
      rw [emissions] at hwrite
      split at hwrite
      next hblank =>
        obtain ⟨hfirst, hrest⟩ := List.forall_mem_append.mp hwrite
        refine List.forall_mem_cons.mpr ⟨(lets_blank hblank).mpr ?_, ih hrest⟩
        refine hspace.resolve_right fun hforbid => ?_
        rw [emitBlank, hforbid] at hfirst
        obtain ⟨d, hd⟩ := hfirst _ List.mem_cons_self
        cases hd
      next hblank =>
        obtain ⟨⟨d, hd⟩, hrest⟩ := List.forall_mem_cons.mp hwrite
        refine List.forall_mem_cons.mpr ⟨(lets_accepted hblank).mpr ?_, ih hrest⟩
        unfold emit at hd
        split at hd
        next haccepted => exact haccepted
        · cases hd

/-- **Where white space is kept or forbidden, a reading emits the converted text** or rejects a
character. -/
theorem emissions_eq_iff {offset : Nat} {inRun : Bool} {pieces : List Converter.Piece}
    {sources : List Char} :
    t.emissions offset inRun pieces = sources.map .write ↔
      sources = pieces.flatMap Converter.Piece.text ∧ ∀ p ∈ pieces, t.Lets p := by
  constructor
  · intro h
    have hlets := lets_of_emissions hspace h
    rw [emissions_of_lets hlets] at h
    exact ⟨(List.map_injective_iff.mpr (fun _ _ => Emission.write.inj) h).symm, hlets⟩
  · rintro ⟨rfl, hlets⟩
    exact emissions_of_lets hlets

/-! ### Values -/

lemma settle_eq (v : List Char) : t.settle v = v := by
  unfold settle
  rcases hspace with h | h
  · rw [h]
    rfl
  · rw [h]
    rfl

end Whitespace

/-- A text has a value if all that is emitted for it is written, and the image of that fits and
passes the checks. -/
lemma parse_of_emissions {s sources : List Char} (hs : (t.normal.apply s).all isBlank = false)
    (hes : t.emissions (margin (t.normal.apply s)) false
      (t.converter.pieces (trim (t.normal.apply s))) = sources.map .write)
    (hfits : ∀ m ∈ t.maxSize, (t.case.images true sources).length ≤ m)
    (hcheck : t.check (t.settle (t.case.images true sources)) = .ok ()) :
    t.parse (some s) = .ok (some (t.settle (t.case.images true sources))) := by
  have hroom : ∀ m ∈ t.maxSize, (t.case.images true ([] ++ sources)).length ≤ m := hfits
  obtain ⟨w, hrun⟩ := writes_nil.exists_run hroom
  obtain ⟨more, hmore, hw⟩ := writes_nil.run hrun
  obtain rfl := List.map_injective_iff.mpr (fun _ _ => Emission.write.inj) hmore
  have hwritten : w.reading.value = t.case.images true sources := hw.written
  simp only [parse, read, hs, Bool.false_eq_true, if_false, readBody_eq, hes, hrun]
  show (t.finish w).map Prod.fst = _
  rw [finish, hwritten, hcheck]
  rfl

/-- **The values of a type that replaces no white space** are the cased images of the trimmed texts
as its converter rewrites them. A text has a value exactly if every character that stays in place is
let in, and the image fits and passes the checks. -/
theorem parse_eq_ok_iff (hspace : t.whitespace = .preserve ∨ t.whitespace = .forbid)
    {s v : List Char} (hs : (t.normal.apply s).all isBlank = false) :
    t.parse (some s) = .ok (some v) ↔
      v = t.case.images true (t.converter.convert (trim (t.normal.apply s))) ∧
        (∀ p ∈ t.converter.pieces (trim (t.normal.apply s)), t.Lets p) ∧
        (∀ m ∈ t.maxSize, v.length ≤ m) ∧ t.check v = .ok () := by
  constructor
  · intro h
    obtain ⟨sources, w, hes, hw, hv, hcheck⟩ := parse_eq_ok hs h
    obtain ⟨rfl, hlets⟩ := (emissions_eq_iff hspace).mp hes
    rw [settle_eq hspace] at hv
    have hsize : v.length = w.size := by rw [hv, List.length_reverse, hw.size]
    exact ⟨hv.trans hw.written, hlets, fun m hm => hsize ▸ hw.fits m hm, hcheck⟩
  · rintro ⟨hv, hlets, hfits, hcheck⟩
    have hes : t.emissions (margin (t.normal.apply s)) false
        (t.converter.pieces (trim (t.normal.apply s))) =
          (t.converter.convert (trim (t.normal.apply s))).map .write :=
      emissions_of_lets hlets
    have hsettled := settle_eq hspace
      (t.case.images true (t.converter.convert (trim (t.normal.apply s))))
    rw [← hv] at hsettled
    have hparse := parse_of_emissions hs hes (hv ▸ hfits) (by rwa [← hv, hsettled])
    rwa [← hv, hsettled] at hparse

/-- **Reading is converting**, for a type that keeps case and white space: its values are the
trimmed texts as its converter alone rewrites them. A text has a value exactly if every character
that stays in place is white space or accepted, and the converted text fits and passes the
checks. -/
theorem parse_eq_ok_iff_convert (hcase : t.case = .preserve) (hspace : t.whitespace = .preserve)
    {s v : List Char} (hs : (t.normal.apply s).all isBlank = false) :
    t.parse (some s) = .ok (some v) ↔
      v = t.converter.convert (trim (t.normal.apply s)) ∧
        (∀ i c, .kept i c ∈ t.converter.pieces (trim (t.normal.apply s)) →
          isBlank c = true ∨ t.accepted.containsChar c = true) ∧
        (∀ m ∈ t.maxSize, v.length ≤ m) ∧ t.check v = .ok () := by
  have hlets : ∀ pieces : List Converter.Piece, (∀ p ∈ pieces, t.Lets p) ↔
      ∀ i c, .kept i c ∈ pieces → isBlank c = true ∨ t.accepted.containsChar c = true := by
    intro pieces
    constructor
    · intro h i c hc
      by_cases hblank : isBlank c = true
      · exact .inl hblank
      · exact .inr ((lets_accepted hblank).mp (h _ hc))
    · rintro h (⟨i, c⟩ | ⟨i, source, r⟩) hp
      · by_cases hblank : isBlank c = true
        · exact (lets_blank hblank).mpr hspace
        · exact (lets_accepted hblank).mpr ((h i c hp).resolve_left hblank)
      · trivial
  rw [parse_eq_ok_iff (.inl hspace) hs, hcase, CasePolicy.images_preserve, hlets]

/-- Remarks: small letters, digits hidden, and two sources of which one begins the other. -/
def Builder.remarks : Builder :=
  { ((((({} : Builder).acceptRange 0x61 0x7A).convertSequence ['a', 'b'] ['X']).convertSequence
      ['a', 'b', 'c', 'd'] []).convertCategory .nd ['#']) with
    whitespace := .preserve
    minSize := 2
    maxSize := some 7
    validator := some fun v => v.head? = some 'X' }

/-- Matches, a digit and plain characters in turn. -/
theorem parse_eq_ok_iff_convert_remarks :
    ∃ t, Builder.remarks.build = .ok t ∧
      t.parse (some "  abc1abcd z\tab\n".toList) = .ok (some "Xc# z\tX".toList) ∧
      t.converter.convert "abc1abcd z\tab".toList = "Xc# z\tX".toList := by
  have hread : Builder.remarks.build.toOption.map (fun t =>
      ((t.normal.apply "  abc1abcd z\tab\n".toList).all isBlank,
        trim (t.normal.apply "  abc1abcd z\tab\n".toList),
        t.parse (some "  abc1abcd z\tab\n".toList))) =
      some (false, "abc1abcd z\tab".toList, .ok (some "Xc# z\tX".toList)) := by decide +kernel
  rcases h : Builder.remarks.build with _ | t
  · rw [h] at hread
    cases hread
  obtain ⟨-, _, _, _, -, -, -, rfl⟩ := Builder.build_eq_ok_iff.mp h
  simp only [h, Except.toOption, Option.map_some, Option.some.injEq, Prod.mk.injEq] at hread
  obtain ⟨hblank, htrim, hparse⟩ := hread
  obtain ⟨hconvert, -⟩ := (parse_eq_ok_iff_convert rfl rfl hblank).mp hparse
  rw [htrim] at hconvert
  exact ⟨_, rfl, hparse, hconvert.symm⟩

end TextType

end TextTypes
