import TextTypes.Proofs.Conversion.Substitution
import TextTypes.Proofs.TextType.Modes
import TextTypes.TextType.Builder

/-!
Where the characters of a value come from.

A strict reading that succeeds has written every emission. What it has written is the cased image
of the characters emitted, and a character is emitted only if the type admits it. The value is
what is left of that after trimming, and every check is made on the value itself.
-/

namespace TextTypes

open TextTypes.Unicode

namespace CasePolicy

variable {p : CasePolicy}

/-- The image of a text; `first` tells whether it opens the value. -/
def images (p : CasePolicy) : (first : Bool) → List Char → List Char
  | _, [] => []
  | first, c :: rest => p.image first c ++ images p false rest

lemma images_concat (first : Bool) (s : List Char) (c : Char) :
    p.images first (s ++ [c]) = p.images first s ++ p.image (first && s.isEmpty) c := by
  induction s generalizing first with
  | nil => simp [images]
  | cons d rest ih => simp [images, ih]

lemma exists_of_mem_images {first : Bool} {s : List Char} {c : Char} (h : c ∈ p.images first s) :
    ∃ d ∈ s, ∃ opens, c ∈ p.image opens d := by
  induction s generalizing first with
  | nil => simp [images] at h
  | cons d rest ih =>
    rw [images, List.mem_append] at h
    rcases h with h | h
    · exact ⟨d, by simp, first, h⟩
    · obtain ⟨e, he, hopens⟩ := ih h
      exact ⟨e, by simp [he], hopens⟩

end CasePolicy

namespace TextType

variable {t : TextType}

/-! ### What a strict reading has written -/

/-- Whether a size is within the greatest one. -/
def room (maxSize : Option Nat) (size : Nat) : Except ParseError Unit :=
  match maxSize with
  | some m => if size ≤ m then .ok () else .error (.tooLong m)
  | none => .ok ()

lemma room_of_le {maxSize : Option Nat} {size : Nat} (h : ∀ m ∈ maxSize, size ≤ m) :
    room maxSize size = .ok () := by
  cases maxSize with
  | none => rfl
  | some m => exact if_pos (h m rfl)

lemma room_cases (maxSize : Option Nat) (size : Nat) :
    (∀ m ∈ maxSize, size ≤ m) ∨ ∃ m, maxSize = some m ∧ m < size := by
  cases maxSize with
  | none => exact .inl (by simp)
  | some m =>
    rcases Nat.lt_or_ge m size with h | h
    · exact .inr ⟨m, rfl, h⟩
    · exact .inl (by simpa using h)

lemma room_of_lt {m size : Nat} (h : m < size) : room (some m) size = .error (.tooLong m) :=
  if_neg (Nat.not_le.mpr h)

/-- Characters are written one after the other, and it only depends on their number whether they
all fit. -/
lemma Writer.put_eq {maxSize : Option Nat} {w : Writer} (hw : ∀ m ∈ maxSize, w.size ≤ m)
    (s : List Char) :
    put maxSize w s = (room maxSize (w.size + s.length)).map fun _ =>
      { w with written := s.reverse ++ w.written, size := w.size + s.length } := by
  induction s generalizing w with
  | nil =>
    rw [List.length_nil, Nat.add_zero, room_of_le hw]
    rfl
  | cons c rest ih =>
    have hlength : w.size + (c :: rest).length = w.size + 1 + rest.length := by
      rw [List.length_cons]
      omega
    rw [put_cons, hlength]
    by_cases hfull : maxSize = some w.size
    · subst hfull
      have hsize : w.full? (some w.size) = some w.size := if_pos (decide_eq_true rfl)
      rw [hsize, room_of_lt (by omega)]
      rfl
    · have hnone : w.full? maxSize = none := by
        rw [full?, Option.filter_eq_none_iff]
        rintro m hm hsize
        exact hfull (by rw [← of_decide_eq_true hsize, ← Option.mem_def.mp hm])
      rw [hnone]
      simp only
      rw [ih fun m hm => ?_]
      · simp only [List.reverse_cons, List.append_assoc, List.singleton_append]
      · have hle := hw m hm
        have hne : m ≠ w.size := fun h => hfull (h ▸ hm)
        show w.size + 1 ≤ m
        omega

lemma Writer.put_eq_ok {maxSize : Option Nat} {w w' : Writer} {s : List Char}
    (hw : ∀ m ∈ maxSize, w.size ≤ m) (h : put maxSize w s = .ok w') :
    w'.written = s.reverse ++ w.written ∧ w'.size = w.size + s.length ∧ w'.first = w.first ∧
      ∀ m ∈ maxSize, w'.size ≤ m := by
  rw [put_eq hw] at h
  rcases room_cases maxSize (w.size + s.length) with hfits | ⟨m, rfl, hlt⟩
  · rw [room_of_le hfits] at h
    obtain rfl := Except.ok.inj h
    exact ⟨rfl, rfl, rfl, hfits⟩
  · rw [room_of_lt hlt] at h
    cases h

/-- What has been written is the image of these characters, and it fits. -/
structure Writes (t : TextType) (sources : List Char) (w : Writer) : Prop where
  written : w.written.reverse = t.case.images true sources
  size : w.size = w.written.length
  fits : ∀ m ∈ t.maxSize, w.size ≤ m
  first : w.first = sources.isEmpty

lemma writes_nil : t.Writes [] {} := ⟨rfl, rfl, fun _ _ => Nat.zero_le _, rfl⟩

/-- A strict step succeeds only in writing a character. -/
lemma Writes.step {w w' : Writer} {sources : List Char} {e : Emission} (hw : t.Writes sources w)
    (h : t.step .strict w e = .ok w') : ∃ c, e = .write c ∧ t.Writes (sources ++ [c]) w' := by
  cases e with
  | write c =>
    obtain ⟨hwritten, hsize, hfirst, hfits⟩ :=
      Writer.put_eq_ok (w := { w with first := false }) hw.fits h
    refine ⟨c, rfl, ?_, ?_, hfits, ?_⟩
    · rw [hwritten, CasePolicy.images_concat, ← hw.written, hw.first]
      simp
    · rw [hwritten, hsize, List.length_append, List.length_reverse, ← hw.size]
      exact Nat.add_comm _ _
    · rw [hfirst]
      simp
  | reject fault c index => cases h

/-- **A strict run that succeeds has written all emissions**, one character after the other. -/
theorem Writes.run {w w' : Writer} {sources : List Char} {es : List Emission}
    (hw : t.Writes sources w) (h : es.foldlM (t.step .strict) w = .ok w') :
    ∃ more, es = more.map .write ∧ t.Writes (sources ++ more) w' := by
  induction es generalizing w sources with
  | nil =>
    obtain rfl : w = w' := Except.ok.inj h
    exact ⟨[], rfl, by simpa using hw⟩
  | cons e rest ih =>
    rw [List.foldlM_cons] at h
    rcases hstep : t.step .strict w e with _ | next
    · rw [hstep] at h
      cases h
    · rw [hstep] at h
      obtain ⟨c, rfl, hnext⟩ := hw.step hstep
      obtain ⟨more, rfl, hmore⟩ := ih hnext h
      exact ⟨c :: more, rfl, by simpa using hmore⟩

/-! ### What is emitted -/

/-- The characters that a type lets into its values, before they are cased. -/
inductive Admits (t : TextType) (c : Char) : Prop
  | accepted (h : t.accepted.containsChar c = true)
  | replacement (r : List Char) (hr : t.converter.IsReplacement r) (h : c ∈ r)
  | blank (h : isBlank c = true) (hkept : t.whitespace = .preserve ∨ t.whitespace = .collapse)

lemma emit_eq_write {c d : Char} {index : Nat} (h : t.emit d index = .write c) :
    d = c ∧ t.accepted.containsChar c = true := by
  unfold emit at h
  split at h
  next hd =>
    obtain rfl : d = c := Emission.write.inj h
    exact ⟨rfl, hd⟩
  · cases h

/-- White space is emitted as it is, or as an accepted substitute. -/
lemma write_mem_emitBlank {c d : Char} {index : Nat} {inRun : Bool}
    (h : .write c ∈ t.emitBlank inRun d index) :
    (c = d ∧ (t.whitespace = .preserve ∨ t.whitespace = .collapse)) ∨
      t.accepted.containsChar c = true ∧ t.whitespace.substitute? = some c := by
  have hsubstitute : ∀ s, .write c = t.emit s index → t.whitespace.substitute? = some s →
      t.accepted.containsChar c = true ∧ t.whitespace.substitute? = some c := by
    intro s hs hpolicy
    obtain ⟨rfl, haccepted⟩ := emit_eq_write hs.symm
    exact ⟨haccepted, hpolicy⟩
  unfold emitBlank at h
  rcases hpolicy : t.whitespace with _ | _ | s | _ | s | _ <;> simp only [hpolicy] at h hsubstitute
  · simp at h
  · exact .inl ⟨by simpa using h, .inl rfl⟩
  · exact .inr (hsubstitute s (List.mem_singleton.mp h) rfl)
  · cases inRun with
    | true => cases h
    | false => exact .inl ⟨by simpa using h, .inr rfl⟩
  · cases inRun with
    | true => cases h
    | false => exact .inr (hsubstitute s (List.mem_singleton.mp h) rfl)
  · cases h

/-- **Where an emitted character comes from.** It belongs to a replacement, or it is white space
that is kept, or it is accepted; and white space is accepted only as a substitute. -/
theorem write_mem_emissions {offset : Nat} {inRun : Bool} {pieces : List Converter.Piece} {c : Char}
    (h : .write c ∈ t.emissions offset inRun pieces) :
    (∃ i source r, .replaced i source r ∈ pieces ∧ c ∈ r) ∨
      (isBlank c = true ∧ (t.whitespace = .preserve ∨ t.whitespace = .collapse)) ∨
      t.accepted.containsChar c = true ∧
        (isBlank c = true → t.whitespace.substitute? = some c) := by
  induction pieces generalizing inRun with
  | nil => cases h
  | cons piece rest ih =>
    have hmem : (∃ i source r, Converter.Piece.replaced i source r ∈ rest ∧ c ∈ r) →
        ∃ i source r, .replaced i source r ∈ piece :: rest ∧ c ∈ r :=
      fun ⟨i, source, r, hr, hc⟩ => ⟨i, source, r, List.mem_cons_of_mem piece hr, hc⟩
    cases piece with
    | replaced i source r =>
      rw [emissions, List.mem_append] at h
      rcases h with h | h
      · obtain ⟨d, hd, heq⟩ := List.mem_map.mp h
        obtain rfl : d = c := Emission.write.inj heq
        exact .inl ⟨i, source, r, List.mem_cons_self, hd⟩
      · exact (ih h).imp_left hmem
    | kept i d =>
      rw [emissions] at h
      split at h
      next hblank =>
        rcases List.mem_append.mp h with h | h
        · rcases write_mem_emitBlank h with ⟨rfl, hkept⟩ | ⟨haccepted, hsubstitute⟩
          · exact .inr (.inl ⟨hblank, hkept⟩)
          · exact .inr (.inr ⟨haccepted, fun _ => hsubstitute⟩)
        · exact (ih h).imp_left hmem
      next hvisible =>
        rcases List.mem_cons.mp h with h | h
        · obtain ⟨rfl, haccepted⟩ := emit_eq_write h.symm
          exact .inr (.inr ⟨haccepted, fun hblank => absurd hblank hvisible⟩)
        · exact (ih h).imp_left hmem

/-- Only admitted characters are emitted, whatever the parts of the text. -/
lemma admits_of_mem_emissions {offset : Nat} {inRun : Bool} {pieces : List Converter.Piece}
    (hpieces : ∀ i source r, .replaced i source r ∈ pieces → t.converter.IsReplacement r)
    {c : Char} (h : .write c ∈ t.emissions offset inRun pieces) : t.Admits c := by
  rcases write_mem_emissions h with ⟨i, source, r, hr, hc⟩ | ⟨hblank, hkept⟩ | ⟨haccepted, -⟩
  · exact .replacement r (hpieces i source r hr) hc
  · exact .blank hblank hkept
  · exact .accepted haccepted

/-! ### The value -/

lemma checkCustom_eq_ok {v : List Char} (h : check.checkCustom t v = .ok ()) :
    ∀ accepts ∈ t.validator, accepts v = true := by
  intro accepts haccepts
  unfold check.checkCustom at h
  rw [Option.mem_def.mp haccepts] at h
  by_contra hno
  simp [hno] at h

lemma check_eq_ok {v : List Char} (h : t.check v = .ok ()) :
    t.minSize ≤ v.length ∧ (∀ p ∈ t.pattern, p.1.isMatch v = true) ∧
      ∀ accepts ∈ t.validator, accepts v = true := by
  unfold check at h
  split at h
  · cases h
  next hsize =>
  refine ⟨Nat.le_of_not_lt hsize, ?_⟩
  rcases hpattern : t.pattern with _ | ⟨p, source⟩
  · exact ⟨by simp, checkCustom_eq_ok (by simpa [hpattern] using h)⟩
  · by_cases hmatch : p.isMatch v = true
    · exact ⟨by simpa using hmatch, checkCustom_eq_ok (by simpa [hpattern, hmatch] using h)⟩
    · simp [hpattern, hmatch] at h

lemma trim_sublist (v : List Char) : (trim v).Sublist v := by
  have hstart : (trimStart v).Sublist v := List.dropWhile_sublist _
  have hend : (trimEnd (trimStart v)).Sublist (trimStart v) := by
    have h := (List.dropWhile_sublist (p := isBlank) (l := (trimStart v).reverse)).reverse
    rwa [List.reverse_reverse] at h
  exact hend.trans hstart

lemma settle_sublist (v : List Char) : (t.settle v).Sublist v := by
  unfold settle
  split
  · exact trim_sublist v
  · exact List.Sublist.refl v

/-- A text that is not blank leads to a value or to an error. -/
lemma exists_of_parse_eq_ok {s : List Char} {r : Option (List Char)}
    (hs : (t.normal.apply s).all isBlank = false) (h : t.parse (some s) = .ok r) :
    ∃ v, r = some v := by
  simp only [parse, read, hs, Bool.false_eq_true, if_false] at h
  rcases hbody : t.readBody .strict (t.normal.apply s) with _ | reading
  · rw [hbody] at h
    cases h
  · rw [hbody] at h
    exact ⟨reading.value, (Except.ok.inj h).symm⟩

lemma parse_eq_ok {s v : List Char} (hs : (t.normal.apply s).all isBlank = false)
    (h : t.parse (some s) = .ok (some v)) :
    ∃ sources w, t.emissions (margin (t.normal.apply s)) false
        (t.converter.pieces (trim (t.normal.apply s))) = sources.map .write ∧
      t.Writes sources w ∧ v = t.settle w.written.reverse ∧ t.check v = .ok () := by
  simp only [parse, read, hs, Bool.false_eq_true, if_false, readBody_eq] at h
  rcases hrun : (t.emissions (margin (t.normal.apply s)) false
      (t.converter.pieces (trim (t.normal.apply s)))).foldlM (t.step .strict) {} with _ | w
  · rw [hrun] at h
    cases h
  rw [hrun] at h
  obtain ⟨sources, hes, hw⟩ := writes_nil.run hrun
  refine ⟨sources, w, hes, hw, ?_⟩
  have hfinish : (t.finish w).map Prod.fst = .ok (some v) := h
  unfold finish at hfinish
  rcases hcheck : t.check (t.settle w.reading.value) with _ | u
  · rw [hcheck] at hfinish
    cases hfinish
  · rw [hcheck] at hfinish
    cases hfinish
    exact ⟨rfl, hcheck⟩

/-- **What a value is made of.** It has the sizes of the type and passes its pattern and its
validator. Each of its characters is the cased image of one that the type admits. -/
theorem parse_output {s v : List Char} (hs : (t.normal.apply s).all isBlank = false)
    (h : t.parse (some s) = .ok (some v)) :
    t.minSize ≤ v.length ∧ (∀ m ∈ t.maxSize, v.length ≤ m) ∧
      (∀ p ∈ t.pattern, p.1.isMatch v = true) ∧ (∀ accepts ∈ t.validator, accepts v = true) ∧
      (∃ sources, (∀ c ∈ sources, t.Admits c) ∧ v = t.settle (t.case.images true sources)) ∧
      ∀ c ∈ v, ∃ d, t.Admits d ∧ ∃ opens, c ∈ t.case.image opens d := by
  obtain ⟨sources, w, hes, hw, hv, hcheck⟩ := parse_eq_ok hs h
  obtain ⟨hmin, hpattern, hvalidator⟩ := check_eq_ok hcheck
  have hadmits : ∀ c ∈ sources, t.Admits c := by
    intro c hc
    have hmem : Emission.write c ∈ sources.map .write := List.mem_map_of_mem hc
    rw [← hes] at hmem
    exact admits_of_mem_emissions (fun i source r => Converter.isReplacement_of_mem_pieces) hmem
  -- trimming only takes characters away, so the size that was counted is enough
  have hsub : v.Sublist w.written.reverse := hv ▸ settle_sublist _
  have hsize : v.length ≤ w.size := by
    have hle := hsub.length_le
    rwa [List.length_reverse, ← hw.size] at hle
  rw [hw.written] at hv hsub
  refine ⟨hmin, fun m hm => Nat.le_trans hsize (hw.fits m hm), hpattern, hvalidator,
    ⟨sources, hadmits, hv⟩, fun c hc => ?_⟩
  obtain ⟨d, hd, hopens⟩ := CasePolicy.exists_of_mem_images (hsub.subset hc)
  exact ⟨d, hadmits d hd, hopens⟩

/-- Headings in capitals: small letters, and arrows written as underscores. -/
def Builder.headings : Builder :=
  { ((({} : Builder).acceptRange 0x61 0x7A).acceptChars ['ß']).convertChar '_' ['-', '>'] with
    case := .upper
    whitespace := .collapse
    normal := .preserve
    minSize := 2
    maxSize := some 8
    pattern := some "[A-Z >-]+".toList
    validator := some fun v => v.head? = some 'S' }

/-- One character becomes two, two blanks become one, and the source of an arrow is gone. -/
theorem parse_output_headings :
    ∃ t, Builder.headings.build = .ok t ∧
      t.parse (some " ß \t x_".toList) = .ok (some "SS X->".toList) ∧
      "SS X->".toList.length ≤ 8 ∧ ∃ d, t.Admits d ∧ ∃ opens, '>' ∈ t.case.image opens d := by
  have hread : Builder.headings.build.toOption.map (fun t =>
      (t.maxSize, (t.normal.apply " ß \t x_".toList).all isBlank,
        t.parse (some " ß \t x_".toList))) =
      some (some 8, false, .ok (some "SS X->".toList)) := by decide +kernel
  rcases h : Builder.headings.build with _ | t
  · rw [h] at hread
    cases hread
  simp only [h, Except.toOption, Option.map_some, Option.some.injEq, Prod.mk.injEq] at hread
  obtain ⟨hmax, hblank, hparse⟩ := hread
  obtain ⟨-, hle, -, -, -, hsource⟩ := parse_output hblank hparse
  exact ⟨t, rfl, hparse, hle 8 hmax, hsource '>' (by decide)⟩

end TextType

end TextTypes
