import TextTypes.Proofs.IntMap.Sequences
import TextTypes.Proofs.TextType.Casing

/-!
Where white space stands in a value.

A type whose converter brings in no white space has only such white space in its values as its
policy lets through. A type that collapses white space has none at the ends of a value, and no two
white-space characters side by side: the run goes on over what is dropped, and ends with every
character that is written or replaced.
-/

namespace TextTypes.TextType

open TextTypes.Unicode

variable {t : TextType}

/-! ### What is spelled -/

/-- An emission that is not seen as white space. -/
def Emission.IsVisible : Emission → Prop
  | .write c => isBlank c = false
  | .reject .. => True

lemma exists_of_not_isVisible {e : Emission} (h : ¬e.IsVisible) :
    ∃ c, e = .write c ∧ isBlank c = true := by
  cases e with
  | write c => exact ⟨c, rfl, by simpa [Emission.IsVisible] using h⟩
  | reject fault c index => exact absurd trivial h

/-- Visible emissions spell something visible. -/
lemma spell_of_visible (p : CasePolicy) (first : Bool) {es : List Emission}
    (h : ∀ e ∈ es, e.IsVisible) :
    ∃ u next, (u = [] → es = []) ∧ (∀ c ∈ u, isBlank c = false) ∧
      ∀ rest, spell p first (es ++ rest) = u ++ spell p next rest := by
  induction es generalizing first with
  | nil => exact ⟨[], first, fun _ => rfl, by simp, fun rest => rfl⟩
  | cons e es ih =>
    obtain ⟨he, hes⟩ := List.forall_mem_cons.mp h
    cases e with
    | write c =>
      obtain ⟨u, next, -, hu, hspell⟩ := ih false hes
      have himage := p.sparesBlank_image first c
      refine ⟨p.image first c ++ u, next, ?_, ?_, fun rest => ?_⟩
      · exact fun hnil => absurd (List.append_eq_nil_iff.mp hnil).1 himage.ne_nil
      · exact List.forall_mem_append.mpr ⟨fun d hd => (himage.isBlank_eq hd).trans he, hu⟩
      · rw [List.cons_append, spell, hspell, List.append_assoc]
    | reject fault c index =>
      obtain ⟨u, next, -, hu, hspell⟩ := ih first hes
      refine ⟨replacementChar :: u, next, fun hnil => absurd hnil (List.cons_ne_nil _ _), ?_,
        fun rest => ?_⟩
      · exact List.forall_mem_cons.mpr ⟨by decide, hu⟩
      · rw [List.cons_append, spell, hspell, List.cons_append]

lemma spell_cons_of_visible (p : CasePolicy) (first : Bool) {e : Emission} (he : e.IsVisible) :
    ∃ u next, u ≠ [] ∧ (∀ c ∈ u, isBlank c = false) ∧
      ∀ rest, spell p first (e :: rest) = u ++ spell p next rest := by
  obtain ⟨u, next, hne, hu⟩ := spell_of_visible p first (List.forall_mem_singleton.mpr he)
  exact ⟨u, next, fun hnil => List.cons_ne_nil e [] (hne hnil), hu⟩

/-- White space spells itself. -/
lemma spell_of_blank (p : CasePolicy) (first : Bool) {c : Char} (hc : isBlank c = true)
    (rest : List Emission) : spell p first (.write c :: rest) = c :: spell p false rest := by
  rw [spell, (p.sparesBlank_image first c).eq_singleton hc]
  rfl

/-- White space is spelled only where it is emitted. -/
lemma write_mem_of_mem_spell {p : CasePolicy} {first : Bool} {es : List Emission} {c : Char}
    (h : c ∈ spell p first es) (hc : isBlank c = true) : .write c ∈ es := by
  induction es generalizing first with
  | nil => cases h
  | cons e rest ih =>
    by_cases he : e.IsVisible
    · obtain ⟨u, next, -, hu, hspell⟩ := spell_cons_of_visible p first he
      rw [hspell, List.mem_append] at h
      rcases h with h | h
      · rw [hu c h] at hc
        cases hc
      · exact List.mem_cons_of_mem e (ih h)
    · obtain ⟨d, rfl, hd⟩ := exists_of_not_isVisible he
      rw [spell_of_blank p first hd] at h
      rcases List.mem_cons.mp h with rfl | h
      · exact List.mem_cons_self
      · exact List.mem_cons_of_mem _ (ih h)

/-! ### Neighbours -/

/-- Of two neighbours, at least one is visible. -/
def Apart (a b : Char) : Prop := isBlank a = false ∨ isBlank b = false

section Visible

variable {u s : List Char} (hu : ∀ c ∈ u, isBlank c = false)

include hu

lemma isChain_append (hs : s.IsChain Apart) : (u ++ s).IsChain Apart := by
  induction u with
  | nil => exact hs
  | cons c rest ih =>
    obtain ⟨hc, hrest⟩ := List.forall_mem_cons.mp hu
    exact List.isChain_cons.mpr ⟨fun d _ => .inl hc, ih hrest⟩

lemma isBlank_head_append (hne : u ≠ []) : ∀ c ∈ (u ++ s).head?, isBlank c = false := by
  intro c hc
  rw [List.head?_append_of_ne_nil u hne] at hc
  exact hu c (List.mem_of_mem_head? hc)

end Visible

/-! ### What is emitted -/

lemma emit_isVisible {c : Char} (hc : isBlank c = false) (index : Nat) :
    (t.emit c index).IsVisible := by
  unfold emit
  split
  · exact hc
  · trivial

/-- White space that a policy lets through. -/
def Passes (t : TextType) (c : Char) : Prop :=
  match t.whitespace with
  | .preserve | .collapse => True
  | .substitute s | .collapseTo s => c = s
  | .forbid | .remove => False

/-- In a run a collapsing type emits nothing, and at its start one thing. -/
lemma exists_emitBlank (hspace : t.whitespace.collapses = true) (c : Char) (index : Nat) :
    ∃ e, ∀ inRun, t.emitBlank inRun c index = if inRun then [] else [e] := by
  unfold emitBlank
  cases hpolicy : t.whitespace with
  | collapse => exact ⟨_, fun inRun => rfl⟩
  | collapseTo s => exact ⟨_, fun inRun => rfl⟩
  | _ => simp [hpolicy, WhitespacePolicy.collapses] at hspace

section Pieces

variable {pieces : List Converter.Piece}
  (hpieces : ∀ i source r, .replaced i source r ∈ pieces → ∀ c ∈ r, isBlank c = false)

include hpieces

/-- Where replacements bring in no white space, only what passes is emitted. -/
lemma passes_of_mem_emissions {offset : Nat} {inRun : Bool} {c : Char}
    (h : .write c ∈ t.emissions offset inRun pieces) (hc : isBlank c = true) : t.Passes c := by
  rcases write_mem_emissions h with ⟨i, source, r, hr, hmem⟩ | ⟨-, hkept⟩ | ⟨-, hsubstitute⟩
  · rw [hpieces i source r hr c hmem] at hc
    cases hc
  · rcases hkept with hpolicy | hpolicy <;> simp only [Passes, hpolicy]
  · have hsub := hsubstitute hc
    cases hpolicy : t.whitespace with
    | substitute s | collapseTo s =>
      rw [hpolicy] at hsub
      simpa only [Passes, hpolicy] using (Option.some.inj hsub).symm
    | _ => simp [hpolicy, WhitespacePolicy.substitute?] at hsub

/-- The invariant of a collapsing type: no two white-space characters stand side by side, and in a
run none comes next. -/
lemma isChain_emissions (hspace : t.whitespace.collapses = true) (p : CasePolicy) (first : Bool)
    (offset : Nat) (inRun : Bool) :
    let s := spell p first (t.emissions offset inRun pieces)
    s.IsChain Apart ∧ (inRun = true → ∀ c ∈ s.head?, isBlank c = false) := by
  induction pieces generalizing first inRun with
  | nil => exact ⟨List.isChain_nil, by simp [emissions, spell]⟩
  | cons piece rest ih =>
    have hrest := ih fun i source r hr => hpieces i source r (List.mem_cons_of_mem _ hr)
    cases piece with
    | replaced i source r =>
      have hvisible : ∀ e ∈ r.map Emission.write, e.IsVisible := by
        intro e he
        obtain ⟨c, hc, rfl⟩ := List.mem_map.mp he
        exact hpieces i source r List.mem_cons_self c hc
      obtain ⟨u, next, hne, hu, hspell⟩ := spell_of_visible p first hvisible
      obtain ⟨hchain, hhead⟩ := hrest next (inRun && r.isEmpty)
      simp only [emissions, hspell]
      refine ⟨isChain_append hu hchain, fun hrun => ?_⟩
      by_cases hnil : u = []
      · -- nothing stands in for the source, and the run goes on
        obtain rfl := List.map_eq_nil_iff.mp (hne hnil)
        rw [hnil]
        exact hhead (by rw [hrun]; rfl)
      · exact isBlank_head_append hu hnil
    | kept i d =>
      simp only [emissions]
      split
      · obtain ⟨e, he⟩ := t.exists_emitBlank hspace d (offset + i)
        rw [he]
        cases inRun with
        | true => exact hrest first true
        | false =>
          -- what is emitted may be a substitute that is no white space
          refine ⟨?_, by simp⟩
          by_cases hvisible : e.IsVisible
          · obtain ⟨u, next, -, hu, hspell⟩ := spell_cons_of_visible p first hvisible
            simp only [Bool.false_eq_true, if_false, List.singleton_append, hspell]
            exact isChain_append hu (hrest next true).1
          · obtain ⟨c, rfl, hc⟩ := exists_of_not_isVisible hvisible
            obtain ⟨hchain, hhead⟩ := hrest false true
            simp only [Bool.false_eq_true, if_false, List.singleton_append,
              spell_of_blank p first hc]
            exact List.isChain_cons.mpr ⟨fun b hb => .inr (hhead rfl b hb), hchain⟩
      next hd =>
        obtain ⟨u, next, hne, hu, hspell⟩ :=
          spell_cons_of_visible p first (t.emit_isVisible (by simpa using hd) (offset + i))
        rw [hspell]
        exact ⟨isChain_append hu (hrest next false).1, fun _ => isBlank_head_append hu hne⟩

end Pieces

/-! ### Values -/

/-- White space stands alone, and only between other characters. -/
structure Spaced (v : List Char) : Prop where
  head : ∀ c ∈ v.head?, isBlank c = false
  last : ∀ c ∈ v.getLast?, isBlank c = false
  single : v.IsChain Apart

lemma Spaced.of_trim {s : List Char} (h : s.IsChain Apart) : Spaced (trim s) := by
  obtain ⟨front, back, hs, -, -⟩ := exists_eq_append_trim s
  exact ⟨isBlank_head_trim, isBlank_getLast_trim, h.infix ⟨front, back, hs.symm⟩⟩

/-- **The white space of a value is what the policy lets through.** If no replacement of the
converter has white space in it, a type that forbids or removes white space has none in its values,
and one that substitutes it has none but the substitute. In the values of a type that collapses
white space, it stands alone and only between other characters. -/
theorem spacing_of_parse
    (hr : ∀ r, t.converter.IsReplacement r → ∀ c ∈ r, isBlank c = false)
    {input : Option (List Char)} {v : List Char}
    (h : t.parse input = .ok (some v) ∨ ∃ rs, t.parseLenient input = .ok (some v, rs)) :
    (t.whitespace = .forbid ∨ t.whitespace = .remove → ∀ c ∈ v, isBlank c = false) ∧
      (∀ s, t.whitespace = .substitute s ∨ t.whitespace = .collapseTo s →
        ∀ c ∈ v, isBlank c = true → c = s) ∧
      (t.whitespace = .collapse ∨ (∃ s, t.whitespace = .collapseTo s) → Spaced v) := by
  obtain ⟨rs, hlenient⟩ : ∃ rs, t.parseLenient input = .ok (some v, rs) :=
    h.elim (fun h => ⟨[], parseLenient_of_parse h⟩) id
  rcases t.resolves_or input with hblank | ⟨s, rfl, hs⟩
  · obtain ⟨a, ha, hread⟩ := hblank.read
    have hvalue : Except.ok (a, []) = .ok (some v, rs) :=
      (hread t rfl rfl .lenient).symm.trans hlenient
    obtain ⟨rfl, -⟩ := Prod.mk.inj (Except.ok.inj hvalue)
    obtain rfl := ha v rfl
    exact ⟨by simp, by simp, fun _ => ⟨by simp, by simp, List.isChain_nil⟩⟩
  obtain ⟨rfl, -⟩ := parseLenient_eq_ok hs hlenient
  have hpieces : ∀ i source r,
      .replaced i source r ∈ t.converter.pieces (trim (t.normal.apply s)) →
        ∀ c ∈ r, isBlank c = false :=
    fun i source r hp => hr r (Converter.isReplacement_of_mem_pieces hp)
  rw [draft, emitted, emissionsOf_eq]
  have hpasses : ∀ c ∈ t.settle (spell t.case true (t.emissions (margin (t.normal.apply s)) false
      (t.converter.pieces (trim (t.normal.apply s))))), isBlank c = true → t.Passes c :=
    fun c hc hb =>
      passes_of_mem_emissions hpieces (write_mem_of_mem_spell (settle_sublist _ |>.subset hc) hb) hb
  refine ⟨fun hspace c hc => ?_, fun sub hspace c hc hb => ?_, fun hspace => ?_⟩
  · rw [← Bool.not_eq_true]
    intro hb
    have hpass := hpasses c hc hb
    rcases hspace with hpolicy | hpolicy <;> simp only [Passes, hpolicy] at hpass
  · have hpass := hpasses c hc hb
    rcases hspace with hpolicy | hpolicy <;> simpa only [Passes, hpolicy] using hpass
  · have hcollapses : t.whitespace.collapses = true := by
      rcases hspace with h | ⟨sub, h⟩ <;> rw [h] <;> rfl
    rw [settle, if_pos hcollapses]
    exact .of_trim (isChain_emissions hpieces hcollapses _ _ _ _).1

/-- In headlines, hyphens are dropped and nothing else is replaced. -/
lemma Builder.isReplacement_headlines (h : headlines.build = .ok t) {r : List Char}
    (hr : t.converter.IsReplacement r) : r = [] := by
  obtain ⟨-, pattern, accepted, converter, -, -, hconverter, rfl⟩ := build_eq_ok_iff.mp h
  obtain rfl := Except.ok.inj hconverter
  have hsingles : headlines.converter.singles.freeze.store.toList = [[]] := by decide +kernel
  have hcategories : headlines.converter.categories.freeze.store.toList = [] := by decide +kernel
  cases hr with
  | single map key hform hget =>
    obtain rfl := Conversion.Form.direct.inj hform
    have hmem := SequenceMap.mem_store_of_get? hget
    rwa [hsingles, List.mem_singleton] at hmem
  | sequence trie source rule hform hfind hrule => cases hform
  | category key hget =>
    have hmem := SequenceMap.mem_store_of_get? hget
    rw [hcategories] at hmem
    cases hmem

/-- Blanks on both sides of what is dropped become one, and those at the ends are gone. -/
theorem spacing_of_parse_headlines :
    ∃ t, Builder.headlines.build = .ok t ∧
      (∀ r, t.converter.IsReplacement r → ∀ c ∈ r, isBlank c = false) ∧
      t.whitespace = .collapse ∧
      t.parse (some "- ab - \tcd -".toList) = .ok (some "ab cd".toList) ∧
      Spaced "ab cd".toList := by
  obtain ⟨t, hbuild, -⟩ := Builder.exists_headlines
  have hr : ∀ r, t.converter.IsReplacement r → ∀ c ∈ r, isBlank c = false := by
    intro r hr c hc
    rw [Builder.isReplacement_headlines hbuild hr] at hc
    cases hc
  have hspace : t.whitespace = .collapse :=
    Builder.eq_of_build hbuild TextType.whitespace (by decide +kernel)
  have hparse : t.parse (some "- ab - \tcd -".toList) = .ok (some "ab cd".toList) :=
    Builder.eq_of_build hbuild (fun t => t.parse _) (by decide +kernel)
  exact ⟨t, hbuild, hr, hspace, hparse, (spacing_of_parse hr (.inl hparse)).2.2 (.inl hspace)⟩

end TextTypes.TextType
