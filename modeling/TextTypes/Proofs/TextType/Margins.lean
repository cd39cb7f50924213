import TextTypes.Proofs.TextType.Rejections

/-!
White space around a text.

A type that leaves the form of a text alone reads it in the same way wherever it stands between
white space. What is emitted depends on the place of the text only in the places of rejections, and
these move with the text.
-/

namespace TextTypes

open TextTypes.Unicode

/-! ### Moving -/

def Rejection.shift (k : Nat) (r : Rejection) : Rejection := { r with index := r.index + k }

/-- The error for a text behind `k` more characters: only a rejected character has a place. -/
def ParseError.shift (k : Nat) : ParseError → ParseError
  | .invalid fault cp index => .invalid fault cp (index + k)
  | e => e

lemma Rejection.toError_shift (k : Nat) (r : Rejection) :
    (r.shift k).toError = r.toError.shift k := by
  obtain ⟨cp, index, kind⟩ := r
  cases kind <;> rfl

lemma ParseError.shift_of_not_invalid {e : ParseError} (h : e.kind.isInvalidCodePoint = false)
    (k : Nat) : e.shift k = e := by
  cases e with
  | invalid fault cp index => cases h
  | _ => rfl

namespace TextType

variable {t : TextType}

def Emission.shift (k : Nat) : Emission → Emission
  | .write c => .write c
  | .reject fault c index => .reject fault c (index + k)

lemma Emission.rejection?_shift (k : Nat) (e : Emission) :
    (e.shift k).rejection? = e.rejection?.map (Rejection.shift k) := by
  cases e <;> rfl

lemma rejectionsOf_shift (k : Nat) (es : List Emission) :
    rejectionsOf (es.map (Emission.shift k)) = (rejectionsOf es).map (Rejection.shift k) := by
  rw [rejectionsOf, rejectionsOf, List.filterMap_map, List.map_filterMap]
  exact List.filterMap_congr fun e _ => e.rejection?_shift k

lemma unrejected_shift (k : Nat) (es : List Emission) :
    unrejected (es.map (Emission.shift k)) = (unrejected es).map (Emission.shift k) := by
  rw [unrejected, unrejected, List.takeWhile_map]
  have hsame : (fun e : Emission => e.rejection?.isNone) ∘ Emission.shift k =
      fun e => e.rejection?.isNone := by
    funext e
    cases e <;> rfl
  rw [hsame]

/-- Places are not spelled. -/
lemma spell_shift (p : CasePolicy) (first : Bool) (k : Nat) (es : List Emission) :
    spell p first (es.map (Emission.shift k)) = spell p first es := by
  induction es generalizing first with
  | nil => rfl
  | cons e rest ih =>
    cases e with
    | write c => exact congrArg (p.image first c ++ ·) (ih false)
    | reject fault c index => exact congrArg (replacementChar :: ·) (ih first)

/-! ### What is emitted -/

lemma emit_add (c : Char) (index k : Nat) : t.emit c (index + k) = (t.emit c index).shift k := by
  unfold emit
  split <;> rfl

lemma emitBlank_add (inRun : Bool) (c : Char) (index k : Nat) :
    t.emitBlank inRun c (index + k) = (t.emitBlank inRun c index).map (Emission.shift k) := by
  unfold emitBlank
  cases t.whitespace with
  | forbid => rfl
  | preserve => rfl
  | remove => rfl
  | substitute s => exact congrArg ([·]) (emit_add s index k)
  | collapse => cases inRun <;> rfl
  | collapseTo s =>
    cases inRun with
    | true => rfl
    | false => exact congrArg ([·]) (emit_add s index k)

/-- What is emitted for the pieces of a text moves with the text. -/
lemma emissions_add (offset k : Nat) (inRun : Bool) (pieces : List Converter.Piece) :
    t.emissions (offset + k) inRun pieces =
      (t.emissions offset inRun pieces).map (Emission.shift k) := by
  induction pieces generalizing inRun with
  | nil => rfl
  | cons piece rest ih =>
    cases piece with
    | replaced i source r =>
      rw [emissions, emissions, ih, List.map_append, List.map_map]
      rfl
    | kept i c =>
      rw [emissions, emissions, ih, ih, Nat.add_right_comm, emitBlank_add, emit_add]
      split
      · rw [List.map_append]
      · rw [List.map_cons]

/-! ### Reading -/

lemma shift_check (v : List Char) (k : Nat) :
    (t.check v).mapError (ParseError.shift k) = t.check v := by
  rcases h : t.check v with e | u
  · rw [Except.mapError, ParseError.shift_of_not_invalid (not_isInvalidCodePoint (check_error h))]
  · rfl

lemma all_isBlank_surround {before after s : List Char} (hbefore : ∀ c ∈ before, isBlank c = true)
    (hafter : ∀ c ∈ after, isBlank c = true) :
    (before ++ s ++ after).all isBlank = s.all isBlank := by
  rw [List.all_append, List.all_append, List.all_eq_true.mpr hbefore, List.all_eq_true.mpr hafter,
    Bool.true_and, Bool.and_true]

section Surround

variable (hnormal : t.normal = .preserve) {before after s : List Char}
  (hbefore : ∀ c ∈ before, isBlank c = true) (hafter : ∀ c ∈ after, isBlank c = true)
  (hs : s.all isBlank = false)

include hnormal hbefore hafter hs

lemma emitted_surround :
    t.emitted (some (before ++ s ++ after)) =
      (t.emitted (some s)).map (Emission.shift before.length) := by
  obtain ⟨hmargin, htrim⟩ := trim_surround hbefore hafter hs
  simp only [emitted, emissionsOf_eq, apply_of_preserve hnormal]
  rw [hmargin, htrim, emissions_add]

lemma draft_surround : t.draft (some (before ++ s ++ after)) = t.draft (some s) := by
  rw [draft, emitted_surround hnormal hbefore hafter hs, spell_shift]
  rfl

lemma parse_surround_of_visible :
    t.parse (some (before ++ s ++ after)) =
      (t.parse (some s)).mapError (ParseError.shift before.length) := by
  have hemitted := emitted_surround hnormal hbefore hafter hs
  have hdraft := draft_surround hnormal hbefore hafter hs
  have hall := (all_isBlank_surround hbefore hafter).trans hs
  rw [← apply_of_preserve hnormal s] at hs
  rw [← apply_of_preserve hnormal (before ++ s ++ after)] at hall
  rw [parse_eq hall, parse_eq hs, hemitted, hdraft, unrejected_shift, spell_shift,
    rejectionsOf_shift]
  rcases room_cases t.maxSize (spell t.case true (unrejected (t.emitted (some s)))).length with
    hroom | ⟨m, hm, hlt⟩
  · rw [room_of_le hroom]
    rcases rejectionsOf (t.emitted (some s)) with _ | ⟨r, rest⟩
    · -- no check of the whole value has a place to report
      have hcheck := shift_check (t := t) (t.settle (t.draft (some s))) before.length
      rcases hv : t.check (t.settle (t.draft (some s))) with e | u
      · rw [hv] at hcheck
        exact congrArg Except.error (Except.error.inj hcheck).symm
      · rfl
    · exact congrArg Except.error (r.toError_shift before.length)
  · rw [hm, room_of_lt hlt]
    rfl

lemma parseLenient_surround_of_visible :
    t.parseLenient (some (before ++ s ++ after)) =
      (t.parseLenient (some s)).map fun r => (r.1, r.2.map (Rejection.shift before.length)) := by
  have hemitted := emitted_surround hnormal hbefore hafter hs
  have hdraft := draft_surround hnormal hbefore hafter hs
  have hall := (all_isBlank_surround hbefore hafter).trans hs
  rw [← apply_of_preserve hnormal s] at hs
  rw [← apply_of_preserve hnormal (before ++ s ++ after)] at hall
  rw [parseLenient_eq hall, parseLenient_eq hs, hemitted, hdraft, rejectionsOf_shift]
  rcases room t.maxSize (t.draft (some s)).length with e | u
  · rfl
  · rcases t.check (t.settle (t.draft (some s))) with e | u <;> rfl

end Surround

/-- **White space around a text only moves it.** A type that does not normalize reads a text in the
same way with white space around it: it finds the same value or the same error, and every place that
is reported is further on by the white space in front. -/
theorem parse_surround (hnormal : t.normal = .preserve) {before after : List Char}
    (hbefore : ∀ c ∈ before, isBlank c = true) (hafter : ∀ c ∈ after, isBlank c = true)
    (s : List Char) :
    t.parse (some (before ++ s ++ after)) =
        (t.parse (some s)).mapError (ParseError.shift before.length) ∧
      t.parseLenient (some (before ++ s ++ after)) =
        (t.parseLenient (some s)).map fun r => (r.1, r.2.map (Rejection.shift before.length)) := by
  cases hs : s.all isBlank with
  | true =>
    have hall := (all_isBlank_surround hbefore hafter).trans hs
    rw [← apply_of_preserve hnormal s] at hs
    rw [← apply_of_preserve hnormal (before ++ s ++ after)] at hall
    rw [parse, parse, parseLenient, parseLenient, read_blank hs, read_blank hall, read_blank hs,
      read_blank hall]
    exact ⟨rfl, rfl⟩
  | false =>
    exact ⟨parse_surround_of_visible hnormal hbefore hafter hs,
      parseLenient_surround_of_visible hnormal hbefore hafter hs⟩

/-- An arrow at the front and a digit at the end, with and without white space around them. -/
theorem parse_surround_fragments :
    ∃ t, Builder.fragments.build = .ok t ∧ t.normal = .preserve ∧
      (∀ c ∈ [' ', '\t'], isBlank c = true) ∧ (∀ c ∈ ['\n'], isBlank c = true) ∧
      t.parse (some "->b1".toList) = .error (.invalid .character 0x31 3) ∧
      t.parse (some ([' ', '\t'] ++ "->b1".toList ++ ['\n'])) =
        .error (.invalid .character 0x31 5) ∧
      t.parseLenient (some "->b1".toList) =
        .ok (some "xb\ufffd".toList, [⟨0x31, 3, .invalid .character⟩]) ∧
      t.parseLenient (some ([' ', '\t'] ++ "->b1".toList ++ ['\n'])) =
        .ok (some "xb\ufffd".toList, [⟨0x31, 5, .invalid .character⟩]) := by
  obtain ⟨t, hbuild⟩ := Builder.exists_of_build (b := Builder.fragments) (by decide +kernel)
  have hnormal : t.normal = .preserve :=
    Builder.eq_of_build hbuild TextType.normal (by decide +kernel)
  have hruns : (t.parse (some "->b1".toList), t.parseLenient (some "->b1".toList)) =
      (.error (.invalid .character 0x31 3),
        .ok (some "xb\ufffd".toList, [⟨0x31, 3, .invalid .character⟩])) :=
    Builder.eq_of_build hbuild (fun t => (t.parse _, t.parseLenient _)) (by decide +kernel)
  simp only [Prod.mk.injEq] at hruns
  obtain ⟨hstrict, hlenient⟩ := hruns
  have hbefore : ∀ c ∈ [' ', '\t'], isBlank c = true := List.all_eq_true.mp (by decide)
  have hafter : ∀ c ∈ ['\n'], isBlank c = true := List.all_eq_true.mp (by decide)
  obtain ⟨hmoved, hnoted⟩ := t.parse_surround hnormal hbefore hafter "->b1".toList
  rw [hstrict] at hmoved
  rw [hlenient] at hnoted
  exact ⟨t, hbuild, hnormal, hbefore, hafter, hstrict, hmoved, hlenient, hnoted⟩

end TextType

end TextTypes
