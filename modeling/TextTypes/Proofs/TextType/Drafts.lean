import TextTypes.Proofs.TextType.Outputs
import TextTypes.Proofs.Unicode.Blank

/-!
What a reading drafts before it looks at the value as a whole.

A lenient reading writes every emission, with U+FFFD for what is rejected. Its outcome can be told
from this draft: the greatest size is held against the draft itself, the other checks against what
is left of it when it is settled. A strict reading writes the draft up to the first rejection and
stops there; where nothing is rejected, it comes to the same.
-/

namespace TextTypes.TextType

open TextTypes.Unicode

variable {t : TextType}

/-! ### Emissions -/

/-- What a lenient reading notes. -/
def Emission.rejection? : Emission → Option Rejection
  | .write _ => none
  | .reject fault c index => some (rejection fault c index)

def rejectionsOf (es : List Emission) : List Rejection := es.filterMap Emission.rejection?

/-- What is emitted before anything is rejected. -/
def unrejected (es : List Emission) : List Emission := es.takeWhile fun e => e.rejection?.isNone

/-- What emissions spell: the cased images of the characters, and U+FFFD for those rejected. -/
def spell (p : CasePolicy) : (first : Bool) → List Emission → List Char
  | _, [] => []
  | first, .write c :: rest => p.image first c ++ spell p false rest
  | first, .reject .. :: rest => replacementChar :: spell p first rest

variable (t) in
/-- All that is emitted for an input. -/
def emitted : Option (List Char) → List Emission
  | none => []
  | some s => t.emissionsOf (margin (t.normal.apply s)) (trim (t.normal.apply s))

lemma emissions_congr {u : TextType} (haccepted : t.accepted = u.accepted)
    (hspace : t.whitespace = u.whitespace) (offset : Nat) (inRun : Bool)
    (pieces : List Converter.Piece) :
    t.emissions offset inRun pieces = u.emissions offset inRun pieces := by
  have hemit : t.emit = u.emit := by
    funext c index
    rw [emit, emit, haccepted]
  have hblank : t.emitBlank = u.emitBlank := by
    funext inRun c index
    rw [emitBlank, emitBlank, hspace, hemit]
  induction pieces generalizing inRun with
  | nil => rfl
  | cons piece rest ih =>
    cases piece with
    | replaced i source r => rw [emissions, emissions, ih]
    | kept i c => rw [emissions, emissions, ih, ih, hemit, hblank]

/-- What is emitted depends on the converter, the accepted set, the white space and the normal form
alone. -/
lemma emitted_congr {u : TextType} (haccepted : t.accepted = u.accepted)
    (hconverter : t.converter = u.converter) (hspace : t.whitespace = u.whitespace)
    (hnormal : t.normal = u.normal) (input : Option (List Char)) :
    t.emitted input = u.emitted input := by
  cases input with
  | none => rfl
  | some s =>
    rw [emitted, emitted, emissionsOf_eq, emissionsOf_eq, hconverter, hnormal]
    exact emissions_congr haccepted hspace _ _ _

variable (t) in
/-- All that is written for an input before the value is settled. -/
def draft (input : Option (List Char)) : List Char := spell t.case true (t.emitted input)

/-! ### Absent and blank input -/

lemma apply_of_preserve (hnormal : t.normal = .preserve) (s : List Char) :
    t.normal.apply s = s := by
  rw [hnormal]
  rfl

variable (t) in
/-- Absent and blank input is resolved by policy. -/
def Resolves (input : Option (List Char)) : Prop :=
  ∀ s ∈ input, (t.normal.apply s).all isBlank = true

lemma resolves_or (t : TextType) (input : Option (List Char)) :
    t.Resolves input ∨ ∃ s, input = some s ∧ (t.normal.apply s).all isBlank = false := by
  cases input with
  | none => exact .inl (by simp [Resolves])
  | some s =>
    cases hs : (t.normal.apply s).all isBlank with
    | true => exact .inl (by simpa [Resolves] using hs)
    | false => exact .inr ⟨s, rfl, hs⟩

/-- A blank text is resolved by policy. -/
lemma read_blank {s : List Char} (hs : (t.normal.apply s).all isBlank = true) (mode : Mode) :
    t.read mode (some s) = .ok (t.nulls.blank, []) :=
  if_pos hs

namespace Resolves

variable {input : Option (List Char)} (h : t.Resolves input)

include h

lemma emitted : t.emitted input = [] := by
  cases input with
  | none => rfl
  | some s =>
    rw [TextType.emitted, trim_of_blank (List.all_eq_true.mp (h s rfl))]
    rfl

lemma draft : t.draft input = [] := by
  rw [TextType.draft, h.emitted]
  rfl

/-- There is at most the empty value, and it is the same for all types with these policies. -/
lemma read : ∃ a : Option (List Char), (∀ v ∈ a, v = []) ∧
    ∀ u : TextType, u.nulls = t.nulls → u.normal = t.normal →
      ∀ mode, u.read mode input = .ok (a, []) := by
  cases input with
  | none =>
    refine ⟨t.nulls.absent, ?_, fun u hnulls _ mode => ?_⟩
    · cases t.nulls <;> simp [NullPolicy.absent]
    · rw [TextType.read, hnulls]
  | some s =>
    refine ⟨t.nulls.blank, ?_, fun u hnulls hnormal mode => ?_⟩
    · cases t.nulls <;> simp [NullPolicy.blank]
    · rw [read_blank (by rw [hnormal]; exact h s rfl), hnulls]

end Resolves

/-! ### Writing -/

/-- A step of a lenient run puts the text of an emission, and only notes something besides. -/
lemma step_lenient (w : Writer) (e : Emission) : ∃ w' s,
    t.step .lenient w e = Writer.put t.maxSize w' s ∧
      w'.written = w.written ∧ w'.size = w.size ∧ ∀ rest,
        spell t.case w.first (e :: rest) = s ++ spell t.case w'.first rest ∧
          w.rejections.reverse ++ rejectionsOf (e :: rest) =
            w'.rejections.reverse ++ rejectionsOf rest := by
  cases e with
  | write c => exact ⟨_, _, rfl, rfl, rfl, fun rest => ⟨rfl, rfl⟩⟩
  | reject fault c index =>
    refine ⟨_, _, rfl, rfl, rfl, fun rest => ⟨rfl, ?_⟩⟩
    rw [List.reverse_cons, List.append_assoc]
    rfl

/-- A lenient run writes the draft if there is room for it. -/
lemma run_lenient {w : Writer} (hw : ∀ m ∈ t.maxSize, w.size ≤ m) (es : List Emission) :
    (es.foldlM (t.step .lenient) w).map Writer.reading =
      (room t.maxSize (w.size + (spell t.case w.first es).length)).map fun _ =>
        ⟨w.written.reverse ++ spell t.case w.first es,
          w.rejections.reverse ++ rejectionsOf es⟩ := by
  induction es generalizing w with
  | nil =>
    rw [spell, List.length_nil, Nat.add_zero, room_of_le hw, List.append_nil, rejectionsOf,
      List.filterMap_nil, List.append_nil]
    rfl
  | cons e rest ih =>
    obtain ⟨w', s, hstep, hwritten, hsize, hrest⟩ := t.step_lenient w e
    obtain ⟨hspell, hnoted⟩ := hrest rest
    rw [hspell, hnoted, List.length_append, ← hwritten, ← hsize, ← Nat.add_assoc]
    rw [← hsize] at hw
    rw [List.foldlM_cons, hstep, Writer.put_eq hw]
    -- once the text of one emission does not fit, the draft does not either
    rcases room_cases t.maxSize (w'.size + s.length) with hroom | ⟨m, hm, hlt⟩
    · rw [room_of_le hroom]
      have hnext := ih (w := { w' with written := s.reverse ++ w'.written,
                                        size := w'.size + s.length }) hroom
      simp only [List.reverse_append, List.reverse_reverse, List.append_assoc] at hnext
      exact hnext
    · rw [hm, room_of_lt hlt, room_of_lt (by omega)]
      rfl

/-- **A lenient reading writes the draft**, unless it is too long, and notes all rejections. -/
theorem write_lenient (es : List Emission) :
    t.write .lenient es = (room t.maxSize (spell t.case true es).length).map fun _ =>
      ⟨spell t.case true es, rejectionsOf es⟩ := by
  have hrun := t.run_lenient (w := {}) (fun m _ => Nat.zero_le m) es
  rw [Nat.zero_add] at hrun
  exact hrun

/-- A strict run writes what is emitted before the first rejection, if there is room for it, and
stops there. -/
lemma run_strict {w : Writer} (hw : ∀ m ∈ t.maxSize, w.size ≤ m) (es : List Emission) :
    (es.foldlM (t.step .strict) w).map Writer.reading =
      (room t.maxSize (w.size + (spell t.case w.first (unrejected es)).length)).bind fun _ =>
        match rejectionsOf es with
        | [] => .ok ⟨w.written.reverse ++ spell t.case w.first es, w.rejections.reverse⟩
        | r :: _ => .error r.toError := by
  induction es generalizing w with
  | nil =>
    rw [unrejected, List.takeWhile_nil, spell, List.length_nil, Nat.add_zero, room_of_le hw,
      List.append_nil]
    rfl
  | cons e rest ih =>
    cases e with
    | write c =>
      have hstep : t.step .strict w (.write c) =
        Writer.put t.maxSize { w with first := false } (t.case.image w.first c) := rfl
      have hunrejected : unrejected (.write c :: rest) = .write c :: unrejected rest := rfl
      rw [List.foldlM_cons, hstep, Writer.put_eq (w := { w with first := false }) hw, hunrejected,
        spell, List.length_append, ← Nat.add_assoc]
      rcases room_cases t.maxSize (w.size + (t.case.image w.first c).length) with
        hroom | ⟨m, hm, hlt⟩
      · rw [room_of_le hroom]
        have hnext := ih (w := { w with written := (t.case.image w.first c).reverse ++ w.written,
                                          size := w.size + (t.case.image w.first c).length,
                                          first := false }) hroom
        simp only [List.reverse_append, List.reverse_reverse, List.append_assoc] at hnext
        exact hnext
      · rw [hm, room_of_lt hlt, room_of_lt (by omega)]
        rfl
    | reject fault c index =>
      have hunrejected : unrejected (.reject fault c index :: rest) = [] := rfl
      rw [hunrejected, spell, List.length_nil, Nat.add_zero, room_of_le hw]
      rfl

/-- **A strict reading writes the draft up to the first rejection**, unless that is too long, and
stops there. -/
theorem write_strict (es : List Emission) :
    t.write .strict es =
      (room t.maxSize (spell t.case true (unrejected es)).length).bind fun _ =>
        match rejectionsOf es with
        | [] => .ok ⟨spell t.case true es, []⟩
        | r :: _ => .error r.toError := by
  have hrun := t.run_strict (w := {}) (fun m _ => Nat.zero_le m) es
  rw [Nat.zero_add] at hrun
  exact hrun

lemma unrejected_eq_self {es : List Emission} (h : rejectionsOf es = []) : unrejected es = es := by
  rw [unrejected, List.takeWhile_eq_self_iff]
  intro e he
  rw [List.filterMap_eq_nil_iff.mp h e he]
  rfl

/-! ### Reading -/

/-- **The outcome of a lenient reading**: the draft has to fit, and what is left of it when it is
settled has to pass the checks. -/
theorem parseLenient_eq {s : List Char} (hs : (t.normal.apply s).all isBlank = false) :
    t.parseLenient (some s) =
      (room t.maxSize (t.draft (some s)).length).bind fun _ =>
        (t.check (t.settle (t.draft (some s)))).map fun _ =>
          (some (t.settle (t.draft (some s))), rejectionsOf (t.emitted (some s))) := by
  simp only [parseLenient, read, hs, Bool.false_eq_true, if_false, readBody]
  have hes : t.emissionsOf (margin (t.normal.apply s)) (trim (t.normal.apply s)) =
    t.emitted (some s) := rfl
  rw [hes, write_lenient]
  have hdraft : spell t.case true (t.emitted (some s)) = t.draft (some s) := rfl
  rw [hdraft]
  rcases room t.maxSize (t.draft (some s)).length with e | u
  · rfl
  · show Except.map _ ((t.check (t.settle (t.draft (some s)))).bind fun _ => _) = _
    rcases t.check (t.settle (t.draft (some s))) with e | u <;> rfl

/-- **The outcome of a strict reading**: the draft up to the first rejection has to fit, and if
nothing is rejected, what is left of it when it is settled has to pass the checks. -/
theorem parse_eq {s : List Char} (hs : (t.normal.apply s).all isBlank = false) :
    t.parse (some s) =
      (room t.maxSize (spell t.case true (unrejected (t.emitted (some s)))).length).bind fun _ =>
        match rejectionsOf (t.emitted (some s)) with
        | [] => (t.check (t.settle (t.draft (some s)))).map fun _ =>
          some (t.settle (t.draft (some s)))
        | r :: _ => .error r.toError := by
  simp only [parse, read, hs, Bool.false_eq_true, if_false, readBody]
  have hes : t.emissionsOf (margin (t.normal.apply s)) (trim (t.normal.apply s)) =
    t.emitted (some s) := rfl
  rw [hes, write_strict]
  have hdraft : spell t.case true (t.emitted (some s)) = t.draft (some s) := rfl
  rw [hdraft]
  rcases room t.maxSize (spell t.case true (unrejected (t.emitted (some s)))).length with e | u
  · rfl
  rcases rejectionsOf (t.emitted (some s)) with _ | ⟨r, rest⟩
  · show Except.map _ (Except.map _ ((t.check (t.settle (t.draft (some s)))).bind fun _ => _)) = _
    rcases t.check (t.settle (t.draft (some s))) with e | u <;> rfl
  · rfl

/-- A lenient reading of a text that is not blank finds its settled draft, if it succeeds. -/
lemma outcome_of_parseLenient {s : List Char} {a : Option (List Char)} {rs : List Rejection}
    (hs : (t.normal.apply s).all isBlank = false) (h : t.parseLenient (some s) = .ok (a, rs)) :
    a = some (t.settle (t.draft (some s))) ∧ rs = rejectionsOf (t.emitted (some s)) ∧
      t.check (t.settle (t.draft (some s))) = .ok () := by
  rw [parseLenient_eq hs] at h
  rcases hroom : room t.maxSize (t.draft (some s)).length with e | u
  · rw [hroom] at h
    cases h
  rcases hcheck : t.check (t.settle (t.draft (some s))) with e | u
  · rw [hroom, hcheck] at h
    cases h
  · rw [hroom, hcheck] at h
    cases h
    exact ⟨rfl, rfl, rfl⟩

lemma parseLenient_eq_ok {s v : List Char} {rs : List Rejection}
    (hs : (t.normal.apply s).all isBlank = false)
    (h : t.parseLenient (some s) = .ok (some v, rs)) :
    v = t.settle (t.draft (some s)) ∧ rs = rejectionsOf (t.emitted (some s)) ∧
      t.check v = .ok () := by
  obtain ⟨hv, hrs, hcheck⟩ := outcome_of_parseLenient hs h
  obtain rfl := Option.some.inj hv
  exact ⟨rfl, hrs, hcheck⟩

/-- A strict reading stops at the first rejection that a lenient one notes. -/
lemma parse_of_parseLenient {input : Option (List Char)} {a : Option (List Char)}
    {rs : List Rejection} (h : t.parseLenient input = .ok (a, rs)) :
    t.parse input = match rs with
      | [] => .ok a
      | r :: _ => .error r.toError := by
  have houtcomes := t.read_outcomes input
  rw [h] at houtcomes
  generalize t.parse input = strict at houtcomes ⊢
  cases houtcomes <;> rfl

lemma parseLenient_of_parse {input : Option (List Char)} {a : Option (List Char)}
    (h : t.parse input = .ok a) : t.parseLenient input = .ok (a, []) := by
  have houtcomes := t.read_outcomes input
  rw [h] at houtcomes
  generalize t.parseLenient input = lenient at houtcomes ⊢
  cases houtcomes
  rfl

/-- A strict reading that succeeds has rejected nothing. -/
lemma rejectionsOf_of_parse {input : Option (List Char)} {a : Option (List Char)}
    (h : t.parse input = .ok a) : rejectionsOf (t.emitted input) = [] := by
  rcases t.resolves_or input with hblank | ⟨s, rfl, hs⟩
  · rw [hblank.emitted]
    rfl
  · obtain ⟨v, rfl⟩ := exists_of_parse_eq_ok hs h
    exact (parseLenient_eq_ok hs (parseLenient_of_parse h)).2.1.symm

/-- Where nothing is rejected, the two readings come to the same. -/
lemma parse_eq_parseLenient {input : Option (List Char)} (h : rejectionsOf (t.emitted input) = []) :
    t.parse input = (t.parseLenient input).map Prod.fst := by
  rcases t.resolves_or input with hblank | ⟨s, rfl, hs⟩
  · obtain ⟨a, -, hread⟩ := hblank.read
    rw [parse, parseLenient, hread t rfl rfl, hread t rfl rfl]
  · rw [parse_eq hs, parseLenient_eq hs, unrejected_eq_self h, h]
    have hdraft : spell t.case true (t.emitted (some s)) = t.draft (some s) := rfl
    rw [hdraft]
    rcases room t.maxSize (t.draft (some s)).length with e | u
    · rfl
    · show Except.map _ _ = Except.map _ (Except.map _ _)
      rcases t.check (t.settle (t.draft (some s))) with e | u <;> rfl

end TextTypes.TextType
