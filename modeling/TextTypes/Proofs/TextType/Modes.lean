import Mathlib.Tactic.Common
import TextTypes.Proofs.TextType.Pieces

/-!
Strict and lenient reading agree.

The two readings write the same emissions and part at the first rejection: there the strict one
stops with an error, and the lenient one notes the same fault and goes on. Nothing before that
point depends on the mode, and a rejection once noted is never lost.
-/

namespace TextTypes.TextType

open TextTypes.Unicode

variable {t : TextType}

/-! ### Writing -/

namespace Writer

lemma put_cons (maxSize : Option Nat) (w : Writer) (c : Char) (s : List Char) :
    put maxSize w (c :: s) =
      match w.full? maxSize with
      | some size => .error (.tooLong size)
      | none => put maxSize { w with written := c :: w.written, size := w.size + 1 } s := by
  unfold put
  rw [List.foldlM_cons]
  cases w.full? maxSize <;> rfl

/-- Writing characters leaves the rejections alone, and only the size can stop it. -/
lemma put_cases (maxSize : Option Nat) (w : Writer) (s : List Char) :
    (∃ size, put maxSize w s = .error (.tooLong size)) ∨
      ∃ w', put maxSize w s = .ok w' ∧ w'.rejections = w.rejections := by
  induction s generalizing w with
  | nil => exact .inr ⟨w, rfl, rfl⟩
  | cons c s ih =>
    rw [put_cons]
    cases w.full? maxSize with
    | some size => exact .inl ⟨size, rfl⟩
    | none => exact ih _

end Writer

/-- What a rejected character is noted as. -/
def rejection (fault : CharFault) (c : Char) (index : Nat) : Rejection :=
  ⟨c.toNat, index, .invalid fault⟩

/-- What a writer may lead to when nothing is lost: the size is exceeded, or rejections are put
on top of those there were. -/
def Grows (old : List Rejection) (result : Except ParseError Writer) : Prop :=
  (∃ size, result = .error (.tooLong size)) ∨
    ∃ w new, result = .ok w ∧ w.rejections = new ++ old

lemma step_lenient_grows (w : Writer) (e : Emission) :
    Grows w.rejections (t.step .lenient w e) := by
  cases e with
  | write c =>
    rcases Writer.put_cases t.maxSize { w with first := false } (t.case.image w.first c) with
      ⟨size, h⟩ | ⟨w', h, hr⟩
    · exact .inl ⟨size, h⟩
    · exact .inr ⟨w', [], h, hr⟩
  | reject fault c index =>
    rcases Writer.put_cases t.maxSize
        { w with rejections := rejection fault c index :: w.rejections } [replacementChar] with
      ⟨size, h⟩ | ⟨w', h, hr⟩
    · exact .inl ⟨size, h⟩
    · exact .inr ⟨w', [rejection fault c index], h, hr⟩

lemma run_lenient_grows (w : Writer) (es : List Emission) :
    Grows w.rejections (es.foldlM (t.step .lenient) w) := by
  induction es generalizing w with
  | nil => exact .inr ⟨w, [], rfl, rfl⟩
  | cons e es ih =>
    rw [List.foldlM_cons]
    rcases t.step_lenient_grows w e with ⟨size, h⟩ | ⟨w', new, h, hr⟩
    · exact .inl ⟨size, by rw [h]; rfl⟩
    · rcases ih w' with ⟨size, h'⟩ | ⟨w'', new', h', hr'⟩
      · exact .inl ⟨size, by rw [h]; exact h'⟩
      · exact .inr ⟨w'', new' ++ new, by rw [h]; exact h', by rw [hr', hr, List.append_assoc]⟩

/-- How a strict and a lenient run that start with the rejections `old` relate. -/
inductive Agree (old : List Rejection) :
    (strict lenient : Except ParseError Writer) → Prop
  /-- Nothing is rejected. -/
  | same (w : Writer) (h : w.rejections = old) : Agree old (.ok w) (.ok w)
  /-- The size is exceeded before anything is rejected. -/
  | full (size : Nat) : Agree old (.error (.tooLong size)) (.error (.tooLong size))
  /-- Something is rejected, and what a lenient run writes after it does not fit. -/
  | overfull (r : Rejection) (size : Nat) : Agree old (.error r.toError) (.error (.tooLong size))
  /-- The first rejection of the lenient run is the error of the strict one. -/
  | noted (r : Rejection) (new : List Rejection) (w : Writer)
      (h : w.rejections = new ++ r :: old) : Agree old (.error r.toError) (.ok w)

lemma run_agree (w : Writer) (es : List Emission) :
    Agree w.rejections (es.foldlM (t.step .strict) w) (es.foldlM (t.step .lenient) w) := by
  induction es generalizing w with
  | nil => exact .same w rfl
  | cons e es ih =>
    rw [List.foldlM_cons, List.foldlM_cons]
    cases e with
    | write c =>
      have hstep : t.step .lenient w (.write c) = t.step .strict w (.write c) := rfl
      rcases Writer.put_cases t.maxSize { w with first := false } (t.case.image w.first c) with
        ⟨size, h⟩ | ⟨w', h, hr⟩
      · have hs : t.step .strict w (.write c) = .error (.tooLong size) := h
        rw [hstep, hs]
        exact .full size
      · have hs : t.step .strict w (.write c) = .ok w' := h
        rw [hstep, hs]
        have := ih w'
        rwa [hr] at this
    | reject fault c index =>
      have hs : t.step .strict w (.reject fault c index) =
          .error (rejection fault c index).toError := rfl
      rw [hs]
      -- the lenient run goes on, and keeps the rejection below all later ones
      rcases Writer.put_cases t.maxSize
          { w with rejections := rejection fault c index :: w.rejections } [replacementChar] with
        ⟨size, h⟩ | ⟨w', h, hr⟩
      · have hl : t.step .lenient w (.reject fault c index) = .error (.tooLong size) := h
        rw [hl]
        exact .overfull _ size
      · have hl : t.step .lenient w (.reject fault c index) = .ok w' := h
        rw [hl]
        rcases t.run_lenient_grows w' es with ⟨size, h'⟩ | ⟨w'', new, h', hr'⟩
        · show Agree _ _ (es.foldlM (t.step .lenient) w')
          rw [h']
          exact .overfull _ size
        · show Agree _ _ (es.foldlM (t.step .lenient) w')
          rw [h']
          exact .noted _ new w'' (by rw [hr', hr])

/-! ### Reading -/

/-- The faults of a value as a whole. -/
def wholeKinds : List ErrorKind :=
  [.valueTooShort, .valueTooLong, .patternMismatch, .validatorFailed]

lemma checkCustom_error {v : List Char} {e : ParseError}
    (h : check.checkCustom t v = .error e) : e.kind ∈ wholeKinds := by
  unfold check.checkCustom at h
  cases hv : t.validator with
  | none => simp [hv] at h
  | some accepts =>
    by_cases ha : accepts v = true
    · simp [hv, ha] at h
    · simp only [hv, ha] at h
      cases h
      simp [wholeKinds, ParseError.kind]

lemma check_error {v : List Char} {e : ParseError} (h : t.check v = .error e) :
    e.kind ∈ wholeKinds := by
  unfold check at h
  by_cases hsize : v.length < t.minSize
  · rw [if_pos hsize] at h
    cases h
    simp [wholeKinds, ParseError.kind]
  · rw [if_neg hsize] at h
    cases hp : t.pattern with
    | none => exact checkCustom_error (by simpa [hp] using h)
    | some p =>
      by_cases hm : p.1.isMatch v = true
      · exact checkCustom_error (by simpa [hp, hm] using h)
      · simp only [hp, hm] at h
        cases h
        simp [wholeKinds, ParseError.kind]

lemma not_isInvalidCodePoint {e : ParseError} (h : e.kind ∈ wholeKinds) :
    e.kind.isInvalidCodePoint = false := by
  revert h
  generalize e.kind = k
  cases k <;> simp [wholeKinds, ErrorKind.isInvalidCodePoint]

lemma toError_isInvalidCodePoint (r : Rejection) :
    r.toError.kind.isInvalidCodePoint = true := by
  obtain ⟨cp, index, kind⟩ := r
  cases kind <;> rfl

/-- How the strict and the lenient outcome for one text relate. -/
inductive Outcomes {α : Type} :
    (strict : Except ParseError α) → (lenient : Except ParseError (α × List Rejection)) → Prop
  /-- The text has a value. -/
  | value (a : α) : Outcomes (.ok a) (.ok (a, []))
  /-- The value as a whole is refused, and nothing is rejected before. -/
  | refused (e : ParseError) (h : e.kind ∈ wholeKinds) : Outcomes (.error e) (.error e)
  /-- Something is rejected, and what becomes of it is refused as a whole. -/
  | spoilt (r : Rejection) (e : ParseError) (h : e.kind ∈ wholeKinds) :
      Outcomes (.error r.toError) (.error e)
  /-- The strict reading stops with the first rejection of the lenient one. -/
  | rejected (r : Rejection) (rest : List Rejection) (a : α) :
      Outcomes (.error r.toError) (.ok (a, r :: rest))

/-- What is left to do with a text that has been written. -/
def finish (t : TextType) (w : Writer) : Except ParseError (Option (List Char) × List Rejection) :=
  (t.check (t.settle w.reading.value)).map fun _ =>
    (some (t.settle w.reading.value), w.reading.rejections)

lemma readBody_eq (mode : Mode) (text : List Char) :
    (t.readBody mode text).map (fun r => (some r.value, r.rejections)) =
      ((t.emissions (margin text) false (t.converter.pieces (trim text))).foldlM
        (t.step mode) {}).bind t.finish := by
  unfold readBody write
  rw [emissionsOf_eq]
  cases (t.emissions (margin text) false (t.converter.pieces (trim text))).foldlM
      (t.step mode) {} with
  | error e => rfl
  | ok w =>
    show ((t.check (t.settle w.reading.value)).bind fun _ => _).map _ =
      (t.check (t.settle w.reading.value)).map _
    cases t.check (t.settle w.reading.value) <;> rfl

lemma finish_cases (w : Writer) :
    (∃ e, e.kind ∈ wholeKinds ∧ t.finish w = .error e) ∨
      ∃ a, t.finish w = .ok (a, w.rejections.reverse) := by
  unfold finish
  cases hc : t.check (t.settle w.reading.value) with
  | error e => exact .inl ⟨e, check_error hc, rfl⟩
  | ok u => exact .inr ⟨_, rfl⟩

lemma Agree.outcomes {s l : Except ParseError Writer} (h : Agree [] s l) :
    Outcomes ((s.bind t.finish).map Prod.fst) (l.bind t.finish) := by
  cases h with
  | same w hw =>
    show Outcomes ((t.finish w).map Prod.fst) (t.finish w)
    rcases t.finish_cases w with ⟨e, he, h⟩ | ⟨a, h⟩
    · rw [h]
      exact .refused e he
    · rw [h, hw]
      exact .value a
  | full size => exact .refused _ (by simp [wholeKinds, ParseError.kind])
  | overfull r size => exact .spoilt r _ (by simp [wholeKinds, ParseError.kind])
  | noted r new w hw =>
    show Outcomes (.error r.toError) (t.finish w)
    rcases t.finish_cases w with ⟨e, he, h⟩ | ⟨a, h⟩
    · rw [h]
      exact .spoilt r e he
    · rw [h, hw, List.reverse_append, List.reverse_cons]
      exact .rejected r _ a

lemma read_outcomes (t : TextType) (input : Option (List Char)) :
    Outcomes (t.parse input) (t.parseLenient input) := by
  unfold parse parseLenient read
  cases input with
  | none => exact .value _
  | some s =>
    by_cases hb : (t.normal.apply s).all isBlank = true
    · simp only [hb, if_true]
      exact .value _
    · simp only [hb, readBody_eq]
      exact (t.run_agree {} _).outcomes

/-- **The two readings agree.** A text has a value exactly if a lenient reading gives this value
and rejects nothing. A fault of the value as a whole is reported alike by both. When the strict
reading stops at a rejected character, the lenient one rejects that character first of all,
unless the value it comes to is refused as a whole. -/
theorem parse_parseLenient (t : TextType) (input : Option (List Char)) :
    (∀ r, t.parse input = .ok r ↔ t.parseLenient input = .ok (r, [])) ∧
      (∀ e, t.parse input = .error e → e.kind.isInvalidCodePoint = false →
        t.parseLenient input = .error e) ∧
      (∀ e, t.parse input = .error e → e.kind.isInvalidCodePoint = true →
        (∃ e', e'.kind ∈ wholeKinds ∧ t.parseLenient input = .error e') ∨
          ∃ a r rest, t.parseLenient input = .ok (a, r :: rest) ∧ r.toError = e) := by
  have h := t.read_outcomes input
  generalize t.parse input = strict at h ⊢
  generalize t.parseLenient input = lenient at h ⊢
  refine ⟨fun r => ?_, ?_, ?_⟩
  · cases h <;> simp
  · rintro e rfl he
    cases h with
    | refused _ _ => rfl
    | spoilt r _ _ => simp [toError_isInvalidCodePoint] at he
    | rejected r _ _ => simp [toError_isInvalidCodePoint] at he
  · rintro e rfl he
    cases h with
    | refused _ hw => simp [not_isInvalidCodePoint hw] at he
    | spoilt r e' hw => exact .inl ⟨e', hw, rfl⟩
    | rejected r rest a => exact .inr ⟨a, r, rest, rfl, rfl⟩

end TextTypes.TextType
