import TextTypes.Proofs.Pattern.Local

/-!
The readers of the pattern language are local, piece by piece.
-/

namespace TextTypes.Pattern.Reader

open TextTypes.Range TextTypes.Unicode

/-! ### White space and comments -/

variable {flags : Flags}

/-- A character that `frontOf` stops at. -/
def Barrier (flags : Flags) (keep : Char → Bool) (c : Char) : Prop :=
  keep c = false ∧ (flags.skipSpace = true → isBlank c = false ∧ c ≠ '#')

lemma barrier_paren {keep : Char → Bool} (hk : keep ')' = false) : Barrier flags keep ')' :=
  ⟨hk, fun _ => by decide⟩

lemma frontOf_of_barrier {keep : Char → Bool} {s : List Char}
    (h : ∀ c ∈ s.head?, Barrier flags keep c) : frontOf flags keep false s = ([], s) := by
  cases s with
  | nil => rfl
  | cons c s =>
    obtain ⟨kept, skipped⟩ := h c rfl
    rw [frontOf, if_neg (by simp [kept])]
    cases hs : flags.skipSpace with
    | false => simp
    | true => simp [skipped hs]

lemma local_frontOf {keep : Char → Bool} (hk : keep ')' = false) (comment : Bool)
    (u : List Char) : Local (fun s => some (frontOf flags keep comment s)) u := by
  induction comment, u using frontOf.induct flags keep with
  | case1 comment => exact .nil fun a w h => by cases comment <;> cases h <;> rfl
  | case2 c rest ih => exact .cons c ih
  | case3 c rest kept _ _ _ ih =>
    refine .cons c (.congr (fun s => ?_) (ih.map fun front => c :: front))
    simp [frontOf, kept]
  | case4 c rest kept blank ih =>
    refine .cons c (.congr (fun s => ?_) ih)
    rw [frontOf, if_neg kept, if_pos blank]
  | case5 c rest kept blank mark ih =>
    refine .cons c (.congr (fun s => ?_) ih)
    rw [frontOf, if_neg kept, if_neg blank, if_pos mark]
  | case6 c rest kept blank mark =>
    have barrier : Barrier flags keep c := by
      refine ⟨Bool.eq_false_iff.mpr kept, fun skipped => ?_⟩
      simpa [skipped] using And.intro blank mark
    refine .of_blind (blind_head (barrier_paren hk)) (fun d hd => ?_)
      (fun s hs => congrArg some (frontOf_of_barrier hs)) (.pure [])
    cases hd
    exact barrier

lemma local_skip (flags : Flags) (u : List Char) :
    Local (fun s => some ((), skip flags s)) u :=
  (local_frontOf rfl false u).map fun _ => ()

lemma dropWhile_isBlank (s : List Char) :
    s.dropWhile isBlank = (frontOf {} isBlank false s).2 := by
  induction s with
  | nil => rfl
  | cons c s ih =>
    cases h : isBlank c with
    | true => simp [frontOf, h, ih]
    | false => simp [frontOf, h]

lemma local_dropBlank (u : List Char) : Local (fun s => some ((), s.dropWhile isBlank)) u := by
  simp only [dropWhile_isBlank]
  exact (local_frontOf (by decide) false u).map fun _ => ()

lemma head?_ne {α : Type} {a : α} {s : List α} (h : ∀ r, s = a :: r → False) :
    s.head? ≠ some a := by
  intro ha
  obtain ⟨r, hr⟩ := List.head?_eq_some_iff.mp ha
  exact h r hr

lemma ne_cons {α : Type} {a : α} {s : List α} (h : s.head? ≠ some a) (r : List α) :
    s = a :: r → False := by
  rintro rfl
  exact h rfl

lemma local_dropLazy (u : List Char) : Local (fun s => some ((), dropLazy s)) u :=
  .peek '?' (by decide) (fun _ _ => .pure ())
    (fun s h => congrArg some (congrArg _ (dropLazy.eq_2 s (ne_cons h)))) fun _ => .pure ()

/-- Blanks before a test change nothing about what it can tell apart. -/
lemma Blind.dropBlank {p : List Char → Prop} (hp : Blind p) :
    Blind fun s => p (s.dropWhile isBlank) := by
  intro y t t' ht ht' h
  have kept : ∀ {t}, Stops t → t.dropWhile isBlank = t := by
    rintro _ (_ | t)
    · rfl
    · exact List.dropWhile_cons_of_neg (by decide)
  simp only [List.dropWhile_append, kept ht, kept ht'] at h ⊢
  split
  · rename_i none
    rw [if_pos none] at h
    exact hp [] t t' ht ht' h
  · rename_i none
    rw [if_neg none] at h
    exact hp _ t t' ht ht' h

lemma opensRange_iff (s : List Char) :
    opensRange flags s = true ↔ ∀ c ∈ lookAhead? flags s, c ≠ ']' ∧ c ≠ '-' := by
  unfold opensRange
  split
  · rename_i h
    simp [h]
  · rename_i h
    simp [h]
  · rename_i bracket hyphen
    simp only [true_iff]
    intro c hc
    exact ⟨fun h => bracket (h ▸ hc), fun h => hyphen (h ▸ hc)⟩

/-- The look from a hyphen, past the white space before `s`. -/
def lookPast? : List Char → Option Char
  | '#' :: rest => (rest.dropWhile isBlank).head?
  | rest => rest.head?

lemma lookAhead?_eq (hs : flags.skipSpace = true) (s : List Char) :
    lookAhead? flags s = lookPast? (s.dropWhile isBlank) := by
  rw [lookAhead?, if_pos hs]
  rfl

lemma blind_lookPast {q : Char → Prop} (hq : q ')') :
    Blind fun s => ∀ c ∈ lookPast? s, q c := by
  rintro (_ | ⟨d, y⟩) t t' ht ht' h
  · cases ht' with
    | nil => nofun
    | paren t' =>
      rintro c ⟨⟩
      exact hq
  · by_cases hd : d = '#'
    · subst hd
      exact (blind_head hq).dropBlank y t t' ht ht' h
    · have other r : lookPast? (d :: r) = some d :=
        lookPast?.eq_2 (d :: r) fun _ h => hd (List.cons.inj h).1
      simp only [List.cons_append, other] at h ⊢
      exact h

lemma blind_opensRange (flags : Flags) : Blind fun s => opensRange flags s = true := by
  simp only [opensRange_iff]
  cases hs : flags.skipSpace with
  | false =>
    simp only [lookAhead?, hs, Bool.false_eq_true, if_false]
    exact blind_head (by decide)
  | true =>
    simp only [lookAhead?_eq hs]
    exact (blind_lookPast (by decide)).dropBlank

/-! ### Characters and counts -/

lemma charOf?_cons {c : Char} (hc : c ≠ '\\') (s : List Char) :
    charOf? (c :: s) = some (c, s) :=
  charOf?.eq_3 c s (fun _ _ h _ => hc h) fun h _ => hc h

lemma local_charOf? (u : List Char) : Local charOf? u := by
  refine .of_cons rfl fun c s _ => ?_
  by_cases hc : c = '\\'
  · subst hc
    refine .of_cons rfl fun d s _ => ?_
    simp only [charOf?]
    split
    · exact .pure d
    · exact .of_none rfl
  · exact .congr (charOf?_cons hc) (.pure c)

/-- The count that digits denote, with the white space behind them dropped. -/
def count? (digits s : List Char) : Option (Nat × List Char) :=
  let n := digits.foldl (fun n d => n * 10 + (d.toNat - '0'.toNat)) 0
  if digits.isEmpty || countBound ≤ n then none else some (n, s.dropWhile isBlank)

lemma local_count? (digits u : List Char) : Local (count? digits) u := by
  unfold count?
  dsimp only
  split
  · exact .of_none rfl
  · exact (local_dropBlank u).map fun _ => _

lemma local_number? (flags : Flags) (u : List Char) : Local (number? flags) u := by
  have digits w : Local (fun s => some (frontOf flags Char.isDigit false s)) w :=
    local_frontOf (by decide) false w
  have parts := (local_dropBlank u).bind fun _ w _ =>
    (digits w).bind fun digits w _ => local_count? digits w
  exact parts.congr fun s => rfl

lemma length_lt_of_charOf? {s rest : List Char} {c : Char} (h : charOf? s = some (c, rest)) :
    rest.length < s.length := by
  unfold charOf? at h
  split at h
  · split at h <;> cases h
    simp only [List.length_cons]
    omega
  · cases h
  · cases h
    exact Nat.lt_succ_self _
  · cases h

/-! ### Bounds -/

/-- What stands behind the bounds of a repetition. -/
def closing? {β : Type} (flags : Flags) (b : Option β) : List Char → Option (β × List Char)
  | '\x7d' :: rest => b.map (·, dropLazy (skip flags rest))
  | _ => none

lemma local_closing? {β : Type} (flags : Flags) (b : Option β) (u : List Char) :
    Local (closing? flags b) u := by
  refine .peek '\x7d' (by decide) (fun s _ => ?_) (fun s h => closing?.eq_2 _ _ s (ne_cons h))
    fun _ => .of_none rfl
  cases b with
  | none => exact .of_none rfl
  | some b => exact ((local_skip flags s).bind fun _ w _ => local_dropLazy w).map fun _ => b

/-- What stands behind the comma between the bounds of a repetition. -/
def upper? (flags : Flags) (min : Nat) : List Char → Option ((Nat × Option Nat) × List Char)
  | '\x7d' :: rest => some ((min, none), dropLazy (skip flags rest))
  | s =>
    (number? flags s).bind fun r =>
      closing? flags (if min ≤ r.1 then some (min, some r.1) else none) r.2

lemma local_upper? (flags : Flags) (min : Nat) (u : List Char) : Local (upper? flags min) u := by
  refine .peek '\x7d' (by decide) (fun s _ => ?_) (fun s h => upper?.eq_2 _ _ s (ne_cons h))
    fun _ => ?_
  · exact ((local_skip flags s).bind fun _ w _ => local_dropLazy w).map fun _ => (min, none)
  · exact (local_number? flags u).bind fun max w _ =>
      local_closing? flags (if min ≤ max then some (min, some max) else none) w

/-- What stands behind the lower bound of a repetition. -/
def behindLower? (flags : Flags) (min : Nat) :
    List Char → Option ((Nat × Option Nat) × List Char)
  | ',' :: rest => upper? flags min (skip flags rest)
  | s => closing? flags (some (min, some min)) s

lemma local_behindLower? (flags : Flags) (min : Nat) (u : List Char) :
    Local (behindLower? flags min) u := by
  refine .peek ',' (by decide) (fun s _ => ?_) (fun s h => behindLower?.eq_2 _ _ s (ne_cons h))
    fun _ => local_closing? flags _ u
  exact (local_skip flags s).bind fun _ w _ => local_upper? flags min w

lemma bounds?_eq (s : List Char) :
    (bounds? flags s).map (fun r => ((r.1, r.2.1), r.2.2)) =
      (number? flags (skip flags s)).bind fun r => behindLower? flags r.1 r.2 := by
  rw [bounds?]
  cases number? flags (skip flags s) with
  | none => rfl
  | some r =>
    obtain ⟨min, s⟩ := r
    simp only [Option.bind_eq_bind, Option.bind_some]
    split
    · rfl
    · rename_i rest
      rw [behindLower?]
      split
      · rename_i h
        rw [h]
        rfl
      · rename_i h
        rw [upper?.eq_2 _ _ _ h, Option.map_bind]
        refine Option.bind_congr fun r _ => ?_
        obtain ⟨max, s⟩ := r
        dsimp only [Function.comp_apply]
        split
        · split <;> rfl
        · rename_i h
          exact (closing?.eq_2 _ _ _ h).symm
    · rename_i h h'
      rw [behindLower?.eq_2 _ _ _ h', closing?.eq_2 _ _ _ h]
      rfl

lemma local_bounds? (flags : Flags) (u : List Char) :
    Local (fun s => (bounds? flags s).map fun r => ((r.1, r.2.1), r.2.2)) u := by
  have parts := (local_skip flags u).bind fun _ w _ =>
    (local_number? flags w).bind fun min w _ => local_behindLower? flags min w
  exact parts.congr bounds?_eq

/-! ### Classes -/

section Classes

variable {next next' : List Span → List Char → Option (List Span × List Char)}

/-- Whether a hyphen that makes a range stands next. -/
def Ranges (flags : Flags) (s : List Char) : Prop :=
  ∃ rest, s = '-' :: rest ∧ opensRange flags rest = true

lemma blind_ranges (flags : Flags) : Blind (Ranges flags) := by
  rintro (_ | ⟨d, y⟩) t t' ht ht' ⟨rest, h, opens⟩
  · cases ht <;> cases h
  · cases h
    exact ⟨_, rfl, blind_opensRange flags y t t' ht ht' opens⟩

lemma blind_twice {c : Char} (hc : c ≠ ')') : Blind fun s => ∃ r, s = c :: c :: r := by
  rintro (_ | ⟨d, _ | ⟨e, y⟩⟩) t t' ht ht' ⟨r, h⟩
  · cases ht <;> cases h
    exact absurd rfl hc
  · cases ht <;> cases h
    exact absurd rfl hc
  · cases h
    exact ⟨_, rfl⟩

/-- What may stand behind a character of a class, given how the class goes on behind that. -/
def behindMember? (flags : Flags)
    (next : List Span → List Char → Option (List Span × List Char)) (spans : List Span)
    (lo : Char) : List Char → Option (List Span × List Char)
  | '-' :: rest =>
    if opensRange flags rest then
      (charOf? (skip flags rest)).bind fun r =>
        (Span.ofBounds? lo.toNat r.1.toNat).bind fun span => next (span :: spans) r.2
    else next (.single lo.toNat :: spans) ('-' :: rest)
  | s => next (.single lo.toNat :: spans) s

lemma local_behindMember? (flags : Flags) (hn : ∀ spans u, Local (next spans) u)
    (spans : List Span) (lo : Char) (u : List Char) : Local (behindMember? flags next spans lo) u := by
  by_cases hu : Ranges flags u
  · obtain ⟨rest, rfl, opens⟩ := hu
    refine .cons '-' (.of_blind (blind_opensRange flags) opens (fun s hs => if_pos hs) ?_)
    have high hi w : Local (fun s =>
        (Span.ofBounds? lo.toNat (Char.toNat hi)).bind fun span => next (span :: spans) s) w := by
      cases Span.ofBounds? lo.toNat hi.toNat with
      | none => exact .of_none rfl
      | some span => exact hn _ w
    exact (local_skip flags rest).bind fun _ w _ => (local_charOf? w).bind fun hi w _ => high hi w
  · refine .of_blind (blind_ranges flags).not hu (fun s hs => ?_) (hn (.single lo.toNat :: spans) u)
    unfold behindMember?
    split
    · rename_i rest
      exact if_neg fun opens => hs ⟨rest, rfl, opens⟩
    · rfl

/-- What may stand next in a class. -/
def member? (flags : Flags) (next : List Span → List Char → Option (List Span × List Char))
    (spans : List Span) : List Char → Option (List Span × List Char)
  | [] => none
  | ']' :: rest => some (spans, rest)
  | '[' :: _ => none
  | '&' :: '&' :: _ => none
  | '-' :: '-' :: _ => none
  | '~' :: '~' :: _ => none
  | s => (charOf? s).bind fun r => behindMember? flags next spans r.1 (skip flags r.2)

/-- A text that neither ends a class nor begins with what a class must not hold. -/
structure Member (s : List Char) : Prop where
  bracket : s.head? ≠ some ']'
  nested : s.head? ≠ some '['
  both : ¬ ∃ r, s = '&' :: '&' :: r
  minus : ¬ ∃ r, s = '-' :: '-' :: r
  either : ¬ ∃ r, s = '~' :: '~' :: r

lemma blind_member : Blind Member := fun y t t' ht ht' h =>
  { bracket := (blind_head_eq (by decide)).not y t t' ht ht' h.bracket
    nested := (blind_head_eq (by decide)).not y t t' ht ht' h.nested
    both := (blind_twice (by decide)).not y t t' ht ht' h.both
    minus := (blind_twice (by decide)).not y t t' ht ht' h.minus
    either := (blind_twice (by decide)).not y t t' ht ht' h.either }

lemma member?_of_member {spans : List Span} {s : List Char} (h : Member s) :
    member? flags next spans s =
      (charOf? s).bind fun r => behindMember? flags next spans r.1 (skip flags r.2) := by
  cases s with
  | nil => rfl
  | cons c s =>
    exact member?.eq_7 _ _ _ _ nofun (ne_cons h.bracket) (ne_cons h.nested)
      (fun r hr => h.both ⟨r, hr⟩) (fun r hr => h.minus ⟨r, hr⟩) fun r hr => h.either ⟨r, hr⟩

lemma member?_cases (flags : Flags)
    (next : List Span → List Char → Option (List Span × List Char)) (spans : List Span)
    (s : List Char) :
    Member s ∨ (∃ r, s = ']' :: r) ∨ member? flags next spans s = none := by
  unfold member?
  split
  · exact .inr (.inr rfl)
  · exact .inr (.inl ⟨_, rfl⟩)
  · exact .inr (.inr rfl)
  · exact .inr (.inr rfl)
  · exact .inr (.inr rfl)
  · exact .inr (.inr rfl)
  · rename_i bracket nested both minus either
    exact .inl ⟨head?_ne bracket, head?_ne nested, fun ⟨r, hr⟩ => both r hr,
      fun ⟨r, hr⟩ => minus r hr, fun ⟨r, hr⟩ => either r hr⟩

lemma local_member? (hn : ∀ spans u, Local (next spans) u) (spans : List Span)
    (u : List Char) : Local (member? flags next spans) u := by
  rcases member?_cases flags next spans u with hu | ⟨r, rfl⟩ | hu
  · have plain := (local_charOf? u).bind fun lo w _ =>
      (local_skip flags w).bind fun _ w _ => local_behindMember? flags hn spans lo w
    exact .of_blind blind_member hu (fun s hs => member?_of_member hs) plain
  · exact .cons ']' (.pure spans)
  · exact .of_none hu

lemma classBody?_succ (fuel : Nat) (spans : List Span) (s : List Char) :
    classBody? flags (fuel + 1) spans s =
      member? flags (classBody? flags fuel) spans (skip flags s) := by
  rfl

lemma local_classBody? (flags : Flags) (fuel : Nat) (spans : List Span) (u : List Char) :
    Local (classBody? flags fuel spans) u := by
  induction fuel generalizing spans u with
  | zero => exact .of_none rfl
  | succ fuel ih =>
    exact ((local_skip flags u).bind fun _ w _ => local_member? ih spans w).congr
      fun s => classBody?_succ fuel spans s

lemma behindMember?_mono {spans : List Span} {lo : Char} {s : List Char}
    {r : List Span × List Char}
    (hn : ∀ spans w, w.length ≤ s.length → next spans w = some r → next' spans w = some r)
    (h : behindMember? flags next spans lo s = some r) :
    behindMember? flags next' spans lo s = some r := by
  unfold behindMember? at h ⊢
  split at h
  · rename_i rest
    split at h
    · rename_i opens
      rw [if_pos opens]
      obtain ⟨⟨hi, w⟩, hw, h⟩ := Option.bind_eq_some_iff.mp h
      obtain ⟨span, hspan, h⟩ := Option.bind_eq_some_iff.mp h
      have := (local_skip flags rest).shrinks rfl
      have := length_lt_of_charOf? hw
      rw [hw, Option.bind_some, hspan]
      exact hn _ w (by simp only [List.length_cons]; omega) h
    · rename_i opens
      rw [if_neg opens]
      exact hn _ _ (Nat.le_refl _) h
  · exact hn _ _ (Nat.le_refl _) h

/-- A member of a class takes at least one character. -/
lemma member?_mono {spans : List Span} {s : List Char} {r : List Span × List Char}
    (hn : ∀ spans w, w.length < s.length → next spans w = some r → next' spans w = some r)
    (h : member? flags next spans s = some r) : member? flags next' spans s = some r := by
  rcases member?_cases flags next spans s with hs | ⟨rest, rfl⟩ | hs
  · rw [member?_of_member hs] at h ⊢
    obtain ⟨⟨lo, w⟩, hw, h⟩ := Option.bind_eq_some_iff.mp h
    have taken := length_lt_of_charOf? hw
    have skipped : (skip flags w).length ≤ w.length := (local_skip flags w).shrinks rfl
    rw [hw, Option.bind_some]
    refine behindMember?_mono (fun spans x hx => hn spans x ?_) h
    exact Nat.lt_of_le_of_lt (Nat.le_trans hx skipped) taken
  · exact h
  · rw [hs] at h
    cases h

/-- Fuel beyond the length of the text makes no difference. -/
lemma classBody?_of_lt {n m : Nat} {spans : List Span} {s : List Char}
    {r : List Span × List Char} (h : classBody? flags n spans s = some r) (hm : s.length < m) :
    classBody? flags m spans s = some r := by
  induction n generalizing m spans s with
  | zero => cases h
  | succ n ih =>
    obtain ⟨m, rfl⟩ := Nat.exists_eq_add_of_le' (Nat.zero_lt_of_lt hm)
    rw [classBody?_succ] at h ⊢
    have := (local_skip flags s).shrinks rfl
    exact member?_mono (fun spans w hw hr => ih hr (by omega)) h

end Classes

lemma local_classRest (flags : Flags) (spans : List Span) (u : List Char) :
    Local (fun s => classBody? flags (s.length + 1) spans s) u where
  shrinks h := (local_classBody? flags _ spans u).shrinks h
  moves h := by
    obtain ⟨y, rfl, hy⟩ := (local_classBody? flags _ spans u).moves h
    exact ⟨y, rfl, fun t' ht' => classBody?_of_lt (hy t' ht') (Nat.lt_succ_self _)⟩

/-- What stands behind the hyphens at the start of a class. -/
def behindHyphens : List Char → List Char → List Span × List Char
  | [], ']' :: rest => ([.single ']'.toNat], rest)
  | hyphens, rest => (hyphens.map fun c => .single c.toNat, rest)

lemma local_behindHyphens (hyphens u : List Char) :
    Local (fun s => some (behindHyphens hyphens s)) u := by
  cases hyphens with
  | nil =>
    exact .peek ']' (by decide) (fun _ _ => .pure [Span.single ']'.toNat])
      (fun s h => congrArg some (behindHyphens.eq_2 [] s fun r _ => ne_cons h r)) fun _ => .pure []
  | cons c hyphens => exact .pure ((c :: hyphens).map fun c => Span.single c.toNat)

lemma local_classFront (flags : Flags) (u : List Char) :
    Local (fun s => some (classFront flags s)) u := by
  have hyphens : Local (fun s => some (frontOf flags (· == '-') false s)) u :=
    local_frontOf (by decide) false u
  have parts := hyphens.bind fun hyphens w _ => local_behindHyphens hyphens w
  refine parts.congr fun s => congrArg some ?_
  unfold classFront
  split
  · rename_i h
    rw [h]
    rfl
  · rename_i hyphens rest other h
    rw [h]
    exact (behindHyphens.eq_2 _ _ other).symm

/-- Whether a class is given by what it does not hold. -/
def negation : List Char → Bool × List Char
  | '^' :: rest => (true, rest)
  | s => (false, s)

lemma local_negation (u : List Char) : Local (fun s => some (negation s)) u :=
  .peek '^' (by decide) (fun _ _ => .pure true)
    (fun s h => congrArg some (negation.eq_2 s (ne_cons h))) fun _ => .pure false

lemma local_class? (flags : Flags) (u : List Char) : Local (class? flags) u := by
  have parts := (local_skip flags u).bind fun _ w _ => (local_negation w).bind fun negated w _ =>
    (local_classFront flags w).bind fun front w _ =>
      (local_classRest flags front w).map fun spans =>
        let cls := CharClass.ofSpans spans
        let cls := if flags.ignoreCase then cls.foldCase else cls
        let cls := if negated then cls.complement else cls
        (⟨.char cls, if spans.length < 2 then 1 else 2⟩ : Nested)
  refine parts.congr fun s => ?_
  simp only [Option.bind_some, Option.map_eq_bind]
  rfl

/-! ### Groups -/

/-- Flags, with the character behind them taken too. -/
lemma local_flags? {β : Type} {k : List Char → Flags → List Char → Option (β × List Char)}
    (hk : ∀ seen flags c u, Local (fun s => k seen flags (c :: s)) u) (on : Bool)
    (seen : List Char) (flags : Flags) (u : List Char) :
    Local (fun s => (flags? on seen flags s).bind fun r => k r.1 r.2.1 r.2.2) u := by
  induction on, seen, flags, u using flags?.induct with
  | case1 on seen flags rest named =>
    refine .of_none ?_
    rw [flags?, if_pos named, Option.bind_none]
  | case2 on seen flags rest named ih =>
    refine .cons 'i' (.congr (fun s => ?_) ih)
    rw [flags?, if_neg named]
  | case3 on seen flags rest named =>
    refine .of_none ?_
    rw [flags?, if_pos named, Option.bind_none]
  | case4 on seen flags rest named ih =>
    refine .cons 'x' (.congr (fun s => ?_) ih)
    rw [flags?, if_neg named]
  | case5 seen flags c rest known ih =>
    have hc : c ≠ ')' := by
      rintro rfl
      cases known
    refine .cons '-' (.of_blind (blind_head_eq hc) rfl (fun s hs => ?_) ih)
    obtain ⟨s, rfl⟩ := List.head?_eq_some_iff.mp hs
    rw [flags?, if_pos known]
  | case6 seen flags c rest known =>
    refine .of_none ?_
    rw [flags?, if_neg known, Option.bind_none]
  | case7 on seen flags rest =>
    refine .cons ':' (.congr (fun s => ?_) (hk seen flags ':' rest))
    rw [flags?, Option.bind_some]
  | case8 on seen flags rest =>
    refine .cons ')' (.congr (fun s => ?_) (hk seen flags ')' rest))
    rw [flags?, Option.bind_some]
  | case9 s on seen flags i x colon paren hyphen =>
    refine .of_none ?_
    rw [flags?.eq_6 _ _ _ _ i x colon paren hyphen, Option.bind_none]

namespace State

/-- What stands behind the flags of a group. -/
def behindFlags (st : State) (named : List Char) (flags : Flags) :
    List Char → Option (State × List Char)
  | ':' :: rest => some (st.enter false flags, rest)
  | _ :: rest => if named.isEmpty then none else some (st.setFlags flags, rest)
  | [] => none

lemma local_behindFlags (st : State) (named : List Char) (flags : Flags) (c : Char)
    (u : List Char) : Local (fun s => st.behindFlags named flags (c :: s)) u := by
  by_cases hc : c = ':'
  · subst hc
    exact .pure (st.enter false flags)
  · simp only [behindFlags.eq_2 _ _ _ _ _ hc]
    split
    · exact .of_none rfl
    · exact .pure (st.setFlags flags)

/-- What stands behind an opening parenthesis. -/
def opened? (st : State) : List Char → Option (State × List Char)
  | '?' :: rest =>
    (flags? true [] st.flags rest).bind fun r => st.behindFlags r.1 r.2.1 r.2.2
  | s => some (st.enter true st.flags, s)

lemma openGroup?_eq (st : State) (s : List Char) :
    st.openGroup? s = st.opened? (skip st.flags s) := by
  unfold openGroup?
  split
  · rename_i rest h
    rw [h, opened?]
    refine Option.bind_congr fun r _ => ?_
    obtain ⟨named, flags, rest⟩ := r
    dsimp only
    split
    · rfl
    · rename_i colon _
      exact (behindFlags.eq_2 _ _ _ _ _ colon).symm
    · rfl
  · rename_i h
    exact (opened?.eq_2 st _ h).symm

lemma local_openGroup? (st : State) (u : List Char) : Local st.openGroup? u := by
  have opened w : Local st.opened? w :=
    .peek '?' (by decide) (fun s _ => local_flags? st.local_behindFlags true [] st.flags s)
      (fun s h => opened?.eq_2 st s (ne_cons h)) fun _ => .pure (st.enter true st.flags)
  have parts := (local_skip st.flags u).bind fun _ w _ => opened w
  exact parts.congr st.openGroup?_eq

/-- The characters that mean something of their own in a pattern. -/
def special : List Char := ['(', ')', '|', '[', '?', '*', '+', '\x7b', '.', '^', '$']

lemma step?_of_not_special (st : State) {c : Char} (hc : c ∉ special) (s : List Char) :
    st.step? (c :: s) = (charOf? (c :: s)).map fun r => (st.literal r.1, r.2) := by
  unfold step?
  split
  all_goals first | rfl | simp_all [special]

lemma local_done (r : Option State) (u : List Char) : Local (fun s => r.map (·, s)) u := by
  cases r with
  | none => exact .of_none rfl
  | some st => exact .pure st

lemma local_doneLazy (r : Option State) (u : List Char) :
    Local (fun s => r.map (·, dropLazy s)) u :=
  (local_dropLazy u).bind fun _ w _ => local_done r w

/-- A repetition with bounds. -/
lemma local_counted (st : State) (u : List Char) :
    Local (fun s => (bounds? st.flags s).bind fun r =>
      (st.repeat? r.1 r.2.1).map (·, r.2.2)) u := by
  have parts := (local_bounds? st.flags u).bind fun b w _ => local_done (st.repeat? b.1 b.2) w
  exact parts.congr fun s => by rw [Option.bind_map]; rfl

lemma local_step?_of_special (st : State) {c : Char} (hc : c ∈ special) (u : List Char) :
    Local (fun s => st.step? (c :: s)) u := by
  simp only [special, List.mem_cons, List.not_mem_nil, or_false] at hc
  -- in the order of `special`: groups, choices, classes, repetitions, the dot and the anchors
  rcases hc with rfl | rfl | rfl | rfl | rfl | rfl | rfl | rfl | rfl | rfl | rfl
  · exact local_openGroup? st u
  · exact local_done st.leave? u
  · exact .pure { st with group := st.group.bar }
  · exact ((local_class? st.flags u).map fun cls => st.pushNested cls).congr
      fun s => Option.map_eq_bind.symm
  · exact local_doneLazy _ u
  · exact local_doneLazy _ u
  · exact local_doneLazy _ u
  · refine (local_counted st u).congr fun s => ?_
    simp only [Option.map_eq_bind]
    rfl
  · exact .pure (st.push (.char .dot))
  · exact .pure (st.push .start)
  · exact .pure (st.push .stop)

theorem local_step? (st : State) (u : List Char) : Local st.step? u := by
  cases u with
  | nil => exact .of_none rfl
  | cons c u =>
    by_cases hc : c ∈ special
    · exact .cons c (local_step?_of_special st hc u)
    · refine .of_blind (blind_head_eq (c := c) ?_) rfl (fun s hs => ?_)
        ((local_charOf? (c :: u)).map fun c => st.literal c)
      · rintro rfl
        exact hc (by decide)
      · obtain ⟨s, rfl⟩ := List.head?_eq_some_iff.mp hs
        exact st.step?_of_not_special hc s

lemma length_lt_of_step? {st st' : State} {s rest : List Char}
    (h : st.step? s = some (st', rest)) : rest.length < s.length := by
  cases s with
  | nil => cases h
  | cons c s =>
    by_cases hc : c ∈ special
    · exact Nat.lt_succ_of_le ((local_step?_of_special st hc s).shrinks h)
    · rw [st.step?_of_not_special hc] at h
      obtain ⟨⟨d, rest⟩, hd, h⟩ := Option.map_eq_some_iff.mp h
      cases h
      exact length_lt_of_charOf? hd

end State

end TextTypes.Pattern.Reader
