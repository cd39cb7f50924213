import TextTypes.Proofs.TextType.Building
import TextTypes.Proofs.TextType.Coverage
import TextTypes.Proofs.TextType.Drafts

/-!
Where rejections point.

A rejection gives the place of a character that stays in place, counted in the whole normalized
text, however much has been replaced before it. What is reported is that character, or the
substitute for it; and every character that is not accepted is reported.
-/

namespace TextTypes.TextType

open TextTypes.Unicode

variable {t : TextType}

/-! ### What is rejected -/

/-- What a reading holds against a character that stays in place, and what it reports for it. -/
inductive Faulty (t : TextType) : (c reported : Char) → Prop
  | unaccepted (c : Char) (hc : isBlank c = false) (h : t.accepted.containsChar c = false) :
      Faulty t c c
  | forbidden (c : Char) (hc : isBlank c = true) (h : t.whitespace = .forbid) : Faulty t c c
  | substitute (c s : Char) (hc : isBlank c = true) (hs : t.whitespace.substitute? = some s)
      (h : t.accepted.containsChar s = false) : Faulty t c s

/-- What may be noted at the place of a character. -/
def Notes (t : TextType) (c : Char) (index : Nat) (noted : Option Rejection) : Prop :=
  ∀ r ∈ noted, ∃ reported, t.Faulty c reported ∧ r = rejection (.of reported) reported index

lemma rejection?_emit {c : Char} {r : Rejection} {index : Nat}
    (h : (t.emit c index).rejection? = some r) :
    t.accepted.containsChar c = false ∧ r = rejection (.of c) c index := by
  unfold emit at h
  split at h
  · cases h
  next hc => exact ⟨by simpa using hc, (Option.some.inj h).symm⟩

/-- White space leads to one rejection at most, in its own place. -/
lemma rejectionsOf_emitBlank {c : Char} (hc : isBlank c = true) (inRun : Bool) (index : Nat) :
    ∃ noted, rejectionsOf (t.emitBlank inRun c index) = noted.toList ∧ t.Notes c index noted := by
  have hnothing : t.Notes c index none := by rintro r ⟨⟩
  have hsubstitute : ∀ s, t.whitespace.substitute? = some s →
      t.Notes c index (t.emit s index).rejection? := by
    rintro s hs r hr
    obtain ⟨haccepted, rfl⟩ := rejection?_emit hr
    exact ⟨s, .substitute c s hc hs haccepted, rfl⟩
  have hone : ∀ e : Emission, rejectionsOf [e] = e.rejection?.toList := by
    intro e
    rw [rejectionsOf, List.filterMap_cons]
    rcases e.rejection? with _ | r <;> rfl
  unfold emitBlank
  cases hpolicy : t.whitespace with
  | forbid =>
    refine ⟨some (rejection .whitespace c index), rfl, ?_⟩
    rintro r ⟨⟩
    exact ⟨c, .forbidden c hc hpolicy, by rw [CharFault.of, if_pos hc]⟩
  | preserve => exact ⟨none, rfl, hnothing⟩
  | remove => exact ⟨none, rfl, hnothing⟩
  | substitute s => exact ⟨_, hone _, hsubstitute s (by rw [hpolicy]; rfl)⟩
  | collapse =>
    cases inRun with
    | true => exact ⟨none, rfl, hnothing⟩
    | false => exact ⟨none, rfl, hnothing⟩
  | collapseTo s =>
    cases inRun with
    | true => exact ⟨none, rfl, hnothing⟩
    | false => exact ⟨_, hone _, hsubstitute s (by rw [hpolicy]; rfl)⟩

section Pieces

variable {offset : Nat} {inRun : Bool} {pieces : List Converter.Piece}

/-- A character that stays in place leads to one rejection at most, in that place. -/
lemma rejectionsOf_kept (offset : Nat) (inRun : Bool) (i : Nat) (c : Char)
    (rest : List Converter.Piece) :
    ∃ noted, t.Notes c (offset + i) noted ∧
      rejectionsOf (t.emissions offset inRun (.kept i c :: rest)) =
        noted.toList ++ rejectionsOf (t.emissions offset (isBlank c) rest) := by
  rw [emissions]
  cases hc : isBlank c with
  | true =>
    obtain ⟨noted, hnoted, hnotes⟩ := t.rejectionsOf_emitBlank hc inRun (offset + i)
    refine ⟨noted, hnotes, ?_⟩
    rw [if_pos rfl, ← hnoted]
    exact List.filterMap_append
  | false =>
    refine ⟨(t.emit c (offset + i)).rejection?, fun r hr => ?_, ?_⟩
    · obtain ⟨haccepted, rfl⟩ := rejection?_emit hr
      exact ⟨c, .unaccepted c hc haccepted, rfl⟩
    · rw [if_neg Bool.false_ne_true, rejectionsOf, List.filterMap_cons]
      rcases (t.emit c (offset + i)).rejection? with _ | r <;> rfl

lemma rejectionsOf_replaced (offset : Nat) (inRun : Bool) (i : Nat) (source r : List Char)
    (rest : List Converter.Piece) :
    rejectionsOf (t.emissions offset inRun (.replaced i source r :: rest)) =
      rejectionsOf (t.emissions offset (inRun && r.isEmpty) rest) := by
  have hnone : rejectionsOf (r.map .write) = [] :=
    List.filterMap_eq_nil_iff.mpr fun e he => by
      obtain ⟨c, -, rfl⟩ := List.mem_map.mp he
      rfl
  rw [emissions, rejectionsOf, List.filterMap_append]
  exact congrArg (· ++ _) hnone

/-- Whatever is rejected stays in place. -/
lemma exists_kept_of_mem_rejectionsOf {r : Rejection}
    (h : r ∈ rejectionsOf (t.emissions offset inRun pieces)) :
    ∃ i c reported, .kept i c ∈ pieces ∧ t.Faulty c reported ∧
      r = rejection (.of reported) reported (offset + i) := by
  induction pieces generalizing inRun with
  | nil => cases h
  | cons piece rest ih =>
    have hrest : ∀ next, r ∈ rejectionsOf (t.emissions offset next rest) →
        ∃ i c reported, .kept i c ∈ piece :: rest ∧ t.Faulty c reported ∧
          r = rejection (.of reported) reported (offset + i) := fun next hr => by
      obtain ⟨i, c, reported, hc, hfault⟩ := ih hr
      exact ⟨i, c, reported, List.mem_cons_of_mem piece hc, hfault⟩
    cases piece with
    | replaced i source replacement =>
      rw [rejectionsOf_replaced] at h
      exact hrest _ h
    | kept i c =>
      obtain ⟨noted, hnotes, hnoted⟩ := t.rejectionsOf_kept offset inRun i c rest
      rw [hnoted, List.mem_append, Option.mem_toList] at h
      rcases h with h | h
      · obtain ⟨reported, hfault⟩ := hnotes r h
        exact ⟨i, c, reported, List.mem_cons_self, hfault⟩
      · exact hrest _ h

/-- Rejections come in the order of the pieces. -/
lemma pairwise_rejectionsOf (h : pieces.Pairwise fun p q => p.index < q.index) :
    (rejectionsOf (t.emissions offset inRun pieces)).Pairwise (·.index < ·.index) := by
  induction pieces generalizing inRun with
  | nil => exact List.Pairwise.nil
  | cons piece rest ih =>
    obtain ⟨hahead, hrest⟩ := List.pairwise_cons.mp h
    cases piece with
    | replaced i source r =>
      rw [rejectionsOf_replaced]
      exact ih hrest
    | kept i c =>
      obtain ⟨noted, hnotes, hnoted⟩ := t.rejectionsOf_kept offset inRun i c rest
      rw [hnoted]
      cases noted with
      | none => exact ih hrest
      | some r =>
        obtain ⟨reported, -, rfl⟩ := hnotes r rfl
        refine List.pairwise_cons.mpr ⟨fun r' hr' => ?_, ih hrest⟩
        obtain ⟨j, d, reported', hd, -, rfl⟩ := exists_kept_of_mem_rejectionsOf hr'
        exact Nat.add_lt_add_left (hahead _ hd) offset

lemma mem_rejectionsOf_of_kept {i : Nat} {c : Char} (h : .kept i c ∈ pieces)
    (hc : isBlank c = false) (haccepted : t.accepted.containsChar c = false) :
    rejection (.of c) c (offset + i) ∈ rejectionsOf (t.emissions offset inRun pieces) := by
  refine List.mem_filterMap.mpr ⟨_, emit_mem_emissions h hc, ?_⟩
  rw [emit, haccepted]
  rfl

end Pieces

/-! ### What a text is rejected for -/

/-- A rejection points to a character of a text that has to be rejected. The character stands inside
the text and belongs to no source that is replaced. -/
structure Justified (t : TextType) (text : List Char) (r : Rejection) : Prop where
  inside : Inside text r.index
  unreplaced : ∀ replacement, ¬t.ReplacedBy text r.index replacement
  faulty : ∃ c reported, text[r.index]? = some c ∧ t.Faulty c reported ∧
    r.codePoint = reported.toNat ∧ r.kind = .invalid (.of reported)

lemma justified_of_mem_emitted {s : List Char} {r : Rejection}
    (h : r ∈ rejectionsOf (t.emitted (some s))) : t.Justified (t.normal.apply s) r := by
  rw [emitted, emissionsOf_eq] at h
  obtain ⟨i, c, reported, hc, hfault, rfl⟩ := exists_kept_of_mem_rejectionsOf h
  exact ⟨inside_of_kept hc, fun _ => not_replacedBy_of_kept hc, c, reported, getElem?_of_kept hc,
    hfault, rfl, rfl⟩

/-- A strict reading that stops at a character stops at the first one that is rejected. -/
lemma exists_rejection_of_parse {s : List Char} {e : ParseError}
    (hs : (t.normal.apply s).all isBlank = false) (h : t.parse (some s) = .error e)
    (he : e.kind.isInvalidCodePoint = true) :
    ∃ r rest, rejectionsOf (t.emitted (some s)) = r :: rest ∧ e = r.toError := by
  rw [parse_eq hs] at h
  rcases room_cases t.maxSize (spell t.case true (unrejected (t.emitted (some s)))).length with
    hroom | ⟨m, hm, hlt⟩
  · rw [room_of_le hroom] at h
    rcases hnoted : rejectionsOf (t.emitted (some s)) with _ | ⟨r, rest⟩
    · rw [hnoted] at h
      rcases hcheck : t.check (t.settle (t.draft (some s))) with e' | u
      · rw [hcheck] at h
        cases h
        rw [not_isInvalidCodePoint (check_error hcheck)] at he
        cases he
      · rw [hcheck] at h
        cases h
    · rw [hnoted] at h
      cases h
      exact ⟨r, rest, rfl, rfl⟩
  · rw [hm, room_of_lt hlt] at h
    cases h
    cases he

/-- **Every rejection is justified, and none is missing.** When a strict reading stops at a
character, and whenever a lenient one replaces a character, the index is that of a character inside
the normalized text that no substitution applies to. That character is not accepted or it is
forbidden white space, or it is white space and the substitute for it is not accepted. A lenient
reading notes its rejections in the order of their places, and among them every visible character
that is neither replaced nor accepted. -/
theorem justified_of_parse (t : TextType) (input : Option (List Char)) :
    (∀ e, t.parse input = .error e → e.kind.isInvalidCodePoint = true →
      ∃ s ∈ input, ∃ r, e = r.toError ∧ t.Justified (t.normal.apply s) r) ∧
    ∀ a rs, t.parseLenient input = .ok (a, rs) →
      (∀ r ∈ rs, ∃ s ∈ input, t.Justified (t.normal.apply s) r) ∧
      rs.Pairwise (·.index < ·.index) ∧
      ∀ s ∈ input, ∀ i c, (t.normal.apply s)[i]? = some c → isBlank c = false →
        t.accepted.containsChar c = false →
        (∀ replacement, ¬t.ReplacedBy (t.normal.apply s) i replacement) →
        ∃ r ∈ rs, r.index = i ∧ r.codePoint = c.toNat := by
  rcases t.resolves_or input with hblank | ⟨s, rfl, hs⟩
  · obtain ⟨resolved, -, hread⟩ := hblank.read
    refine ⟨fun e h _ => ?_, fun a rs h => ?_⟩
    · rw [parse, hread t rfl rfl] at h
      cases h
    · rw [parseLenient, hread t rfl rfl] at h
      cases h
      refine ⟨by simp, List.Pairwise.nil, fun s hs i c hi hc => ?_⟩
      -- nothing of a blank text is visible
      rw [List.all_eq_true.mp (hblank s hs) c (List.mem_of_getElem? hi)] at hc
      cases hc
  · refine ⟨fun e h he => ?_, fun a rs h => ?_⟩
    · obtain ⟨r, rest, hnoted, rfl⟩ := exists_rejection_of_parse hs h he
      exact ⟨s, rfl, r, rfl, justified_of_mem_emitted (by rw [hnoted]; exact List.mem_cons_self)⟩
    · obtain ⟨-, rfl, -⟩ := outcome_of_parseLenient hs h
      refine ⟨fun r hr => ⟨s, rfl, justified_of_mem_emitted hr⟩, ?_, ?_⟩
      · rw [emitted, emissionsOf_eq]
        exact pairwise_rejectionsOf (Converter.tiles_pieces _ _).pairwise_index
      · rintro s' ⟨⟩ i c hi hc haccepted hplain
        rcases t.kept_or_replacedBy hi hc with ⟨k, rfl, hk⟩ | ⟨replacement, hreplaced⟩
        · refine ⟨rejection (.of c) c (margin (t.normal.apply s) + k), ?_, rfl, rfl⟩
          rw [emitted, emissionsOf_eq]
          exact mem_rejectionsOf_of_kept hk hc haccepted
        · exact absurd hreplaced (hplain replacement)

/-- Small letters, with arrows replaced and blanks shown by a sign that is not accepted. -/
def Builder.fragments : Builder :=
  { (({} : Builder).acceptRange 0x61 0x7A).convertSequence ['-', '>'] ['x'] with
    whitespace := .collapseTo '#'
    normal := .preserve }

/-- The digit stands in its place behind the margin and the two characters of the arrow, and the
blank in front of it is reported by its substitute. -/
theorem justified_of_parse_fragments :
    ∃ t, Builder.fragments.build = .ok t ∧
      t.parseLenient (some "  a->b 1c ".toList) =
        .ok (some "axb\ufffd\ufffdc".toList,
          [⟨0x23, 6, .invalid .character⟩, ⟨0x31, 7, .invalid .character⟩]) ∧
      t.Justified "  a->b 1c ".toList ⟨0x31, 7, .invalid .character⟩ ∧
      t.parse (some "  a->b 1c ".toList) = .error (.invalid .character 0x23 6) ∧
      ∃ r, .invalid .character 0x23 6 = r.toError ∧ t.Justified "  a->b 1c ".toList r := by
  obtain ⟨t, hbuild⟩ := Builder.exists_of_build (b := Builder.fragments) (by decide +kernel)
  have hnormal : t.normal = .preserve :=
    Builder.eq_of_build hbuild TextType.normal (by decide +kernel)
  have hruns : (t.parseLenient (some "  a->b 1c ".toList), t.parse (some "  a->b 1c ".toList)) =
      (.ok (some "axb\ufffd\ufffdc".toList,
        [⟨0x23, 6, .invalid .character⟩, ⟨0x31, 7, .invalid .character⟩]),
        .error (.invalid .character 0x23 6)) :=
    Builder.eq_of_build hbuild (fun t => (t.parseLenient _, t.parse _)) (by decide +kernel)
  simp only [Prod.mk.injEq] at hruns
  obtain ⟨hlenient, hstrict⟩ := hruns
  obtain ⟨hparse, hnoted⟩ := t.justified_of_parse (some "  a->b 1c ".toList)
  obtain ⟨s, hs, hjustified⟩ :=
    (hnoted _ _ hlenient).1 ⟨0x31, 7, .invalid .character⟩ (by simp)
  obtain rfl := Option.some.inj hs
  obtain ⟨s, hs, r, hr, hfirst⟩ := hparse _ hstrict rfl
  obtain rfl := Option.some.inj hs
  rw [apply_of_preserve hnormal] at hjustified hfirst
  exact ⟨t, hbuild, hlenient, hjustified, hstrict, r, hr, hfirst⟩

end TextTypes.TextType
