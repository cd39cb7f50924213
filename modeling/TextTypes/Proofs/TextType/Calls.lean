import TextTypes.Proofs.CodeSet.Built
import TextTypes.Proofs.Conversion.Building
import TextTypes.Proofs.TextType.Building
import TextTypes.Proofs.TextType.Conversion
import TextTypes.Proofs.TextType.Coverage

/-!
Text types from sequences of calls.

A call hands what it accepts or rejects to the builder of the accepted set, and a rule to the
builder of the converter; both are followed call by call. Each of them remembers its own first
fault, and a build looks at the accepted set first. What has been rejected is not accepted, whatever
else a call accepts, but a rule that replaces it is applied before it could be put to the test.
-/

namespace TextTypes.TextType.Builder

open TextTypes.Unicode

/-! ### Calls -/

/-- A call that configures a text type. A single character is a text of one, a range of characters
is the range between their code points, and a fixed size is a least and a greatest size. -/
inductive Call
  | acceptCodePoint (cp : Nat)
  | acceptCodePoints (cps : List Nat)
  | acceptRange (lo hi : Nat)
  | acceptChars (s : List Char)
  | acceptCategory (c : Category)
  | acceptSet (s : CodeSet)
  | rejectChars (s : List Char)
  | convertChar (source : Char) (replacement : List Char)
  | convertCodePoint (source : Nat) (replacement : List Nat)
  | convertSequence (source replacement : List Char)
  | convertCategory (c : Category) (replacement : List Char)
  | minSize (n : Nat)
  | maxSize (n : Nat)
  | case (p : CasePolicy)
  | whitespace (p : WhitespacePolicy)
  | nulls (p : NullPolicy)
  | normalForm (f : NormalForm)
  | pattern (s : List Char)
  | validator (accepts : List Char → Bool)

namespace Call

def apply (b : Builder) : Call → Builder
  | acceptCodePoint cp => b.acceptCodePoint cp
  | acceptCodePoints cps => b.acceptCodePoints cps
  | acceptRange lo hi => b.acceptRange lo hi
  | acceptChars s => b.acceptChars s
  | acceptCategory c => b.acceptCategory c
  | acceptSet s => b.acceptSet s
  | rejectChars s => b.rejectChars s
  | convertChar source replacement => b.convertChar source replacement
  | convertCodePoint source replacement => b.convertCodePoint source replacement
  | convertSequence source replacement => b.convertSequence source replacement
  | convertCategory c replacement => b.convertCategory c replacement
  | minSize n => b.withMinSize n
  | maxSize n => b.withMaxSize n
  | case p => b.withCase p
  | whitespace p => b.withWhitespace p
  | nulls p => b.withNulls p
  | normalForm f => b.withNormalForm f
  | pattern s => b.withPattern s
  | validator accepts => b.withValidator accepts

/-- What a call asks of the accepted set. The source of a rule is accepted. -/
def sets : Call → List CodeSet.Builder.Call
  | acceptCodePoint cp => [.including (.codePoint cp)]
  | acceptCodePoints cps => cps.map fun cp => .including (.codePoint cp)
  | acceptRange lo hi => [.including (.range lo hi)]
  | acceptChars s => [.including (.chars s)]
  | acceptCategory c => [.including (.category c)]
  | acceptSet s => [.including (.set s)]
  | rejectChars s => [.excluding (.chars s)]
  | convertChar source _ => [.including (.codePoint source.toNat)]
  | convertCodePoint source _ => [.including (.codePoint source)]
  | convertSequence source _ => [.including (.chars source)]
  | convertCategory c _ => [.including (.category c)]
  | _ => []

/-- The rule that a call gives to the converter. -/
def rule? : Call → Option Converter.Builder.Call
  | convertChar source replacement => some (.char source replacement)
  | convertCodePoint source replacement => some (.codePoint source replacement)
  | convertSequence source replacement => some (.sequence source replacement)
  | convertCategory c replacement => some (.category c replacement)
  | _ => none

end Call

/-- The builder after a sequence of calls. -/
def ofCalls (calls : List Call) : Builder := calls.foldl Call.apply {}

lemma ofCalls_concat (calls : List Call) (call : Call) :
    ofCalls (calls ++ [call]) = call.apply (ofCalls calls) := by
  simp [ofCalls]

lemma acceptCodePoints_eq (b : Builder) (cps : List Nat) :
    b.acceptCodePoints cps =
      { b with
        accepted := (Call.acceptCodePoints cps).sets.foldl CodeSet.Builder.Call.apply b.accepted } := by
  induction cps generalizing b with
  | nil => rfl
  | cons cp cps ih => exact ih (b.acceptCodePoint cp)

lemma accepted_apply (b : Builder) (call : Call) :
    (call.apply b).accepted = call.sets.foldl CodeSet.Builder.Call.apply b.accepted := by
  cases call with
  | acceptCodePoints cps => exact congrArg Builder.accepted (acceptCodePoints_eq b cps)
  | _ => rfl

lemma converter_apply (b : Builder) (call : Call) :
    (call.apply b).converter =
      call.rule?.toList.foldl Converter.Builder.Call.apply b.converter := by
  cases call with
  | acceptCodePoints cps => exact (congrArg Builder.converter (acceptCodePoints_eq b cps)).trans rfl
  | _ => rfl

/-- **The two builders inside** get their part of every call, in the order of the calls. -/
theorem parts_ofCalls (calls : List Call) :
    (ofCalls calls).accepted = CodeSet.Builder.ofCalls (calls.flatMap Call.sets) ∧
      (ofCalls calls).converter = Converter.Builder.ofCalls (calls.filterMap Call.rule?) := by
  induction calls using List.reverseRecOn with
  | nil => exact ⟨rfl, rfl⟩
  | append_singleton calls call ih =>
    rw [ofCalls_concat, accepted_apply, converter_apply, ih.1, ih.2]
    simp only [CodeSet.Builder.ofCalls, Converter.Builder.ofCalls, List.flatMap_append,
      List.filterMap_append, List.foldl_append, List.flatMap_singleton, true_and]
    rcases h : call.rule? with _ | rule <;> simp [h]

/-! ### Faults -/

/-- A range that is reversed or goes past the last code point. -/
def badRange? (lo hi : Nat) : Option (Nat × Nat) :=
  if lo ≤ hi ∧ hi ≤ CodePoint.last then none else some (lo, hi)

namespace Call

/-- The first thing in a call that is no range of code points. -/
def badRange? : Call → Option (Nat × Nat)
  | acceptCodePoint cp => Builder.badRange? cp cp
  | acceptCodePoints cps => cps.findSome? fun cp => Builder.badRange? cp cp
  | acceptRange lo hi => Builder.badRange? lo hi
  | convertCodePoint source _ => Builder.badRange? source source
  | _ => none

/-- The first thing wrong in a call: what is accepted is no range of code points, or the source or
the replacement of a rule has a number that is no character. -/
def fault? : Call → Option (Nat × Nat)
  | convertCodePoint source replacement =>
    ((source :: replacement).find? fun cp => ¬cp.isValidChar).map fun cp => (cp, cp)
  | call => call.badRange?

end Call

lemma badRange?_of_le {cp : Nat} (h : cp ≤ CodePoint.last) : badRange? cp cp = none :=
  if_pos ⟨Nat.le_refl cp, h⟩

/-- The accepted set finds the bad ranges of a call. -/
lemma findSome?_sets (call : Call) :
    (call.sets.findSome? fun c => c.item.invalidRange?) = call.badRange? := by
  have hpoint : ∀ cp, (CodeSet.Builder.Item.codePoint cp).invalidRange? = badRange? cp cp := by
    intro cp
    simp [CodeSet.Builder.Item.invalidRange?, badRange?]
  cases call with
  | acceptCodePoint cp =>
    exact List.findSome?_singleton.trans (hpoint cp)
  | acceptCodePoints cps =>
    simp only [Call.sets, List.findSome?_map, Function.comp_def, CodeSet.Builder.Call.item, hpoint,
      Call.badRange?]
  | convertChar source replacement =>
    exact (List.findSome?_singleton.trans (hpoint _)).trans
      (badRange?_of_le (CodePoint.toNat_le_last source))
  | convertCodePoint source replacement =>
    exact List.findSome?_singleton.trans (hpoint source)
  | acceptRange lo hi => exact List.findSome?_singleton
  | _ => rfl

/-- The converter finds the numbers in a rule that are no characters. -/
lemma fault?_eq (call : Call) :
    call.fault? =
      ((call.rule?.bind Converter.Builder.Call.invalid?).map fun cp => (cp, cp)).or
        call.badRange? := by
  cases call with
  | convertCodePoint source replacement =>
    have hfind : (source :: replacement).find? (fun cp => ¬cp.isValidChar) =
        Converter.Builder.firstInvalid? (source :: replacement) := by
      refine congrArg (List.find? · _) (funext fun cp => ?_)
      unfold CodePoint.scalar?
      split <;> simp [*]
    show ((source :: replacement).find? fun cp => ¬cp.isValidChar).map _ =
      ((Converter.Builder.firstInvalid? (source :: replacement)).map _).or (badRange? source source)
    rw [hfind]
    rcases hbad : Converter.Builder.firstInvalid? (source :: replacement) with _ | cp
    · -- a source that is a character is no bad range either
      have hvalid := Converter.Builder.isValidChar_of_firstInvalid? hbad
      have hle : source ≤ CodePoint.last := by
        unfold Nat.isValidChar at hvalid
        unfold CodePoint.last
        omega
      rw [badRange?_of_le hle]
      rfl
    · rfl
  | _ => rfl

/-- The first fault of the accepted set is the first bad range. -/
lemma firstInvalid?_sets (calls : List Call) :
    CodeSet.Builder.firstInvalid? (calls.flatMap Call.sets) = calls.findSome? Call.badRange? := by
  unfold CodeSet.Builder.firstInvalid?
  induction calls with
  | nil => rfl
  | cons call rest ih =>
    rw [List.flatMap_cons, List.findSome?_append, findSome?_sets, ih, List.findSome?_cons]
    cases call.badRange? <;> rfl

/-- Where no range is bad, the first fault of the converter is the first of all. -/
lemma findSome?_rules {calls : List Call} (h : ∀ call ∈ calls, call.badRange? = none) :
    ((calls.filterMap Call.rule?).findSome? Converter.Builder.Call.invalid?).map
      (fun cp => (cp, cp)) = calls.findSome? Call.fault? := by
  induction calls with
  | nil => rfl
  | cons call rest ih =>
    obtain ⟨hcall, hrest⟩ := List.forall_mem_cons.mp h
    rw [List.findSome?_cons, fault?_eq, hcall, Option.or_none, ← ih hrest]
    rcases hrule : call.rule? with _ | rule
    · rw [List.filterMap_cons_none hrule]
      rfl
    · rw [List.filterMap_cons_some hrule, List.findSome?_cons, Option.bind_some]
      cases rule.invalid? <;> rfl

/-- What a build of valid sizes and a valid pattern comes to, by what its two parts come to. -/
lemma build_of_valid {b : Builder} (hsizes : b.minSize ≤ b.sizeLimit)
    (hpattern : ∀ s ∈ b.pattern, (Pattern.readAnchored? s).isSome = true) :
    (∀ e, b.accepted.build = .error e → b.build = .error e) ∧
      ∀ accepted, b.accepted.build = .ok accepted →
        (∀ e, b.converter.build = .error e → b.build = .error e) ∧
          ∀ converter, b.converter.build = .ok converter → ∃ t, b.build = .ok t := by
  obtain ⟨p, hp⟩ : ∃ p, b.readPattern = .ok p := by
    unfold readPattern
    rcases hsource : b.pattern with _ | source
    · exact ⟨none, rfl⟩
    · obtain ⟨p, hread⟩ := Option.isSome_iff_exists.mp (hpattern source hsource)
      exact ⟨some (p, source), by simp only [hread]⟩
  refine ⟨fun e haccepted => ?_, fun accepted haccepted => ⟨fun e hconverter => ?_,
    fun converter hconverter => ?_⟩⟩
  · rw [build, if_neg (Nat.not_lt.mpr hsizes), hp, haccepted]
    rfl
  · rw [build, if_neg (Nat.not_lt.mpr hsizes), hp, haccepted, hconverter]
    rfl
  · exact ⟨_, build_eq_ok_iff.mpr ⟨hsizes, p, accepted, converter, hp, haccepted, hconverter, rfl⟩⟩

/-- The fault that a build reports: the first bad range, or else the first number in a rule that is
no character. -/
def reported? (calls : List Call) : Option (Nat × Nat) :=
  (calls.findSome? Call.badRange?).or (calls.findSome? Call.fault?)

lemma reported?_eq_none_iff {calls : List Call} :
    reported? calls = none ↔ ∀ call ∈ calls, call.fault? = none := by
  rw [reported?, Option.or_eq_none_iff, List.findSome?_eq_none_iff, List.findSome?_eq_none_iff,
    and_iff_right_iff_imp]
  intro h call hcall
  have hfault := h call hcall
  rw [fault?_eq, Option.or_eq_none_iff] at hfault
  exact hfault.2

lemma build_of_reported? {calls : List Call}
    (hsizes : (ofCalls calls).minSize ≤ (ofCalls calls).sizeLimit)
    (hpattern : ∀ s ∈ (ofCalls calls).pattern, (Pattern.readAnchored? s).isSome = true) :
    match reported? calls with
    | some (lo, hi) => (ofCalls calls).build = .error (.invalidRange lo hi)
    | none => ∃ t, (ofCalls calls).build = .ok t := by
  obtain ⟨haccepted, hconverter⟩ := parts_ofCalls calls
  obtain ⟨hfails, hbuilds⟩ := build_of_valid hsizes hpattern
  unfold reported?
  have hsets := firstInvalid?_sets calls
  rcases hbad : calls.findSome? Call.badRange? with _ | ⟨lo, hi⟩
  · rw [hbad] at hsets
    have herror : (ofCalls calls).accepted.error = none := by
      rw [haccepted, CodeSet.Builder.error_ofCalls, hsets, Option.map_none]
    obtain ⟨hconverts, hdone⟩ := hbuilds _ (by
      rw [CodeSet.Builder.build, CodeSet.Builder.buildRanged_eq _ herror]
      rfl)
    have hrules := findSome?_rules (List.findSome?_eq_none_iff.mp hbad)
    have hfirst := Converter.Builder.error_ofCalls (calls.filterMap Call.rule?)
    rw [← hconverter] at hfirst
    rw [← hrules, Option.none_or]
    rcases hcp : (calls.filterMap Call.rule?).findSome? Converter.Builder.Call.invalid? with _ | cp
    · rw [hcp, Option.map_none] at hfirst
      exact hdone _ (by rw [Converter.Builder.build, hfirst])
    · rw [hcp, Option.map_some] at hfirst
      exact hconverts _ (by rw [Converter.Builder.build, hfirst])
  · refine hfails _ ?_
    rw [hbad] at hsets
    rw [haccepted]
    exact (CodeSet.Builder.build_of_invalid hsets).2

/-- **When a build fails**, given valid sizes and a valid pattern: exactly if some call has a fault.
It then reports the first bad range of all calls, and only where there is none the first number in
a rule that is no character. -/
theorem build_faults (calls : List Call)
    (hsizes : (ofCalls calls).minSize ≤ (ofCalls calls).sizeLimit)
    (hpattern : ∀ s ∈ (ofCalls calls).pattern, (Pattern.readAnchored? s).isSome = true) :
    ((∃ t, (ofCalls calls).build = .ok t) ↔ ∀ call ∈ calls, call.fault? = none) ∧
      ∀ e, (ofCalls calls).build = .error e ↔
        ∃ lo hi, e = .invalidRange lo hi ∧ reported? calls = some (lo, hi) := by
  have houtcome := build_of_reported? hsizes hpattern
  rw [← reported?_eq_none_iff]
  rcases hreported : reported? calls with _ | ⟨lo, hi⟩
  · rw [hreported] at houtcome
    obtain ⟨t, ht⟩ := houtcome
    simp [ht]
  · rw [hreported] at houtcome
    simp [houtcome, eq_comm]

/-- A replacement with a surrogate, and after it numbers past the last code point. -/
def mixed : List Call :=
  [.pattern "[a-z]+".toList, .convertCodePoint 0x78 [0x79, 0xDFFF], .minSize 2,
    .acceptCodePoints [0x61, 0x110000, 0x110001], .maxSize 2]

theorem build_faults_mixed :
    (ofCalls mixed).build = .error (.invalidRange 0x110000 0x110000) ∧
      ∃ call ∈ mixed, call.fault? = some (0x110000, 0x110000) := by
  have hpattern : ∀ s ∈ (ofCalls mixed).pattern, (Pattern.readAnchored? s).isSome = true := by
    rintro s ⟨⟩
    decide +kernel
  refine ⟨((build_faults mixed (by decide) hpattern).2 _).mpr ⟨0x110000, 0x110000, rfl, by decide⟩,
    .acceptCodePoints [0x61, 0x110000, 0x110001], ?_, by decide⟩
  simp [mixed]

/-- A rule that names a surrogate, then a reversed range: the range is reported. -/
theorem not_reports_first_fault :
    (ofCalls [.convertCodePoint 0x61 [0xD800], .acceptRange 0x62 0x61]).build =
        .error (.invalidRange 0x62 0x61) ∧
      [Call.convertCodePoint 0x61 [0xD800], .acceptRange 0x62 0x61].findSome? Call.fault? =
        some (0xD800, 0xD800) :=
  ⟨rfl, by decide⟩

/-! ### Rejection -/

lemma eq_acceptSet {call : Call} {c : CodeSet.Builder.Call} (hc : c ∈ call.sets) {s : CodeSet}
    (hs : s ∈ c.item.set?) : call = .acceptSet s := by
  cases call with
  | acceptCodePoints cps =>
    obtain ⟨cp, -, rfl⟩ := List.mem_map.mp hc
    cases hs
  | acceptSet set =>
    obtain rfl := List.mem_singleton.mp hc
    cases hs
    rfl
  | minSize | maxSize | case | whitespace | nulls | normalForm | pattern | validator => cases hc
  | _ =>
    obtain rfl := List.mem_singleton.mp hc
    cases hs

section Rejected

variable {calls : List Call} (hsets : ∀ s, .acceptSet s ∈ calls → CodeSet.Built s) {t : TextType}
  (h : (ofCalls calls).build = .ok t) {rejected : List Char} (hcall : .rejectChars rejected ∈ calls)

include hsets h

/-- What a built type accepts can be read off the calls. -/
lemma accepted_iff {cp : Nat} (hcp : cp ≤ CodePoint.last) :
    t.accepted.contains cp = true ↔ CodeSet.Builder.Accepted (calls.flatMap Call.sets) cp := by
  obtain ⟨-, _, accepted, _, -, haccepted, -, rfl⟩ := build_eq_ok_iff.mp h
  rw [(parts_ofCalls calls).1] at haccepted
  have hgiven : ∀ c ∈ calls.flatMap Call.sets, ∀ s ∈ c.item.set?, s.WellFormed := by
    intro c hc s hs
    obtain ⟨call, hcall, hmem⟩ := List.mem_flatMap.mp hc
    obtain rfl := eq_acceptSet hmem hs
    exact (hsets s hcall).wellFormed
  rcases hranged : (CodeSet.Builder.ofCalls (calls.flatMap Call.sets)).buildRanged with e | r
  · rw [CodeSet.Builder.build, hranged] at haccepted
    cases haccepted
  · obtain ⟨r', -, hbuild, hwf, hcontains⟩ := CodeSet.Builder.build_spec
      (CodeSet.Builder.firstInvalid?_of_buildRanged hranged) hgiven
    obtain rfl := Except.ok.inj (hbuild.symm.trans haccepted)
    rw [CodeSet.contains_of_make? (t := .optimised) hwf rfl]
    exact hcontains cp hcp

include hcall

lemma not_accepted_of_rejected {c : Char} (hc : c ∈ rejected) :
    t.accepted.containsChar c = false := by
  rw [← Bool.not_eq_true]
  intro haccepted
  refine ((accepted_iff hsets h (CodePoint.toNat_le_last c)).mp haccepted).2 ?_
  exact ⟨.excluding (.chars rejected), List.mem_flatMap.mpr ⟨_, hcall, List.mem_singleton.mpr rfl⟩,
    c, hc, rfl⟩

/-- **What is rejected passes only where it is replaced.** In whatever order the calls come, a
rejected character is not accepted; and a text in which it is visible has a value only if a rule
replaces it wherever it stands. -/
theorem replacedBy_of_rejected {c : Char} (hc : c ∈ rejected) (hvisible : isBlank c = false) :
    t.accepted.containsChar c = false ∧
      ∀ s r, t.parse (some s) = .ok r → ∀ i, (t.normal.apply s)[i]? = some c →
        ∃ replacement, t.ReplacedBy (t.normal.apply s) i replacement := by
  have haccepted := not_accepted_of_rejected hsets h hcall hc
  refine ⟨haccepted, fun s r hparse i hi => ?_⟩
  refine (t.kept_or_replacedBy hi hvisible).resolve_left ?_
  rintro ⟨k, rfl, hkept⟩
  -- a character that stays in place is put to the test, and the reading stops there
  have hs : (t.normal.apply s).all isBlank = false :=
    List.all_eq_false.mpr ⟨c, List.mem_of_getElem? hi, by simp [hvisible]⟩
  obtain ⟨v, rfl⟩ := exists_of_parse_eq_ok hs hparse
  obtain ⟨sources, -, hes, -⟩ := parse_eq_ok hs hparse
  have hmem : t.emit c (margin (t.normal.apply s) + k) ∈ t.emissions _ false _ :=
    emit_mem_emissions hkept hvisible
  rw [hes] at hmem
  obtain ⟨d, -, hd⟩ := List.mem_map.mp hmem
  obtain ⟨rfl, hlets⟩ := emit_eq_write hd.symm
  rw [haccepted] at hlets
  cases hlets

end Rejected

/-- Small letters and dashes without `q`, which may only stand behind an `s`, and the hyphen. -/
def letters : List Call :=
  [.rejectChars ['q', '-'], .acceptRange 0x61 0x7A, .convertSequence ['s', 'q'] ['x', 'q'],
    .acceptSet CodeSet.letters, .acceptCategory .pd]

theorem replacedBy_of_rejected_letters :
    ∃ t, (ofCalls letters).build = .ok t ∧ t.accepted.containsChar 'q' = false ∧
      t.parse (some "asqb".toList) = .ok (some "axqb".toList) ∧
      ∃ r, t.ReplacedBy (t.normal.apply "asqb".toList) 2 r := by
  obtain ⟨t, h⟩ := exists_of_build (b := ofCalls letters) (by decide +kernel)
  have hsets : ∀ s, .acceptSet s ∈ letters → CodeSet.Built s := by
    intro s hs
    obtain rfl : s = CodeSet.letters := by simpa [letters] using hs
    exact CodeSet.built_letters
  have hruns : (t.parse (some "asqb".toList), (t.normal.apply "asqb".toList)[2]?) =
      (.ok (some "axqb".toList), some 'q') :=
    eq_of_build h (fun t => (t.parse _, (t.normal.apply _)[2]?)) (by decide +kernel)
  obtain ⟨hparse, hplace⟩ := Prod.mk.inj hruns
  have hcall : .rejectChars ['q', '-'] ∈ letters := by simp [letters]
  obtain ⟨haccepted, hreplaced⟩ :=
    replacedBy_of_rejected hsets h hcall (c := 'q') (by simp) (by decide)
  exact ⟨t, h, haccepted, hparse, hreplaced _ _ hparse 2 hplace⟩

/-- A rejected character that is converted has a value. -/
theorem not_rejects_converted :
    ∃ t, (ofCalls [.convertChar 'x' ['y'], .rejectChars ['x']]).build = .ok t ∧
      'x' ∈ t.normal.apply ['x'] ∧ t.parse (some ['x']) = .ok (some ['y']) := by
  obtain ⟨t, h⟩ := exists_of_build (b := ofCalls [.convertChar 'x' ['y'], .rejectChars ['x']])
    (by decide +kernel)
  have hruns : (t.parse (some ['x']), decide ('x' ∈ t.normal.apply ['x'])) =
      (.ok (some ['y']), true) :=
    eq_of_build h (fun t => (t.parse _, decide ('x' ∈ t.normal.apply _))) (by decide +kernel)
  obtain ⟨hparse, hmem⟩ := Prod.mk.inj hruns
  exact ⟨t, h, of_decide_eq_true hmem, hparse⟩

end TextTypes.TextType.Builder
