import TextTypes.Proofs.Conversion.Building

/-!
What a scan answers.

A text is cut from the left into its longest sources and the characters between them. A scan that
is asked about ascending positions answers by this cut of the whole text: passing over a match, or
asking inside of one, changes no later answer.
-/

namespace TextTypes.Conversion

section Cut

variable {β : Type} (rules : List Char → Option β) (text : List Char)

/-- Where the cut of a text stands: in front, behind a character at which no source stands, and
behind the longest source of a place where it stands. -/
inductive Stands : Nat → Prop
  | start : Stands 0
  | keep {i : Nat} (h : Stands i) (hlt : i < text.length)
      (hnone : longest? rules (text.drop i) = none) : Stands (i + 1)
  | jump {i n : Nat} {rule : β} (h : Stands i)
      (hlongest : longest? rules (text.drop i) = some (n, rule)) : Stands (i + n)

/-- The cut has a source of `n` characters at a place, and its rule. -/
def CutsAt (i n : Nat) (rule : β) : Prop :=
  Stands rules text i ∧ longest? rules (text.drop i) = some (n, rule)

end Cut

/-! ### The matches of a scan are the cut -/

namespace Search

variable {root : Trie Rule} {rules : List Char → Option (List Char)} {text : List Char}

lemma settle_skip (skip pos : Nat) (text : List Char) :
    settle root skip pos text = settle root 0 (pos + skip) (text.drop skip) := by
  induction text generalizing skip pos with
  | nil => cases skip <;> rfl
  | cons c rest ih =>
    cases skip with
    | zero => rfl
    | succ skip =>
      rw [List.drop_succ_cons, show pos + (skip + 1) = pos + 1 + skip by omega]
      exact ih skip (pos + 1)

/-- Settled matches start at ever later places. -/
lemma pairwise_settle (skip pos : Nat) (text : List Char) :
    (settle root skip pos text).Pairwise fun m m' => m.start < m'.start := by
  induction text generalizing skip pos with
  | nil => cases skip <;> exact List.Pairwise.nil
  | cons c rest ih =>
    cases skip with
    | succ skip => exact ih skip (pos + 1)
    | zero =>
      rw [settle_cons]
      rcases longest? root.find? (c :: rest) with _ | ⟨n, rule⟩
      · exact ih 0 (pos + 1)
      · exact List.pairwise_cons.mpr
          ⟨fun m hm => start_le_of_mem_settle m hm, ih (n - 1) (pos + 1)⟩

/-- A settled match ends before the next one starts. -/
lemma pairwise_stop_settle (skip pos : Nat) (text : List Char) :
    (settle root skip pos text).Pairwise fun m m' => m.stop ≤ m'.start := by
  induction text generalizing skip pos with
  | nil => cases skip <;> exact List.Pairwise.nil
  | cons c rest ih =>
    cases skip with
    | succ skip => exact ih skip (pos + 1)
    | zero =>
      rw [settle_cons]
      rcases hl : longest? root.find? (c :: rest) with _ | ⟨n, rule⟩
      · exact ih 0 (pos + 1)
      · refine List.pairwise_cons.mpr ⟨fun m hm => ?_, ih (n - 1) (pos + 1)⟩
        have hpos := (longestUpTo?_eq_some hl).1
        rw [settle_skip] at hm
        have hle := start_le_of_mem_settle m hm
        show pos + n ≤ m.start
        omega

/-- What has a rule in the trie, and which replacement. -/
def Holds (root : Trie Rule) (rules : List Char → Option (List Char)) : Prop :=
  ∀ s, s ≠ [] → (root.find? s).map Rule.replacement = rules s

section Cut

variable (hrules : Holds root rules)

include hrules

lemma Holds.longest?_eq (c : Char) (rest : List Char) :
    longest? rules (c :: rest) =
      (longest? root.find? (c :: rest)).map fun p => (p.1, p.2.replacement) :=
  (longestUpTo?_congr (List.cons_ne_nil c rest) hrules _).symm

/-- Where no source stands, the matches are those from the next place on. -/
lemma settle_drop_of_none {i : Nat} (hi : i < text.length)
    (hnone : longest? rules (text.drop i) = none) :
    settle root 0 i (text.drop i) = settle root 0 (i + 1) (text.drop (i + 1)) := by
  rw [List.drop_eq_getElem_cons hi] at hnone ⊢
  rw [hrules.longest?_eq, Option.map_eq_none_iff] at hnone
  rw [settle_cons, hnone]

/-- Where a source stands, the longest one is a match, and the others come behind it. -/
lemma settle_drop_of_some {i n : Nat} {replacement : List Char}
    (hlongest : longest? rules (text.drop i) = some (n, replacement)) :
    ∃ rule, rule.replacement = replacement ∧
      settle root 0 i (text.drop i) =
        ⟨i, i + n, rule⟩ :: settle root 0 (i + n) (text.drop (i + n)) := by
  obtain ⟨hpos, hle, -⟩ := longestUpTo?_eq_some hlongest
  have hi : i < text.length := by
    rw [List.length_drop] at hle
    omega
  rw [List.drop_eq_getElem_cons hi] at hlongest ⊢
  rw [hrules.longest?_eq, Option.map_eq_some_iff] at hlongest
  obtain ⟨⟨n', rule⟩, hl, heq⟩ := hlongest
  obtain ⟨rfl, rfl⟩ := Prod.mk.inj heq
  refine ⟨rule, rfl, ?_⟩
  rw [settle_cons, hl]
  show _ :: settle root (n' - 1) (i + 1) _ = _
  rw [settle_skip, List.drop_drop, show i + 1 + (n' - 1) = i + n' by omega]

/-- Matches from a place on where the cut stands are matches of the whole text. -/
lemma settle_subset_of_stands {i : Nat} (h : Stands rules text i) :
    settle root 0 i (text.drop i) ⊆ all root text := by
  induction h with
  | start => exact List.Subset.refl _
  | keep _ hlt hnone ih =>
    rw [settle_drop_of_none hrules hlt hnone] at ih
    exact ih
  | jump _ hlongest ih =>
    obtain ⟨rule, -, hsettle⟩ := settle_drop_of_some hrules hlongest
    rw [hsettle] at ih
    exact fun m hm => ih (List.mem_cons_of_mem _ hm)

/-- From a place where the cut stands, every match is one of the cut. -/
lemma cutsAt_of_mem_settle {i : Nat} (h : Stands rules text i) {m : Match}
    (hm : m ∈ settle root 0 i (text.drop i)) :
    CutsAt rules text m.start m.length m.rule.replacement := by
  -- each step leaves less of the text
  induction hleft : text.length - i using Nat.strong_induction_on generalizing i with
  | _ left ih =>
    rcases Nat.lt_or_ge i text.length with hi | hi
    · rcases hl : longest? rules (text.drop i) with _ | ⟨n, replacement⟩
      · rw [settle_drop_of_none hrules hi hl] at hm
        exact ih _ (by omega) (.keep h hi hl) hm rfl
      · have hpos := (longestUpTo?_eq_some hl).1
        obtain ⟨rule, rfl, hsettle⟩ := settle_drop_of_some hrules hl
        rw [hsettle] at hm
        rcases List.mem_cons.mp hm with rfl | hm
        · rw [Match.length, Nat.add_sub_cancel_left]
          exact ⟨h, hl⟩
        · exact ih _ (by omega) (.jump h hl) hm rfl
    · rw [List.drop_eq_nil_of_le hi] at hm
      cases hm

/-- **The matches of a text are those of its cut.** -/
theorem exists_mem_all_iff {i n : Nat} {replacement : List Char} :
    (∃ m ∈ all root text, m.start = i ∧ m.rule.replacement = replacement ∧ m.length = n) ↔
      CutsAt rules text i n replacement := by
  constructor
  · rintro ⟨m, hm, rfl, rfl, rfl⟩
    exact cutsAt_of_mem_settle hrules .start hm
  · rintro ⟨hstands, hlongest⟩
    obtain ⟨rule, hrule, hsettle⟩ := settle_drop_of_some hrules hlongest
    refine ⟨⟨i, i + n, rule⟩, settle_subset_of_stands hrules hstands ?_, rfl, hrule,
      Nat.add_sub_cancel_left i n⟩
    rw [hsettle]
    exact List.mem_cons_self

end Cut

end Search

end TextTypes.Conversion

namespace TextTypes.Converter

open TextTypes.Conversion TextTypes.Unicode

namespace Scan

/-- The answers to queries, one after the other: what replaces the source that starts at a position
and how many characters it has. -/
def answers (s : Scan) : List Nat → List (Option (List Char × Nat))
  | [] => []
  | i :: rest =>
    let (found, s) := s.at? i
    found.map (fun m => (m.rule.replacement, m.length)) :: s.answers rest

/-- One query: the match of the position, with those of later positions still ahead. -/
lemma at?_eq {pending : List Match} (h : pending.Pairwise fun m m' => m.start < m'.start)
    (i : Nat) :
    (⟨pending⟩ : Scan).at? i =
      (pending.find? (·.start == i), ⟨pending.filter (i < ·.start)⟩) := by
  induction pending with
  | nil => rfl
  | cons m rest ih =>
    obtain ⟨hfirst, hrest⟩ := List.pairwise_cons.mp h
    rcases Nat.lt_trichotomy m.start i with hlt | heq | hgt
    · -- the match is passed over
      have hskip : (⟨m :: rest⟩ : Scan).at? i = (⟨rest⟩ : Scan).at? i := by
        simp only [at?, List.dropWhile_cons, hlt, decide_true, if_true]
      rw [hskip, ih hrest, List.find?_cons_of_neg (by simpa using Nat.ne_of_lt hlt),
        List.filter_cons_of_neg (by simpa using Nat.le_of_lt hlt)]
    · subst heq
      have hall : rest.filter (m.start < ·.start) = rest :=
        List.filter_eq_self.mpr fun m' hm' => by simpa using hfirst m' hm'
      rw [at?_start, List.find?_cons_of_pos (by simp), List.filter_cons_of_neg (by simp), hall]
    · have hbehind : ∀ m' ∈ m :: rest, i < m'.start :=
        List.forall_mem_cons.mpr ⟨hgt, fun m' hm' => Nat.lt_trans hgt (hfirst m' hm')⟩
      have hnone : (m :: rest).find? (·.start == i) = none :=
        List.find?_eq_none.mpr fun m' hm' => by simpa using Nat.ne_of_gt (hbehind m' hm')
      have hall : (m :: rest).filter (i < ·.start) = m :: rest :=
        List.filter_eq_self.mpr fun m' hm' => by simpa using hbehind m' hm'
      rw [at?_of_lt hbehind, hnone, hall]

/-- Earlier queries do not change what is found at later positions. -/
lemma answers_eq {pending : List Match} (h : pending.Pairwise fun m m' => m.start < m'.start)
    {positions : List Nat} (hpositions : positions.Pairwise (· < ·)) :
    (⟨pending⟩ : Scan).answers positions = positions.map fun i =>
      (pending.find? (·.start == i)).map fun m => (m.rule.replacement, m.length) := by
  induction positions generalizing pending with
  | nil => rfl
  | cons i rest ih =>
    obtain ⟨hlater, hrest⟩ := List.pairwise_cons.mp hpositions
    rw [answers, at?_eq h]
    simp only [List.map_cons, ih (h.filter _) hrest]
    refine congrArg _ (List.map_congr_left fun j hj => ?_)
    have hij : i < j := hlater j hj
    rw [List.find?_filter]
    refine congrArg _ (congrArg (List.find? · pending) (funext fun m => ?_))
    by_cases hm : m.start = j <;> simp [hm, hij]

end Scan

/-- The match of a position, of which there is at most one. -/
lemma find?_start_eq_some {pending : List Match}
    (h : pending.Pairwise fun m m' => m.start < m'.start) {i : Nat} {m : Match} :
    pending.find? (·.start == i) = some m ↔ m ∈ pending ∧ m.start = i := by
  induction pending with
  | nil => simp
  | cons first rest ih =>
    obtain ⟨hfirst, hrest⟩ := List.pairwise_cons.mp h
    by_cases hstart : first.start = i
    · rw [List.find?_cons_of_pos (by simpa using hstart), Option.some.injEq, List.mem_cons]
      constructor
      · rintro rfl
        exact ⟨.inl rfl, hstart⟩
      · rintro ⟨rfl | hm, hi⟩
        · rfl
        · have := hfirst m hm
          omega
    · rw [List.find?_cons_of_neg (by simpa using hstart), ih hrest, List.mem_cons]
      constructor
      · rintro ⟨hm, hi⟩
        exact ⟨.inr hm, hi⟩
      · rintro ⟨rfl | hm, hi⟩
        · exact absurd hi hstart
        · exact ⟨hm, hi⟩

namespace Builder

/-- The compiled sources of a converter with longer ones are its latest rules. -/
lemma exists_trie_of_build {calls : List Call} {c : Converter}
    (h : (ofCalls calls).build = .ok c) (hsequence : c.isSequence = true) :
    ∃ root, c.form = .sequence root ∧ Search.Holds root (latest? calls) := by
  unfold build at h
  rcases herror : (ofCalls calls).error with _ | e
  · rw [herror] at h
    cases h
    unfold form at hsequence ⊢
    by_cases hempty : (ofCalls calls).sequences.isEmpty = true
    · rw [if_pos hempty] at hsequence
      cases hsequence
    · rw [if_neg hempty]
      exact ⟨_, rfl, fun s hs => (tracks_ofCalls calls herror).find?_trie hs⟩
  · rw [herror] at h
    cases h

/-- **Queries at ascending positions are answered by the cut of the whole text**: a position has
an answer exactly when the longest source of a place where the cut stands begins there, whatever
was asked before. -/
theorem answers_ofCalls {calls : List Call} {c : Converter} (h : (ofCalls calls).build = .ok c)
    (hsequence : c.isSequence = true) (text : List Char) {positions : List Nat}
    (hpositions : positions.Pairwise (· < ·)) :
    List.Forall₂ (fun i answer => ∀ replacement n, answer = some (replacement, n) ↔
        CutsAt (latest? calls) text i n replacement)
      positions ((c.scan text).answers positions) := by
  obtain ⟨root, hform, hrules⟩ := exists_trie_of_build h hsequence
  have hscan : c.scan text = ⟨Search.all root text⟩ := by
    unfold scan
    rw [hform]
  have hascending : (Search.all root text).Pairwise fun m m' => m.start < m'.start :=
    Search.pairwise_settle 0 0 text
  rw [hscan, Scan.answers_eq hascending hpositions, List.forall₂_map_right_iff,
    List.forall₂_same]
  intro i _ replacement n
  rw [← Search.exists_mem_all_iff hrules, Option.map_eq_some_iff]
  simp only [find?_start_eq_some hascending, Prod.mk.injEq, and_assoc]

/-- Sources inside of one another. -/
def nested : List Call :=
  [.sequence ['a', 'b', 'c', 'd'] ['w'], .sequence ['b', 'c'] ['y'], .char 'b' ['x']]

/-- The first match is not asked for, but its second character is. -/
theorem answers_ofCalls_nested :
    ∃ c, (ofCalls nested).build = .ok c ∧ c.isSequence = true ∧
      (c.scan "abcbcab".toList).answers [0, 2, 3, 6] =
        [none, none, some (['y'], 2), some (['x'], 1)] ∧
      CutsAt (latest? nested) "abcbcab".toList 6 1 ['x'] ∧
      ∀ replacement n, ¬CutsAt (latest? nested) "abcbcab".toList 2 n replacement := by
  have hbuild : (ofCalls nested).build =
      .ok ⟨(ofCalls nested).form, (ofCalls nested).categories.freeze⟩ := rfl
  have hanswers :
      ((⟨(ofCalls nested).form, (ofCalls nested).categories.freeze⟩ : Converter).scan
        "abcbcab".toList).answers [0, 2, 3, 6] =
      [none, none, some (['y'], 2), some (['x'], 1)] := by
    decide +kernel
  have hcut := answers_ofCalls hbuild rfl "abcbcab".toList
    (show [0, 2, 3, 6].Pairwise (· < ·) by decide)
  rw [hanswers] at hcut
  obtain ⟨-, hinside, -, hlast, -⟩ := by simpa only [List.forall₂_cons] using hcut
  refine ⟨_, hbuild, rfl, hanswers, (hlast _ _).mp rfl, fun replacement n h => ?_⟩
  cases (hinside replacement n).mpr h

end Builder

end TextTypes.Converter
