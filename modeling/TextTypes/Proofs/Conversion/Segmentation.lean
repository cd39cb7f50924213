import TextTypes.Proofs.Conversion.Scanning

/-!
Left-to-right substitution, and how the scan cuts a text.

A text is read from the left: where some source stands, the longest one is replaced and the
reading goes on behind it; any other character has a fallback or is kept. The settled matches of
a scan are the sources that are so replaced, in the same places.
-/

namespace TextTypes.Conversion

/-! ### The rule of substitution -/

section Spec

variable {β : Type}

/-- The longest of the first `n` non-empty prefixes of a text with a rule. -/
def longestUpTo? (rules : List Char → Option β) (text : List Char) : Nat → Option (Nat × β)
  | 0 => none
  | n + 1 =>
    match rules (text.take (n + 1)) with
    | some rule => some (n + 1, rule)
    | none => longestUpTo? rules text n

/-- The length of the longest non-empty prefix with a rule, and the rule. -/
def longest? (rules : List Char → Option β) (text : List Char) : Option (Nat × β) :=
  longestUpTo? rules text text.length

/-- The substitution in a text by rules for sources, with a fallback for characters at which no
source stands. -/
def substitute (rules : List Char → Option (List Char)) (fallback : Char → Option (List Char)) :
    List Char → List Char
  | [] => []
  | c :: rest =>
    match longest? rules (c :: rest) with
    | some (n, replacement) => replacement ++ substitute rules fallback (rest.drop (n - 1))
    | none => (fallback c).getD [c] ++ substitute rules fallback rest
termination_by text => text.length
decreasing_by all_goals (simp only [List.length_drop, List.length_cons]; omega)

end Spec

lemma substitute_cons (rules : List Char → Option (List Char))
    (fallback : Char → Option (List Char)) (c : Char) (rest : List Char) :
    substitute rules fallback (c :: rest) =
      match longest? rules (c :: rest) with
      | some (n, replacement) => replacement ++ substitute rules fallback (rest.drop (n - 1))
      | none => (fallback c).getD [c] ++ substitute rules fallback rest := by
  rw [substitute]

section Longest

variable {β : Type} {rules : List Char → Option β} {text : List Char}

lemma longestUpTo?_eq_some {k n : Nat} {rule : β}
    (h : longestUpTo? rules text k = some (n, rule)) :
    0 < n ∧ n ≤ k ∧ rules (text.take n) = some rule ∧
      ∀ m, n < m → m ≤ k → rules (text.take m) = none := by
  induction k with
  | zero => cases h
  | succ k ih =>
    unfold longestUpTo? at h
    rcases hr : rules (text.take (k + 1)) with _ | r
    · simp only [hr] at h
      obtain ⟨hpos, hle, hrule, hnone⟩ := ih h
      refine ⟨hpos, by omega, hrule, fun m hlt hm => ?_⟩
      rcases Nat.eq_or_lt_of_le hm with rfl | hm
      · exact hr
      · exact hnone m hlt (by omega)
    · simp only [hr, Option.some.injEq, Prod.mk.injEq] at h
      obtain ⟨rfl, rfl⟩ := h
      exact ⟨Nat.succ_pos k, Nat.le_refl _, hr, fun m hlt hm => by omega⟩

lemma longestUpTo?_eq_none {k : Nat} :
    longestUpTo? rules text k = none ↔ ∀ n, 0 < n → n ≤ k → rules (text.take n) = none := by
  induction k with
  | zero => exact ⟨fun _ n hn hk => by omega, fun _ => rfl⟩
  | succ k ih =>
    unfold longestUpTo?
    rcases hr : rules (text.take (k + 1)) with _ | r
    · simp only []
      rw [ih]
      refine ⟨fun h n hn hk => ?_, fun h n hn hk => h n hn (by omega)⟩
      rcases Nat.eq_or_lt_of_le hk with rfl | hk
      · exact hr
      · exact h n hn (by omega)
    · refine ⟨fun h => by simp at h, fun h => ?_⟩
      rw [h (k + 1) (Nat.succ_pos k) (Nat.le_refl _)] at hr
      cases hr

/-- Rules that agree on non-empty sources have the same longest prefix. -/
lemma longestUpTo?_congr {γ : Type} {rules' : List Char → Option γ} {f : β → γ}
    (hne : text ≠ []) (h : ∀ s, s ≠ [] → (rules s).map f = rules' s) (k : Nat) :
    (longestUpTo? rules text k).map (fun p => (p.1, f p.2)) = longestUpTo? rules' text k := by
  induction k with
  | zero => rfl
  | succ k ih =>
    unfold longestUpTo?
    rw [← h (text.take (k + 1)) (by simpa using hne), ← ih]
    cases rules (text.take (k + 1)) <;> rfl

end Longest

/-! ### The scan cuts a text as substitution does -/

namespace Search

variable {root : Trie Rule}

lemma occurs_zero_iff {text : List Char} {s : List Char} {rule : Rule} :
    Occurs root text 0 s rule ↔ s ≠ [] ∧ s <+: text ∧ root.find? s = some rule :=
  ⟨fun h => ⟨h.ne_nil, h.isPrefix, h.find?⟩, fun ⟨h, hp, hf⟩ => ⟨h, hp, hf⟩⟩

lemma occurs_succ_iff {c : Char} {rest : List Char} {i : Nat} {s : List Char} {rule : Rule} :
    Occurs root (c :: rest) (i + 1) s rule ↔ Occurs root rest i s rule :=
  ⟨fun h => ⟨h.ne_nil, h.isPrefix, h.find?⟩, fun h => ⟨h.ne_nil, h.isPrefix, h.find?⟩⟩

/-- The longest source in front of a text is found first. -/
lemma eq_of_found_of_longest {start n : Nat} {rule : Rule} {text : List Char} {r : Option Match}
    (hl : longest? root.find? text = some (n, rule)) (h : Found root start text r) :
    r = some ⟨start, start + n, rule⟩ := by
  obtain ⟨hpos, hle, hrule, hnone⟩ := longestUpTo?_eq_some hl
  have hlen : (text.take n).length = n := List.length_take_of_le hle
  have ho : Occurs root text 0 (text.take n) rule := by
    refine occurs_zero_iff.mpr ⟨?_, List.take_prefix n text, hrule⟩
    rw [← List.length_pos_iff, hlen]
    exact hpos
  rcases r with _ | ⟨mstart, mstop, mrule⟩
  · exact absurd ho (h 0 _ rule)
  obtain ⟨i, s, hfirst, hs, he⟩ := h
  simp only at hfirst hs he
  rcases hfirst.first 0 _ rule ho with hlt | ⟨rfl, hlen'⟩
  · omega
  rw [hlen] at hlen'
  -- nothing longer has a rule, so it is the same source
  have htake : s = text.take s.length := List.prefix_iff_eq_take.mp hfirst.occurs.isPrefix
  have hsn : s.length = n := by
    rcases Nat.eq_or_lt_of_le hlen' with heq | hlt
    · exact heq.symm
    · have := hnone s.length hlt hfirst.occurs.isPrefix.length_le
      rw [← htake, hfirst.occurs.find?] at this
      cases this
  have hmr : mrule = rule := by
    have := hfirst.occurs.find?
    rw [htake, hsn, hrule, Option.some.injEq] at this
    exact this.symm
  rw [hs, he, hsn, hmr]
  rfl

lemma found_unique {start : Nat} {text : List Char} {r r' : Option Match}
    (h : Found root start text r) (h' : Found root start text r') : r = r' := by
  rcases r with _ | ⟨a, b, u⟩ <;> rcases r' with _ | ⟨a', b', u'⟩
  · rfl
  · obtain ⟨i, s, hfirst, -⟩ := h'
    exact absurd hfirst.occurs (h i s _)
  · obtain ⟨i, s, hfirst, -⟩ := h
    exact absurd hfirst.occurs (h' i s _)
  · obtain ⟨i, s, hfirst, ha, hb⟩ := h
    obtain ⟨i', s', hfirst', ha', hb'⟩ := h'
    simp only at hfirst hfirst' ha hb ha' hb'
    have h1 := hfirst.first i' s' u' hfirst'.occurs
    have h2 := hfirst'.first i s u hfirst.occurs
    have hi : i = i' := by omega
    subst hi
    have hlen : s.length = s'.length := by omega
    have hs : s = s' := by
      rw [List.prefix_iff_eq_take.mp hfirst.occurs.isPrefix,
        List.prefix_iff_eq_take.mp hfirst'.occurs.isPrefix, hlen]
    subst hs
    have hu := hfirst.occurs.find?
    rw [hfirst'.occurs.find?, Option.some.injEq] at hu
    rw [ha, hb, ha', hb', hu]

/-- Where no source stands in front, the first match is that of the rest. -/
lemma found_cons {start : Nat} {c : Char} {rest : List Char} {r : Option Match}
    (hl : longest? root.find? (c :: rest) = none) (h : Found root (start + 1) rest r) :
    Found root start (c :: rest) r := by
  have hzero : ∀ s rule, ¬Occurs root (c :: rest) 0 s rule := by
    intro s rule ho
    obtain ⟨hne, hpre, hfind⟩ := occurs_zero_iff.mp ho
    have := longestUpTo?_eq_none.mp hl s.length (List.length_pos_iff.mpr hne) hpre.length_le
    rw [← List.prefix_iff_eq_take.mp hpre, hfind] at this
    cases this
  rcases r with _ | m
  · rintro (_ | i) s rule ho
    · exact hzero s rule ho
    · exact h i s rule (occurs_succ_iff.mp ho)
  · obtain ⟨i, s, hfirst, hs, he⟩ := h
    refine ⟨i + 1, s, ⟨occurs_succ_iff.mpr hfirst.occurs, ?_⟩, by omega, by omega⟩
    rintro (_ | i') s' rule' ho
    · exact absurd ho (hzero s' rule')
    · rcases hfirst.first i' s' rule' (occurs_succ_iff.mp ho) with hlt | ⟨rfl, hle⟩
      · exact .inl (by omega)
      · exact .inr ⟨rfl, hle⟩

lemma found_nil (start : Nat) : Found root start [] none := fun i s rule h => by
  simpa using h.lt_length

lemma settle_zero_cons (pos : Nat) (c : Char) (rest : List Char) :
    settle root 0 pos (c :: rest) =
      match seek root pos {} (c :: rest) with
      | some m => m :: settle root (m.stop - pos - 1) (pos + 1) rest
      | none => [] := rfl

/-- **The settled matches are the longest sources, one behind the other.** -/
theorem settle_cons (pos : Nat) (c : Char) (rest : List Char) :
    settle root 0 pos (c :: rest) =
      match longest? root.find? (c :: rest) with
      | some (n, rule) => ⟨pos, pos + n, rule⟩ :: settle root (n - 1) (pos + 1) rest
      | none => settle root 0 (pos + 1) rest := by
  have hseek := found_seek_start root pos c rest
  rw [settle_zero_cons]
  rcases hl : longest? root.find? (c :: rest) with _ | ⟨n, rule⟩
  · cases rest with
    | nil =>
      rw [found_unique hseek (found_cons hl (found_nil _))]
      rfl
    | cons c' rest =>
      have hrest := found_seek_start root (pos + 1) c' rest
      rw [found_unique hseek (found_cons hl hrest)]
      show _ = settle root 0 (pos + 1) (c' :: rest)
      rw [settle_zero_cons]
      rcases hm : seek root (pos + 1) {} (c' :: rest) with _ | m
      · rfl
      · rw [hm] at hrest
        obtain ⟨i, s, hfirst, hs, he⟩ := hrest
        have hlen := List.length_pos_iff.mpr hfirst.occurs.ne_nil
        -- the match starts behind `c`, so `c'` is inside what it covers or before it
        obtain ⟨k, hk⟩ : ∃ k, m.stop = pos + 1 + 1 + k := ⟨m.stop - (pos + 1 + 1), by omega⟩
        simp only [hk, show pos + 1 + 1 + k - pos - 1 = k + 1 by omega,
          show pos + 1 + 1 + k - (pos + 1) - 1 = k by omega]
        rfl
  · rw [eq_of_found_of_longest hl hseek]
    simp only [Nat.add_sub_cancel_left]

lemma start_le_of_mem_settle {skip pos : Nat} {text : List Char} :
    ∀ m ∈ settle root skip pos text, pos ≤ m.start := by
  induction text generalizing skip pos with
  | nil => intro m hm; cases skip <;> cases hm
  | cons c rest ih =>
    intro m hm
    cases skip with
    | succ skip => exact Nat.le_of_succ_le (ih m hm)
    | zero =>
      rw [settle_cons] at hm
      rcases hl : longest? root.find? (c :: rest) with _ | ⟨n, rule⟩
      · rw [hl] at hm
        exact Nat.le_of_succ_le (ih m hm)
      · rw [hl] at hm
        rcases List.mem_cons.mp hm with rfl | hm
        · exact Nat.le_refl _
        · exact Nat.le_of_succ_le (ih m hm)

/-- No settled match is empty. -/
lemma length_pos_of_mem_settle {skip pos : Nat} {text : List Char} :
    ∀ m ∈ settle root skip pos text, 0 < m.length := by
  induction text generalizing skip pos with
  | nil => intro m hm; cases skip <;> cases hm
  | cons c rest ih =>
    intro m hm
    cases skip with
    | succ skip => exact ih m hm
    | zero =>
      rw [settle_cons] at hm
      rcases hl : longest? root.find? (c :: rest) with _ | ⟨n, rule⟩
      · rw [hl] at hm
        exact ih m hm
      · rw [hl] at hm
        rcases List.mem_cons.mp hm with rfl | hm
        · have hpos := (longestUpTo?_eq_some hl).1
          rwa [Match.length, Nat.add_sub_cancel_left]
        · exact ih m hm

/-- No settled match goes beyond the text. -/
lemma stop_le_of_mem_settle {skip pos : Nat} {text : List Char} :
    ∀ m ∈ settle root skip pos text, m.stop ≤ pos + text.length := by
  induction text generalizing skip pos with
  | nil => intro m hm; cases skip <;> cases hm
  | cons c rest ih =>
    intro m hm
    have hlater : ∀ skip', m ∈ settle root skip' (pos + 1) rest →
        m.stop ≤ pos + (c :: rest).length := fun skip' hm' => by
      have := ih m hm'
      rw [List.length_cons]
      omega
    cases skip with
    | succ skip => exact hlater skip hm
    | zero =>
      rw [settle_cons] at hm
      rcases hl : longest? root.find? (c :: rest) with _ | ⟨n, rule⟩
      · rw [hl] at hm
        exact hlater 0 hm
      · rw [hl] at hm
        rcases List.mem_cons.mp hm with rfl | hm
        · exact Nat.add_le_add_left (longestUpTo?_eq_some hl).2.1 pos
        · exact hlater (n - 1) hm

end Search

end TextTypes.Conversion
