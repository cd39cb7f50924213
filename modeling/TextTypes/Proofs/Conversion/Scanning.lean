import Mathlib.Data.List.Infix
import TextTypes.Conversion.Search
import TextTypes.Proofs.Conversion.Tries

/-!
The scan finds the leftmost-longest match.

After a part of the text has been read, the live partial matches are exactly the ends of that
part on which some source may still go on, as far as they start no later than the best match;
and the best match is the leftmost-longest one of that part. Once nothing is live, no match of
the whole text comes before the best one or outgrows it.
-/

namespace TextTypes.Conversion.Search

variable {root : Trie Rule} {text : List Char}

/-- A source that stands in a text at place `i`. -/
structure Occurs (root : Trie Rule) (text : List Char) (i : Nat) (s : List Char) (rule : Rule) :
    Prop where
  ne_nil : s ≠ []
  isPrefix : s <+: text.drop i
  find? : root.find? s = some rule

/-- The leftmost occurrence, and of those at its place the longest. -/
structure IsFirst (root : Trie Rule) (text : List Char) (i : Nat) (s : List Char) (rule : Rule) :
    Prop where
  occurs : Occurs root text i s rule
  first : ∀ i' s' rule', Occurs root text i' s' rule' → i < i' ∨ (i = i' ∧ s'.length ≤ s.length)

lemma Occurs.lt_length {i : Nat} {s : List Char} {rule : Rule} (h : Occurs root text i s rule) :
    i < text.length := by
  by_contra hi
  have := h.isPrefix
  rw [List.drop_of_length_le (by omega), List.prefix_nil] at this
  exact h.ne_nil this

/-! ### Reading one more character -/

/-- A text and one character: an occurrence ends before the character or with it. -/
lemma occurs_concat_iff {c : Char} {i : Nat} {s : List Char} {rule : Rule} :
    Occurs root (text ++ [c]) i s rule ↔
      Occurs root text i s rule ∨
        i ≤ text.length ∧ s = text.drop i ++ [c] ∧ root.find? s = some rule := by
  by_cases hi : i ≤ text.length
  · constructor
    · rintro ⟨hne, hpre, hfind⟩
      rw [List.drop_append_of_le_length hi, List.prefix_concat_iff] at hpre
      rcases hpre with rfl | hpre
      · exact .inr ⟨hi, rfl, hfind⟩
      · exact .inl ⟨hne, hpre, hfind⟩
    · rintro (⟨hne, hpre, hfind⟩ | ⟨-, rfl, hfind⟩)
      · refine ⟨hne, ?_, hfind⟩
        rw [List.drop_append_of_le_length hi]
        exact hpre.trans (List.prefix_append _ _)
      · refine ⟨by simp, ?_, hfind⟩
        rw [List.drop_append_of_le_length hi]
  · constructor
    · intro h
      have := h.lt_length
      rw [List.length_append, List.length_singleton] at this
      omega
    · rintro (h | ⟨h, -⟩)
      · have := h.lt_length
        omega
      · omega

lemma record_cases (stop : Nat) (best : Option Match) (p : Partial) :
    (record stop best p = best ∧
        (p.node.value.isSome → ∃ b, best = some b ∧ b.start < p.start)) ∨
      ∃ rule, p.node.value = some rule ∧ record stop best p = some ⟨p.start, stop, rule⟩ ∧
        ∀ b, best = some b → p.start ≤ b.start := by
  unfold record
  rcases p.node.value with _ | rule
  · exact .inl ⟨rfl, by simp⟩
  · rcases best with _ | b
    · exact .inr ⟨rule, rfl, rfl, by simp⟩
    · by_cases hle : p.start ≤ b.start
      · exact .inr ⟨rule, rfl, by simp [better, hle], by simpa using hle⟩
      · exact .inl ⟨by simp [better, hle], fun _ => ⟨b, rfl, by omega⟩⟩

/-- Of a best match and the partial matches that have become complete, the one that starts
first is kept, and a partial match is preferred to a best match that starts with it. -/
lemma foldl_record_cases (stop : Nat) (reached : List Partial) (best : Option Match) :
    (reached.foldl (record stop) best = best ∧
        ∀ p ∈ reached, p.node.value.isSome → ∃ b, best = some b ∧ b.start < p.start) ∨
      ∃ p ∈ reached, ∃ rule, p.node.value = some rule ∧
        reached.foldl (record stop) best = some ⟨p.start, stop, rule⟩ ∧
        (∀ b, best = some b → p.start ≤ b.start) ∧
        ∀ q ∈ reached, q.node.value.isSome → p.start ≤ q.start := by
  induction reached generalizing best with
  | nil => exact .inl ⟨rfl, by simp⟩
  | cons p reached ih =>
    rw [List.foldl_cons]
    rcases record_cases stop best p with ⟨hrec, hp⟩ | ⟨rule, hv, hrec, hle⟩ <;> rw [hrec]
    · rcases ih best with ⟨heq, hall⟩ | ⟨q, hq, rule, hrule, heq, hbest, hall⟩
      · exact .inl ⟨heq, List.forall_mem_cons.mpr ⟨hp, hall⟩⟩
      · refine .inr ⟨q, List.mem_cons_of_mem _ hq, rule, hrule, heq, hbest,
          List.forall_mem_cons.mpr ⟨fun hsome => ?_, hall⟩⟩
        obtain ⟨b, hb, hlt⟩ := hp hsome
        exact Nat.le_of_lt (Nat.lt_of_le_of_lt (hbest b hb) hlt)
    · rcases ih (some ⟨p.start, stop, rule⟩) with
        ⟨heq, hall⟩ | ⟨q, hq, rule', hrule, heq, hbest, hall⟩
      · refine .inr ⟨p, List.mem_cons_self, rule, hv, heq, hle,
          List.forall_mem_cons.mpr ⟨fun _ => Nat.le_refl _, fun r hr hsome => ?_⟩⟩
        obtain ⟨b, hb, hlt⟩ := hall r hr hsome
        cases hb
        exact Nat.le_of_lt hlt
      · have hqp : q.start ≤ p.start := hbest _ rfl
        exact .inr ⟨q, List.mem_cons_of_mem _ hq, rule', hrule, heq,
          fun b hb => Nat.le_trans hqp (hle b hb), List.forall_mem_cons.mpr ⟨fun _ => hqp, hall⟩⟩

/-! ### What the scan keeps -/

/-- The state of a scan that began at `start` and has read `text`. -/
structure Reads (root : Trie Rule) (start : Nat) (text : List Char) (st : Search) : Prop where
  /-- A live partial match stands at the node its part of the text leads to. -/
  sound : ∀ p ∈ st.live, ∃ i < text.length, p.start = start + i ∧
    root.descend? (text.drop i) = some p.node
  /-- A part of the text that may go on is live, unless it starts behind the best match. -/
  complete : ∀ i < text.length, ∀ node, root.descend? (text.drop i) = some node →
    node.isLeaf = false → (∀ b, st.best = some b → start + i ≤ b.start) →
    ⟨start + i, node⟩ ∈ st.live
  none : st.best = none → ∀ i s rule, ¬Occurs root text i s rule
  best : ∀ b, st.best = some b → ∃ i s, IsFirst root text i s b.rule ∧
    b.start = start + i ∧ b.stop = start + i + s.length

lemma reads_nil (start : Nat) : Reads root start [] {} where
  sound p hp := by cases hp
  complete i hi := by simp at hi
  none _ i s rule h := by simpa using h.lt_length
  best b hb := by cases hb

lemma mem_moved {c : Char} {live : List Partial} {p : Partial} :
    p ∈ moved c live ↔ ∃ q ∈ live, q.start = p.start ∧ q.node.child? c = some p.node := by
  obtain ⟨start, node⟩ := p
  simp only [moved, List.mem_filterMap, Option.map_eq_some_iff, Partial.mk.injEq]
  constructor
  · rintro ⟨q, hq, n, hn, hs, rfl⟩
    exact ⟨q, hq, hs, hn⟩
  · rintro ⟨q, hq, hs, hn⟩
    exact ⟨q, hq, node, hn, hs, rfl⟩

section Step

variable {start : Nat} {st : Search} {c : Char}

/-- The partial matches after one more character, before any is dropped. -/
def reached (root : Trie Rule) (pos : Nat) (c : Char) (st : Search) : List Partial :=
  moved c (⟨pos, root⟩ :: st.live)

lemma sound_reached (h : Reads root start text st) :
    ∀ p ∈ reached root (start + text.length) c st, ∃ i ≤ text.length, p.start = start + i ∧
      root.descend? (text.drop i ++ [c]) = some p.node := by
  intro p hp
  obtain ⟨q, hq, hstart, hchild⟩ := mem_moved.mp hp
  rcases List.mem_cons.mp hq with rfl | hq
  · refine ⟨text.length, Nat.le_refl _, hstart.symm, ?_⟩
    rw [List.drop_length, Trie.descend?_concat]
    exact hchild
  · obtain ⟨i, hi, hs, hd⟩ := h.sound q hq
    refine ⟨i, Nat.le_of_lt hi, by rw [← hstart, hs], ?_⟩
    rw [Trie.descend?_concat, hd]
    exact hchild

lemma complete_reached (h : Reads root start text st) {i : Nat} (hi : i ≤ text.length)
    {node : Trie Rule} (hd : root.descend? (text.drop i ++ [c]) = some node)
    (hb : ∀ b, st.best = some b → start + i ≤ b.start) :
    ⟨start + i, node⟩ ∈ reached root (start + text.length) c st := by
  rw [Trie.descend?_concat] at hd
  obtain ⟨parent, hparent, hchild⟩ := Option.bind_eq_some_iff.mp hd
  refine mem_moved.mpr ?_
  rcases Nat.eq_or_lt_of_le hi with rfl | hlt
  · rw [List.drop_length] at hparent
    cases hparent
    exact ⟨_, List.mem_cons_self, rfl, hchild⟩
  · have hleaf : parent.isLeaf = false := by
      by_contra hl
      rw [Trie.child?_of_isLeaf (by simpa using hl)] at hchild
      cases hchild
    exact ⟨_, List.mem_cons_of_mem _ (h.complete i hlt parent hparent hleaf hb), rfl, hchild⟩

/-- A source that ends with the character is among them, unless the best match comes first. -/
lemma exists_mem_reached (h : Reads root start text st) {i : Nat} (hi : i ≤ text.length)
    {rule : Rule} (hfind : root.find? (text.drop i ++ [c]) = some rule)
    (hb : ∀ b, st.best = some b → start + i ≤ b.start) :
    ∃ p ∈ reached root (start + text.length) c st, p.start = start + i ∧ p.node.value.isSome := by
  obtain ⟨node, hd, hv⟩ := Option.bind_eq_some_iff.mp hfind
  refine ⟨_, complete_reached h hi hd hb, rfl, ?_⟩
  rw [hv]
  rfl

lemma mem_live_prune {st : Search} {p : Partial} :
    p ∈ (prune st).live ↔ p ∈ st.live ∧ ∀ b, st.best = some b → p.start ≤ b.start := by
  unfold prune
  rcases hb : st.best with _ | b <;> simp

lemma best_prune (st : Search) : (prune st).best = st.best := by
  obtain ⟨live, best⟩ := st
  cases best <;> rfl

lemma best_step (pos : Nat) :
    (step root pos c st).best = (reached root pos c st).foldl (record (pos + 1)) st.best :=
  best_prune _

lemma mem_live_step {pos : Nat} {p : Partial} :
    p ∈ (step root pos c st).live ↔
      (p ∈ reached root pos c st ∧ p.node.isLeaf = false) ∧
        ∀ b, (step root pos c st).best = some b → p.start ≤ b.start := by
  rw [best_step]
  refine mem_live_prune.trans ?_
  rw [List.mem_filter, Bool.not_eq_true']
  rfl

/-- The start of the best match never grows. -/
lemma best_step_le (root : Trie Rule) (pos : Nat) (c : Char) {b : Match}
    (hb : st.best = some b) :
    ∃ b', (step root pos c st).best = some b' ∧ b'.start ≤ b.start := by
  rw [best_step]
  rcases foldl_record_cases (pos + 1) (reached root pos c st) st.best with
    ⟨heq, -⟩ | ⟨p, -, rule, -, heq, hle, -⟩
  · exact ⟨b, heq.trans hb, Nat.le_refl _⟩
  · exact ⟨_, heq, hle b hb⟩

/-- The first occurrence stays first when what ends with the character starts behind it. -/
lemma isFirst_concat (h : Reads root start text st) {b : Match} (hb : st.best = some b)
    (hall : ∀ p ∈ reached root (start + text.length) c st, p.node.value.isSome →
      b.start < p.start)
    {i : Nat} {s : List Char} (hfirst : IsFirst root text i s b.rule)
    (hstart : b.start = start + i) : IsFirst root (text ++ [c]) i s b.rule := by
  refine ⟨occurs_concat_iff.mpr (.inl hfirst.occurs), fun i' s' rule' ho => ?_⟩
  rcases occurs_concat_iff.mp ho with ho | ⟨hi', rfl, hfind⟩
  · exact hfirst.first i' s' rule' ho
  · left
    by_contra hlt
    obtain ⟨p, hp, hs, hv⟩ := exists_mem_reached h hi' hfind fun b' hb' => by
      rw [hb] at hb'
      cases hb'
      omega
    have := hall p hp hv
    omega

/-- A source that ends with the character is first when nothing starts before it. -/
lemma isFirst_of_reached (h : Reads root start text st) {i : Nat} (hi : i ≤ text.length)
    {rule : Rule} (hfind : root.find? (text.drop i ++ [c]) = some rule)
    (hle : ∀ b, st.best = some b → start + i ≤ b.start)
    (hall : ∀ p ∈ reached root (start + text.length) c st, p.node.value.isSome →
      start + i ≤ p.start) :
    IsFirst root (text ++ [c]) i (text.drop i ++ [c]) rule := by
  refine ⟨occurs_concat_iff.mpr (.inr ⟨hi, rfl, hfind⟩), fun i' s' rule' ho => ?_⟩
  rcases occurs_concat_iff.mp ho with ho | ⟨hi', rfl, hfind'⟩
  · rcases hbest : st.best with _ | b
    · exact absurd ho (h.none hbest i' s' rule')
    · obtain ⟨j, t, hfirst, hstart, -⟩ := h.best b hbest
      have hij : i ≤ j := by
        have := hle b hbest
        omega
      have hlen := ho.isPrefix.length_le
      rcases hfirst.first i' s' rule' ho with hlt | ⟨rfl, -⟩
      · exact .inl (Nat.lt_of_le_of_lt hij hlt)
      · rcases Nat.eq_or_lt_of_le hij with rfl | hlt
        · refine .inr ⟨rfl, ?_⟩
          rw [List.length_append]
          omega
        · exact .inl hlt
  · have hii : i ≤ i' := by
      by_contra hlt
      obtain ⟨p, hp, hs, hv⟩ := exists_mem_reached h hi' hfind' fun b hb => by
        have := hle b hb
        omega
      have := hall p hp hv
      omega
    rcases Nat.eq_or_lt_of_le hii with rfl | hlt
    · exact .inr ⟨rfl, Nat.le_refl _⟩
    · exact .inl hlt

lemma best_some_step (h : Reads root start text st) {b : Match}
    (hb : (step root (start + text.length) c st).best = some b) :
    ∃ i s, IsFirst root (text ++ [c]) i s b.rule ∧
      b.start = start + i ∧ b.stop = start + i + s.length := by
  rw [best_step] at hb
  rcases foldl_record_cases (start + text.length + 1) (reached root (start + text.length) c st)
    st.best with ⟨heq, hall⟩ | ⟨p, hp, rule, hrule, heq, hle, hall⟩
  · rw [heq] at hb
    obtain ⟨i, s, hfirst, hstart, hstop⟩ := h.best b hb
    refine ⟨i, s, isFirst_concat h hb (fun p hp hv => ?_) hfirst hstart, hstart, hstop⟩
    obtain ⟨b', hb', hlt⟩ := hall p hp hv
    rw [hb] at hb'
    cases hb'
    exact hlt
  · rw [heq] at hb
    cases hb
    obtain ⟨i, hi, hs, hd⟩ := sound_reached h p hp
    rw [hs] at hle hall
    refine ⟨i, text.drop i ++ [c], isFirst_of_reached h hi ?_ hle hall, hs, ?_⟩
    · rw [Trie.find?_eq_bind, hd]
      exact hrule
    · rw [List.length_append, List.length_drop, List.length_singleton]
      show start + text.length + 1 = _
      omega

lemma best_none_step (h : Reads root start text st)
    (hb : (step root (start + text.length) c st).best = none) :
    ∀ i s rule, ¬Occurs root (text ++ [c]) i s rule := by
  intro i s rule ho
  have hnone : st.best = none := by
    rcases hbest : st.best with _ | b
    · rfl
    · obtain ⟨b', hb', -⟩ := best_step_le root (start + text.length) c hbest
      rw [hb] at hb'
      cases hb'
  rw [best_step] at hb
  rcases foldl_record_cases (start + text.length + 1) (reached root (start + text.length) c st)
    st.best with ⟨-, hall⟩ | ⟨p, -, rule', -, heq, -, -⟩
  · rcases occurs_concat_iff.mp ho with ho | ⟨hi, rfl, hfind⟩
    · exact h.none hnone i s rule ho
    · obtain ⟨p, hp, -, hv⟩ := exists_mem_reached h hi hfind (by simp [hnone])
      obtain ⟨b, hb', -⟩ := hall p hp hv
      rw [hnone] at hb'
      cases hb'
  · rw [heq] at hb
    cases hb

/-- **One step of the scan reads one character.** -/
theorem Reads.step (h : Reads root start text st) (c : Char) :
    Reads root start (text ++ [c]) (step root (start + text.length) c st) where
  sound p hp := by
    obtain ⟨i, hi, hs, hd⟩ := sound_reached h p (mem_live_step.mp hp).1.1
    refine ⟨i, by rw [List.length_append, List.length_singleton]; omega, hs, ?_⟩
    rw [List.drop_append_of_le_length hi]
    exact hd
  complete i hi node hd hleaf hb := by
    rw [List.length_append, List.length_singleton] at hi
    rw [List.drop_append_of_le_length (by omega)] at hd
    refine mem_live_step.mpr ⟨⟨complete_reached h (by omega) hd fun b hbest => ?_, hleaf⟩, hb⟩
    obtain ⟨b', hb', hle⟩ := best_step_le root (start + text.length) c hbest
    exact Nat.le_trans (hb b' hb') hle
  none hb := best_none_step h hb
  best b hb := best_some_step h hb

end Step

/-! ### The first match -/

/-- With nothing live the best match is the first one of every longer text. -/
lemma Reads.isFirst_append {start : Nat} {st : Search} (h : Reads root start text st)
    (hlive : st.live = []) {b : Match} (hb : st.best = some b) (rest : List Char) :
    ∃ i s, IsFirst root (text ++ rest) i s b.rule ∧
      b.start = start + i ∧ b.stop = start + i + s.length := by
  obtain ⟨i, s, hfirst, hstart, hstop⟩ := h.best b hb
  have hi := hfirst.occurs.lt_length
  refine ⟨i, s, ⟨⟨hfirst.occurs.ne_nil, ?_, hfirst.occurs.find?⟩, fun i' s' rule' ho => ?_⟩,
    hstart, hstop⟩
  · rw [List.drop_append_of_le_length (Nat.le_of_lt hi)]
    exact hfirst.occurs.isPrefix.trans (List.prefix_append _ _)
  by_cases hi' : i < i'
  · exact .inl hi'
  have hpre := ho.isPrefix
  rw [List.drop_append_of_le_length (by omega)] at hpre
  rcases List.prefix_or_prefix_of_prefix hpre (List.prefix_append _ rest) with hin | ⟨u, rfl⟩
  · exact hfirst.first i' s' rule' ⟨ho.ne_nil, hin, ho.find?⟩
  · cases u with
    | nil => exact hfirst.first i' _ rule' ⟨ho.ne_nil, by rw [List.append_nil], ho.find?⟩
    | cons c u =>
      -- it goes on past the end of the text read so far, so it would be live
      exfalso
      have hfind := ho.find?
      rw [Trie.find?_append] at hfind
      obtain ⟨node, hd, hfind⟩ := Option.bind_eq_some_iff.mp hfind
      have hleaf : node.isLeaf = false := by
        by_contra hl
        rw [Trie.find?_cons, Trie.child?_of_isLeaf (by simpa using hl)] at hfind
        cases hfind
      have hmem := h.complete i' (by omega) node hd hleaf fun b' hb' => by
        rw [hb] at hb'
        cases hb'
        omega
      rw [hlive] at hmem
      cases hmem

/-- What a search from `start` has to find in a text. -/
def Found (root : Trie Rule) (start : Nat) (text : List Char) : Option Match → Prop
  | none => ∀ i s rule, ¬Occurs root text i s rule
  | some m => ∃ i s, IsFirst root text i s m.rule ∧
      m.start = start + i ∧ m.stop = start + i + s.length

lemma seek_cons (root : Trie Rule) (pos : Nat) (st : Search) (c : Char) (rest : List Char) :
    seek root pos st (c :: rest) =
      if (step root pos c st).best.isSome &&
          ((step root pos c st).live.isEmpty || rest.isEmpty) then (step root pos c st).best
      else seek root (pos + 1) (step root pos c st) rest := rfl

lemma found_seek {start : Nat} {st : Search} {rest : List Char} (h : Reads root start text st)
    (hend : rest = [] → st.best = none) :
    Found root start (text ++ rest) (seek root (start + text.length) st rest) := by
  induction rest generalizing text st with
  | nil =>
    rw [List.append_nil]
    exact h.none (hend rfl)
  | cons c rest ih =>
    have hstep := h.step c
    rw [seek_cons, List.append_cons]
    split
    · next hdone =>
      rw [Bool.and_eq_true, Bool.or_eq_true, List.isEmpty_iff, List.isEmpty_iff] at hdone
      obtain ⟨b, hb⟩ := Option.isSome_iff_exists.mp hdone.1
      rw [hb]
      rcases hdone.2 with hlive | rfl
      · exact hstep.isFirst_append hlive hb rest
      · rw [List.append_nil]
        exact hstep.best b hb
    · next hgo =>
      have := ih hstep fun hrest => by
        subst hrest
        simpa using hgo
      rwa [List.length_append, List.length_singleton, ← Nat.add_assoc] at this

/-- **The search finds the leftmost-longest match**, and fails only if there is none. -/
theorem found_seek_start (root : Trie Rule) (start : Nat) (c : Char) (rest : List Char) :
    Found root start (c :: rest) (seek root start {} (c :: rest)) :=
  found_seek (reads_nil start) (by simp)

end TextTypes.Conversion.Search
