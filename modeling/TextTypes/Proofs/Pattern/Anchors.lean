import TextTypes.Proofs.Pattern.Matches
import TextTypes.Proofs.Pattern.Readers

/-!
What the anchors around a pattern enclose.

The anchors are put around a text, not around what has been read from it. The group that they
open is closed by the first parenthesis that closes none of the groups opened behind it, and
this one need not be the one that was put there: a closing parenthesis in the text that opens no
group takes its place.
-/

namespace TextTypes.Pattern

namespace Reader.State

/-- A state with one more group open around all others. -/
def within (st : State) (around : Group × Flags) : State :=
  { st with outer := st.outer ++ [around] }

variable {st st' : State} {around : Group × Flags} {s u rest : List Char} {n : Nat} {r : Nested}

lemma opened?_within : (st.within around).opened? s =
    (st.opened? s).map fun r => (r.1.within around, r.2) := by
  unfold opened?
  split
  · rw [Option.map_bind]
    refine Option.bind_congr fun r _ => ?_
    obtain ⟨named, flags, rest⟩ := r
    dsimp only [Function.comp_apply]
    unfold behindFlags
    split
    · rfl
    · split <;> rfl
    · rfl
  · rfl

lemma repeat?_within (min : Nat) (max : Option Nat) :
    (st.within around).repeat? min max = (st.repeat? min max).map (within · around) := by
  unfold repeat?
  rw [Option.map_map]
  rfl

/-- A group around all others makes no difference to a step that does not close it. -/
theorem step?_within (h : s.head? = some ')' → st.outer ≠ []) : (st.within around).step? s =
    (st.step? s).map fun r => (r.1.within around, r.2) := by
  cases s with
  | nil => rfl
  | cons c s =>
    by_cases hc : c ∈ special
    · simp only [special, List.mem_cons, List.not_mem_nil, or_false] at hc
      -- in the order of `special`; only a closing parenthesis looks at the groups around
      rcases hc with rfl | rfl | rfl | rfl | rfl | rfl | rfl | rfl | rfl | rfl | rfl
      · simp only [step?, openGroup?_eq]
        exact opened?_within
      · obtain ⟨group, outer, flags⟩ := st
        cases outer with
        | nil => exact absurd rfl (h rfl)
        | cons around outer => rfl
      · rfl
      · simp only [step?, within]
        cases class? st.flags s <;> rfl
      · simp only [step?, repeat?_within, Option.map_map]
        rfl
      · simp only [step?, repeat?_within, Option.map_map]
        rfl
      · simp only [step?, repeat?_within, Option.map_map]
        rfl
      · simp only [step?, repeat?_within]
        change (bounds? st.flags s).bind _ = Option.map _ ((bounds? st.flags s).bind _)
        rw [Option.map_bind]
        refine Option.bind_congr fun r _ => ?_
        obtain ⟨min, max, rest⟩ := r
        cases h : st.repeat? min max <;> simp [h]
      · rfl
      · rfl
      · rfl
    · rw [step?_of_not_special _ hc, step?_of_not_special _ hc, Option.map_map]
      rfl

/-- The next step, with the white space and comments before it. -/
def next? (st : State) (s : List Char) : Option (State × List Char) :=
  st.step? (skip st.flags s)

lemma local_next? (st : State) (u : List Char) : Local st.next? u :=
  (local_skip st.flags u).bind fun _ w _ => local_step? st w

lemma length_lt_of_next? (h : st.next? s = some (st', rest)) : rest.length < s.length :=
  Nat.lt_of_lt_of_le (length_lt_of_step? h) ((local_skip st.flags s).shrinks rfl)

lemma run?_of_skip_eq_nil (st : State) (h : skip st.flags s = []) :
    run? (n + 1) st s = if st.outer.isEmpty then some st.group.body else none := by
  rw [run?, h]

lemma run?_of_skip_ne_nil (st : State) (h : skip st.flags s ≠ []) :
    run? (n + 1) st s = (st.next? s).bind fun r => run? n r.1 r.2 := by
  rw [run?, next?]
  split
  · contradiction
  · rfl

lemma run?_of_next? (h : st.next? s = some (st', rest)) :
    run? (n + 1) st s = run? n st' rest := by
  rw [run?_of_skip_ne_nil st, h]
  · rfl
  · intro none
    rw [next?, none] at h
    cases h

/-! ### The parenthesis that closes a group -/

/-- How a text is read from inside a group: `inner` is all that stands in the group and is a
pattern of its own, whose parts have been collected in `g`; with a closing parenthesis behind it,
it never is. -/
structure Split (st : State) (around : Group × Flags) (u : List Char) (r : Nested)
    (inner back : List Char) (g : Group) : Prop where
  text : u = inner ++ ')' :: back
  alone : ∀ m, inner.length < m → run? m st inner = some g.body
  unbalanced : ∀ m t, run? m st (inner ++ ')' :: t) = none
  goesOn : ∃ m, run? m ⟨around.1.push g.close, [], around.2⟩ back = some r

variable {inner back : List Char} {g : Group}

/-- A step that does not close the group stands in front of the rest of what is in it. -/
lemma Split.step {w : List Char} (h : Split st' around w r inner back g)
    (hw : st.next? u = some (st', w)) :
    ∃ inner, Split st around u r inner back g := by
  obtain ⟨rfl, alone, unbalanced, goesOn⟩ := h
  obtain ⟨y, rfl, hy⟩ := (local_next? st u).moves hw
  have closed t : st.next? (y ++ ')' :: t) = some (st', inner ++ ')' :: t) := hy _ (.paren t)
  have ended : st.next? y = some (st', inner) := by simpa using hy [] .nil
  refine ⟨y, rfl, fun m hm => ?_, fun m t => ?_, goesOn⟩
  · obtain ⟨m, rfl⟩ := Nat.exists_eq_add_of_le' (Nat.zero_lt_of_lt hm)
    rw [run?_of_next? ended]
    have := length_lt_of_next? ended
    exact alone m (by omega)
  · cases m with
    | zero => rfl
    | succ m => rw [run?_of_next? (closed t), unbalanced]

/-- The step that closes the group. -/
lemma Split.last {group : Group} {flags : Flags}
    (hs : skip flags u = ')' :: back)
    (hr : run? n ⟨around.1.push group.close, [], around.2⟩ back = some r) :
    ∃ inner, Split ⟨group, [], flags⟩ around u r inner back group := by
  obtain ⟨y, rfl, hy⟩ := (local_skip flags u).moves (v := []) (congrArg some (congrArg _ hs))
  have skipped {t} (ht : Stops t) : skip flags (y ++ t) = t := by simpa using hy t ht
  refine ⟨y, rfl, fun m hm => ?_, fun m t => ?_, n, hr⟩
  · obtain ⟨m, rfl⟩ := Nat.exists_eq_add_of_le' (Nat.zero_lt_of_lt hm)
    rw [run?_of_skip_eq_nil _ (by simpa using skipped .nil)]
    rfl
  · cases m with
    | zero => rfl
    | succ m =>
      have behind := skipped (.paren t)
      rw [run?_of_skip_ne_nil _ (by simp [behind]), next?, behind]
      rfl

/-- A text that is read from inside a group to its end closes the group somewhere. -/
theorem exists_split (h : run? n (st.within around) u = some r) :
    ∃ inner back g, Split st around u r inner back g := by
  induction n generalizing st u with
  | zero => cases h
  | succ n ih =>
    by_cases hs : skip st.flags u = []
    · rw [run?_of_skip_eq_nil (st.within around) hs] at h
      simp [within] at h
    · rw [run?_of_skip_ne_nil (st.within around) hs] at h
      obtain ⟨⟨st', w⟩, hw, h⟩ := Option.bind_eq_some_iff.mp h
      by_cases last : (skip st.flags u).head? = some ')' ∧ st.outer = []
      · obtain ⟨group, outer, flags⟩ := st
        obtain ⟨back, hb⟩ := List.head?_eq_some_iff.mp last.1
        obtain rfl : outer = [] := last.2
        have closing : (within ⟨group, [], flags⟩ around).next? u =
            some (⟨around.1.push group.close, [], around.2⟩, back) := by
          change State.step? _ (skip flags u) = _
          rw [show skip flags u = ')' :: back from hb]
          rfl
        cases closing.symm.trans hw
        obtain ⟨inner, split⟩ := Split.last hb h
        exact ⟨inner, _, group, split⟩
      · rw [next?, show (st.within around).flags = st.flags from rfl,
          step?_within fun h h' => last ⟨h, h'⟩] at hw
        obtain ⟨⟨st', w⟩, taken, whole⟩ := Option.map_eq_some_iff.mp hw
        cases whole
        obtain ⟨inner, back, g, split⟩ := ih h
        obtain ⟨inner, split⟩ := split.step taken
        exact ⟨inner, back, g, split⟩

end Reader.State

/-! ### The anchors -/

open Reader in
/-- What a text denotes on its own, without regard to size. -/
def written? (source : List Char) : Option Nested := State.run? (source.length + 1) {} source

lemma read?_eq (source : List Char) : read? source = (written? source).bind fun p =>
    if p.depth ≤ nestingLimit && p.pattern.fits then some p.pattern else none :=
  rfl

namespace Reader

/-- The group that is open before the first character of an anchored text. -/
def opening : Group × Flags := ({ items := [.part ⟨.start, 0⟩] }, {})

lemma written?_anchored (source : List Char) : written? (anchored source) =
    State.run? (source.length + 5) (State.within {} opening) (source ++ ")$".toList) := by
  rw [written?, show (anchored source).length + 1 = source.length + 5 + 2 by simp [anchored]]
  rfl

variable {g : Group} {r : Nested} {n : Nat}

/-- A group between the anchors. -/
lemma eq_of_run?_stop
    (h : State.run? n ⟨opening.1.push g.close, [], {}⟩ ['$'] = some r) :
    r = Nested.choice [.sequence [⟨.start, 0⟩, g.close, ⟨.stop, 0⟩]] := by
  match n with
  | 0 => cases h
  | 1 => cases h
  | n + 2 => exact (Option.some.inj h).symm

lemma choice_eq_self {p : Pattern CharClass} (h : p.branches = [p]) : choice [p] = p := by
  simp [choice, h]

/-- A pattern between the anchors matches just the whole texts that it matches without them. -/
theorem matches_between {p : Pattern CharClass} {text : List Char} {i j : Nat} :
    (choice [concat [.start, p, .stop]]).Matches text i j ↔
      i = 0 ∧ j = text.length ∧ p.Matches text 0 text.length := by
  have one : choice [start.append (p.append .stop)] = start.append (p.append .stop) :=
    choice_eq_self (by cases p.append .stop <;> rfl)
  rw [show concat [.start, p, .stop] = start.append (p.append .stop) from rfl, one]
  simp only [matches_append, Matches]
  constructor
  · rintro ⟨_, ⟨rfl, rfl⟩, _, hp, rfl, rfl⟩
    exact ⟨rfl, rfl, hp⟩
  · rintro ⟨rfl, rfl, hp⟩
    exact ⟨0, ⟨rfl, rfl⟩, text.length, hp, rfl, rfl⟩

lemma depth_between (p : Nested) :
    (Nested.choice [.sequence [⟨.start, 0⟩, p, ⟨.stop, 0⟩]]).depth = p.depth + 1 := by
  simp [Nested.choice, Nested.sequence, Nested.depthOf]

lemma matches_close {g : Group} {text : List Char} {i j : Nat} :
    g.close.pattern.Matches text i j ↔ g.body.pattern.Matches text i j := by
  rw [Group.close]
  split <;> rfl

end Reader

/-- The parenthesis that was put behind a text is the one that closes, or else one in the text. -/
lemma eq_or_exists_of_append_eq {p inner back : List Char}
    (h : p ++ ")$".toList = inner ++ ')' :: back) :
    (p = inner ∧ back = ['$']) ∨ ∃ t, p = inner ++ ')' :: t := by
  rcases List.append_eq_append_iff.mp h with ⟨a, rfl, rest⟩ | ⟨a, rfl, rest⟩
  · match a with
    | [] =>
      cases rest
      exact .inl ⟨(List.append_nil p).symm, rfl⟩
    | [_] => cases rest
    | _ :: _ :: _ => simp at rest
  · match a with
    | [] =>
      cases rest
      exact .inl ⟨List.append_nil inner, rfl⟩
    | _ :: t =>
      cases rest
      exact .inr ⟨t, rfl⟩

variable {source : List Char} {p : Pattern CharClass}

open Reader in
/-- An anchored text that is a pattern holds a pattern between the anchors, or else it has a
closing parenthesis that opens no group behind a pattern. -/
theorem written?_of_readAnchored? (h : readAnchored? source = some p) :
    (∃ w, written? source = some w ∧ w.depth ≤ nestingLimit ∧ ∀ text i j,
      p.Matches text i j ↔ i = 0 ∧ j = text.length ∧ w.pattern.Matches text 0 text.length) ∨
    (written? source = none ∧
      ∃ front back, source = front ++ ')' :: back ∧ (written? front).isSome) := by
  rw [readAnchored?, read?_eq, written?_anchored] at h
  obtain ⟨r, hr, h⟩ := Option.bind_eq_some_iff.mp h
  obtain ⟨inner, back, g, text, alone, unbalanced, m, goesOn⟩ := State.exists_split hr
  have own : written? inner = some g.body := alone _ (Nat.lt_succ_self _)
  rcases eq_or_exists_of_append_eq text with ⟨rfl, rfl⟩ | ⟨t, rfl⟩
  · obtain rfl := eq_of_run?_stop goesOn
    split at h
    · rename_i limits
      cases h
      rw [Bool.and_eq_true, decide_eq_true_iff, depth_between] at limits
      refine .inl ⟨g.body, own, ?_, fun text i j => ?_⟩
      · exact Nat.le_trans (Nat.le_add_right _ 2) limits.1
      · rw [← matches_close]
        exact matches_between
    · cases h
  · exact .inr ⟨unbalanced _ t, inner, t, rfl, by rw [own]; rfl⟩

end TextTypes.Pattern
