import TextTypes.Proofs.Pattern.Places
import TextTypes.Pattern.Search

/-!
Which parts of a text a pattern matches, and that a search finds nothing else.

A part of a text is named by the positions before its first and behind its last character. What
the repetitions of a search remember only keeps positions out of its answers, so it plays no
part here. A search counts no more rounds than there are positions; one of that many rounds has
taken no character, and may be repeated up to the count that the pattern asks for.
-/

namespace TextTypes.Pattern

/-! ### Rounds -/

/-- `n` steps of a relation between positions. -/
def Rounds (R : Nat → Nat → Prop) : (n : Nat) → (i j : Nat) → Prop
  | 0, i, j => i = j
  | n + 1, i, j => ∃ k, R i k ∧ Rounds R n k j

section Rounds

variable {R : Nat → Nat → Prop} {m n i j k : Nat}

lemma Rounds.add (h : Rounds R m i k) (h' : Rounds R n k j) : Rounds R (m + n) i j := by
  induction m generalizing i with
  | zero =>
    cases h
    rwa [Nat.zero_add]
  | succ m ih =>
    obtain ⟨l, hl, h⟩ := h
    rw [Nat.succ_add]
    exact ⟨l, hl, ih h⟩

lemma Rounds.snoc (h : Rounds R n i k) (h' : R k j) : Rounds R (n + 1) i j :=
  h.add ⟨j, h', rfl⟩

lemma Rounds.repeat (h : R i i) : ∀ n, Rounds R n i i
  | 0 => rfl
  | n + 1 => ⟨i, h, Rounds.repeat h n⟩

/-- A relation that only leads forward, and never beyond `size`. -/
def Forward (R : Nat → Nat → Prop) (size : Nat) : Prop :=
  ∀ ⦃i j⦄, R i j → i ≤ j ∧ (i < j → j ≤ size)

lemma Forward.rounds {size : Nat} (hR : Forward R size) (n : Nat) :
    Forward (Rounds R n) size := by
  induction n with
  | zero =>
    rintro i j rfl
    omega
  | succ n ih =>
    rintro i j ⟨k, h, h'⟩
    have := hR h
    have := ih h'
    omega

/-- Where there are more rounds than characters taken, one takes none and may be repeated. -/
theorem Rounds.stretch (hR : ∀ i j, R i j → i ≤ j) (h : Rounds R n i j) (few : j < i + n)
    (hm : n ≤ m) : Rounds R m i j := by
  induction n generalizing i m with
  | zero =>
    cases h
    omega
  | succ n ih =>
    obtain ⟨k, h, h'⟩ := h
    rcases Nat.eq_or_lt_of_le (hR i k h) with rfl | forward
    · have all : Rounds R (m - (n + 1) + (n + 1)) i j := (Rounds.repeat h _).add ⟨i, h, h'⟩
      rwa [Nat.sub_add_cancel hm] at all
    · obtain ⟨m, rfl⟩ := Nat.exists_eq_add_of_le' (show 1 ≤ m by omega)
      exact ⟨k, h, ih h' (by omega) (by omega)⟩

/-- A count that is cut down to more than the size of the text leads nowhere else. -/
lemma Rounds.uncut {size least more : Nat} (hR : Forward R size)
    (h : Rounds R (Nat.min least (size + 1) + more) i j) : Rounds R (least + more) i j := by
  rcases Nat.le_total least (size + 1) with few | many
  · rwa [show Nat.min least (size + 1) = least from Nat.min_eq_left few] at h
  · rw [show Nat.min least (size + 1) = size + 1 from Nat.min_eq_right many] at h
    have := hR.rounds _ h
    exact h.stretch (fun _ _ h => (hR h).1) (by omega) (by omega)

end Rounds

/-! ### What a pattern matches -/

/-- Whether a pattern matches what stands between two positions of a text. -/
def Matches (text : List Char) : Pattern CharClass → (i j : Nat) → Prop
  | empty, i, j => i = j
  | char cls, i, j => j = i + 1 ∧ ∃ c, text[i]? = some c ∧ cls.contains c = true
  | start, i, j => i = 0 ∧ j = 0
  | stop, i, j => i = text.length ∧ j = text.length
  | group p, i, j => p.Matches text i j
  | seq p q, i, j => ∃ k, p.Matches text i k ∧ q.Matches text k j
  | alt p q, i, j => p.Matches text i j ∨ q.Matches text i j
  | loop p min max, i, j =>
    ∃ more, (∀ m ∈ max, more ≤ m - min) ∧ Rounds (p.Matches text) (min + more) i j

variable {text : List Char}

lemma forward_matches (p : Pattern CharClass) : Forward (p.Matches text) text.length := by
  induction p with
  | empty =>
    rintro i j rfl
    omega
  | char cls =>
    rintro i j ⟨rfl, c, hc, -⟩
    obtain ⟨inside, -⟩ := List.getElem?_eq_some_iff.mp hc
    omega
  | start =>
    rintro i j ⟨rfl, rfl⟩
    omega
  | stop =>
    rintro i j ⟨rfl, rfl⟩
    omega
  | group p ih => exact ih
  | seq p q ihp ihq =>
    rintro i j ⟨k, hp, hq⟩
    have := ihp hp
    have := ihq hq
    omega
  | alt p q ihp ihq =>
    rintro i j (h | h)
    · exact ihp h
    · exact ihq h
  | loop p min max ih =>
    rintro i j ⟨more, -, h⟩
    exact ih.rounds _ h

theorem matches_append {p q : Pattern CharClass} {i j : Nat} :
    (p.append q).Matches text i j ↔ ∃ k, p.Matches text i k ∧ q.Matches text k j := by
  induction p, q using append.induct generalizing i with
  | case1 q => simp [append, Matches]
  | case2 p r q ih =>
    simp only [append, Matches, ih]
    constructor
    · rintro ⟨k, hp, l, hr, hq⟩
      exact ⟨l, ⟨k, hp, hr⟩, hq⟩
    · rintro ⟨l, ⟨k, hp, hr⟩, hq⟩
      exact ⟨k, hp, l, hr, hq⟩
  | case3 p h h' =>
    rw [append.eq_3 p h h']
    simp [Matches]
  | case4 p q h h' h'' =>
    rw [append.eq_4 p q h h' h'']
    rfl

/-! ### Soundness of a search -/

/-- An entry that leads only to where a relation leads. -/
def Leads (enter : Entry) (R : Nat → Nat → Prop) : Prop :=
  ∀ s m, ∀ j ∈ (enter s m).1, ∃ i ∈ s, R i j

section Leads

variable {enter : Entry} {R : Nat → Nat → Prop}

lemma Leads.andThen (h : Leads enter R) : Leads (andThen enter) R := by
  intro s m j hj
  rw [Pattern.andThen] at hj
  split at hj
  · rename_i none
    have some := Places.isEmpty_eq_false.mpr ⟨j, hj⟩
    rw [none] at some
    cases some
  · exact h s m j hj

lemma Leads.exactly (h : Leads enter R) : ∀ n, Leads (exactly enter n) (Rounds R n)
  | 0 => fun _ _ j hj => ⟨j, hj, rfl⟩
  | n + 1 => by
    intro s m j hj
    obtain ⟨k, hk, rest⟩ := (h.exactly n).andThen _ _ j hj
    obtain ⟨i, hi, first⟩ := h _ _ k hk
    exact ⟨i, hi, k, first, rest⟩

lemma Leads.atMost (h : Leads enter R) :
    ∀ n, Leads (atMost enter n) (fun i j => ∃ k ≤ n, Rounds R k i j)
  | 0 => fun _ _ j hj => ⟨j, hj, 0, Nat.le_refl 0, rfl⟩
  | n + 1 => by
    intro s m j hj
    rcases Places.mem_union.mp hj with hj | hj
    · exact ⟨j, hj, 0, Nat.zero_le _, rfl⟩
    · obtain ⟨k, hk, l, hl, rest⟩ := (h.atMost n).andThen _ _ j hj
      obtain ⟨i, hi, first⟩ := h _ _ k hk
      exact ⟨i, hi, l + 1, Nat.succ_le_succ hl, k, first, rest⟩

/-- Every round goes on from the start of a repetition or from where a round before has led. -/
lemma Leads.spread (h : Leads enter R) {F T : Nat → Prop}
    (step : ∀ i j, F i → R i j → T j) (again : ∀ i, T i → F i) {fuel : Nat}
    {fresh : Places} {st : Spread} (hf : ∀ i ∈ fresh, F i) (ht : ∀ j ∈ st.found, T j) :
    ∀ j ∈ (spread enter fuel fresh st).found, T j := by
  induction fuel generalizing fresh st with
  | zero => exact ht
  | succ fuel ih =>
    rw [Pattern.spread]
    split
    · exact ht
    · have led : ∀ j ∈ (enter (fresh.minus st.seen) st.inner).1, T j := by
        intro j hj
        obtain ⟨i, hi, first⟩ := h _ _ j hj
        exact step i j (hf i (Places.mem_minus.mp hi).1) first
      refine ih (fun j hj => again j (led j hj)) fun j hj => ?_
      exact (Places.mem_union.mp hj).elim (ht j) (led j)

lemma Leads.oneOrMore (h : Leads enter R) (fuel : Nat) :
    Leads (oneOrMore enter fuel) (fun i j => ∃ n, Rounds R (n + 1) i j) := by
  intro s m j hj
  refine h.spread (F := fun k => ∃ i ∈ s, ∃ n, Rounds R n i k)
    (T := fun k => ∃ i ∈ s, ∃ n, Rounds R (n + 1) i k) ?_ ?_ ?_ ?_ j hj
  · rintro k l ⟨i, hi, n, hk⟩ hl
    exact ⟨i, hi, n, hk.snoc hl⟩
  · rintro k ⟨i, hi, n, hk⟩
    exact ⟨i, hi, n + 1, hk⟩
  · exact fun i hi => ⟨i, hi, 0, rfl⟩
  · exact fun k hk => absurd hk Places.not_mem_none

lemma Leads.atLeast (h : Leads enter R) (fuel : Nat) :
    ∀ n, Leads (atLeast enter fuel n) (fun i j => ∃ more, Rounds R (n + more) i j)
  | 0 => by
    intro s m j hj
    rcases Places.mem_union.mp hj with hj | hj
    · exact ⟨j, hj, 0, rfl⟩
    · obtain ⟨i, hi, n, rounds⟩ := h.oneOrMore fuel s m j hj
      exact ⟨i, hi, n + 1, by rwa [Nat.zero_add]⟩
  | n + 1 => by
    intro s m j hj
    obtain ⟨k, hk, l, rest⟩ := (h.oneOrMore fuel).andThen _ _ j hj
    obtain ⟨i, hi, first⟩ := h.exactly n _ _ k hk
    refine ⟨i, hi, l, ?_⟩
    rw [Nat.add_assoc, Nat.add_comm 1 l]
    exact first.add rest

lemma Leads.between (h : Leads enter R) (min max : Nat) :
    Leads (between enter min max) (fun i j => ∃ more ≤ max - min, Rounds R (min + more) i j) := by
  intro s m j hj
  obtain ⟨k, hk, l, hl, rest⟩ := (h.atMost (max - min)).andThen _ _ j hj
  obtain ⟨i, hi, first⟩ := h.exactly min _ _ k hk
  exact ⟨i, hi, l, hl, first.add rest⟩

end Leads

theorem leads_enter (p : Pattern CharClass) :
    Leads ((p.map (placesOf text)).enter text.length) (p.Matches text) := by
  induction p with
  | empty => exact fun s m j hj => ⟨j, hj, rfl⟩
  | char cls =>
    intro s m j hj
    obtain ⟨i, hi, rfl⟩ := Places.mem_next.mp hj
    obtain ⟨hs, hc⟩ := Places.mem_inter.mp hi
    exact ⟨i, hs, rfl, Places.mem_ofText.mp hc⟩
  | start =>
    intro s m j hj
    obtain ⟨hs, hj⟩ := Places.mem_inter.mp hj
    have := Places.mem_only.mp hj
    exact ⟨j, hs, this, this⟩
  | stop =>
    intro s m j hj
    obtain ⟨hs, hj⟩ := Places.mem_inter.mp hj
    have := Places.mem_only.mp hj
    exact ⟨j, hs, this, this⟩
  | group p ih => exact ih
  | seq p q ihp ihq =>
    intro s m j hj
    obtain ⟨k, hk, second⟩ := ihq.andThen _ _ j hj
    obtain ⟨i, hi, first⟩ := ihp _ _ k hk
    exact ⟨i, hi, k, first, second⟩
  | alt p q ihp ihq =>
    intro s m j hj
    rcases Places.mem_union.mp hj with hj | hj
    · obtain ⟨i, hi, h⟩ := ihp _ _ j hj
      exact ⟨i, hi, .inl h⟩
    · obtain ⟨i, hi, h⟩ := ihq _ _ j hj
      exact ⟨i, hi, .inr h⟩
  | loop p min max ih =>
    intro s m j hj
    cases max with
    | none =>
      obtain ⟨i, hi, more, rounds⟩ := ih.atLeast _ _ _ _ j hj
      exact ⟨i, hi, more, nofun, rounds.uncut (forward_matches p)⟩
    | some max =>
      obtain ⟨i, hi, more, hm, rounds⟩ := ih.between _ _ _ _ j hj
      refine ⟨i, hi, more, fun m hmax => ?_, rounds.uncut (forward_matches p)⟩
      cases hmax
      simp only [Nat.min_def] at hm
      split at hm <;> split at hm <;> omega

lemma against_eq (p : Pattern CharClass) : p.against text = p.map (placesOf text) := by
  rw [against]
  congr 1
  funext cls
  generalize p.letters.eraseDups = classes
  induction classes with
  | nil => rfl
  | cons a classes ih =>
    rw [List.map_cons, List.lookup_cons]
    split
    · rename_i h
      rw [eq_of_beq h]
      rfl
    · exact ih

/-- A search that finds something finds a part of the text that the pattern matches. -/
theorem exists_matches_of_isMatch {p : Pattern CharClass} (h : p.isMatch text = true) :
    ∃ i j, p.Matches text i j := by
  rw [isMatch, Bool.not_eq_true', Places.isEmpty_eq_false] at h
  obtain ⟨j, hj⟩ := h
  rw [ends, against_eq] at hj
  obtain ⟨i, -, h⟩ := leads_enter p _ _ j hj
  exact ⟨i, j, h⟩

end TextTypes.Pattern
