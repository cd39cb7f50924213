import Mathlib.Tactic.Common
import TextTypes.Pattern.Reader

/-!
What the readers of a pattern depend on.

A reader that stops before a closing parenthesis has looked at no more than that parenthesis: it
reads the same, and leaves the same, if the text ends in its place or goes on behind it in
another way. It may have passed other closing parentheses, such as those that are escaped, that
stand in a class or in a comment. This holds of a reader for each text on its own, so that it
can be proved along the recursion of the reader.
-/

namespace TextTypes.Pattern.Reader

/-- The end of a text, or a closing parenthesis. -/
inductive Stops : List Char → Prop
  | nil : Stops []
  | paren (t : List Char) : Stops (')' :: t)

/-- A test that cannot tell the end of a text from a closing parenthesis. -/
def Blind (p : List Char → Prop) : Prop :=
  ∀ y t t', Stops t → Stops t' → p (y ++ t) → p (y ++ t')

lemma Blind.not {p : List Char → Prop} (hp : Blind p) : Blind fun s => ¬ p s :=
  fun y t t' ht ht' h h' => h (hp y t' t ht' ht h')

lemma blind_head {q : Char → Prop} (hq : q ')') : Blind fun s => ∀ c ∈ s.head?, q c := by
  rintro (_ | ⟨d, y⟩) t t' ht ht' h
  · cases ht' with
    | nil => nofun
    | paren t' =>
      rintro c ⟨⟩
      exact hq
  · exact h

lemma blind_head_eq {c : Char} (hc : c ≠ ')') : Blind fun s => s.head? = some c := by
  have other := (blind_head (q := fun d => d ≠ c) hc.symm).not
  simpa using other

/-- A reader that, on the text `u`, depends on what it takes and on where it stops only. -/
structure Local {β : Type} (f : List Char → Option (β × List Char)) (u : List Char) : Prop where
  shrinks : ∀ {a w}, f u = some (a, w) → w.length ≤ u.length
  moves : ∀ {a v t}, f u = some (a, v ++ ')' :: t) →
    ∃ y, u = y ++ ')' :: t ∧ ∀ t', Stops t' → f (y ++ t') = some (a, v ++ t')

namespace Local

variable {α β : Type} {f g : List Char → Option (β × List Char)} {u : List Char}

lemma pure (b : β) : Local (fun s => some (b, s)) u where
  shrinks h := by
    cases h
    exact Nat.le_refl _
  moves h := by
    cases h
    exact ⟨_, rfl, fun _ _ => rfl⟩

lemma of_none (h : f u = Option.none) : Local f u where
  shrinks hw := by simp [h] at hw
  moves hw := by simp [h] at hw

lemma bind {k : β → List Char → Option (α × List Char)} (hf : Local f u)
    (hk : ∀ a w, f u = some (a, w) → Local (k a) w) :
    Local (fun s => (f s).bind fun r => k r.1 r.2) u where
  shrinks h := by
    obtain ⟨⟨a, w⟩, hw, h⟩ := Option.bind_eq_some_iff.mp h
    exact Nat.le_trans ((hk a w hw).shrinks h) (hf.shrinks hw)
  moves h := by
    obtain ⟨⟨a, w⟩, hw, h⟩ := Option.bind_eq_some_iff.mp h
    obtain ⟨x, rfl, hx⟩ := (hk a w hw).moves h
    obtain ⟨y, rfl, hy⟩ := hf.moves hw
    exact ⟨y, rfl, fun t' ht' => by rw [hy t' ht', Option.bind_some, hx t' ht']⟩

lemma map (hf : Local f u) (φ : β → α) : Local (fun s => (f s).map fun r => (φ r.1, r.2)) u := by
  simp only [Option.map_eq_bind]
  exact hf.bind fun a w _ => pure (φ a)

/-- The first character decides how a reader goes on. -/
lemma cons (c : Char) (h : Local (fun s => f (c :: s)) u) : Local f (c :: u) where
  shrinks hw := Nat.le_succ_of_le (h.shrinks hw)
  moves hw := by
    obtain ⟨y, rfl, hy⟩ := h.moves hw
    exact ⟨c :: y, rfl, hy⟩

lemma nil (h : ∀ a w, f [] = some (a, w) → w = []) : Local f [] where
  shrinks hw := Nat.le_of_eq (congrArg List.length (h _ _ hw))
  moves hw := by simpa using h _ _ hw

lemma of_cons (none : f [] = Option.none)
    (h : ∀ c s, u = c :: s → Local (fun s => f (c :: s)) s) : Local f u := by
  cases u with
  | nil => exact nil fun a w hw => by simp [none] at hw
  | cons c s => exact cons c (h c s rfl)

lemma congr (h : ∀ s, f s = g s) (hg : Local g u) : Local f u := by rwa [funext h]

/-- A reader that a blind test makes the same as another one. -/
lemma of_blind {p : List Char → Prop} (hp : Blind p) (hu : p u) (h : ∀ s, p s → f s = g s)
    (hg : Local g u) : Local f u where
  shrinks hw := hg.shrinks (by rwa [← h u hu])
  moves {a v t} hw := by
    rw [h u hu] at hw
    obtain ⟨y, rfl, hy⟩ := hg.moves hw
    refine ⟨y, rfl, fun t' ht' => ?_⟩
    rw [h _ (hp y _ t' (.paren t) ht' hu), hy t' ht']

/-- A character is taken if it is the expected one; else the reader is another one. -/
lemma peek (c : Char) (hc : c ≠ ')') (hf : ∀ s, u = c :: s → Local (fun s => f (c :: s)) s)
    (other : ∀ s, s.head? ≠ some c → f s = g s) (hg : u.head? ≠ some c → Local g u) :
    Local f u := by
  by_cases h : u.head? = some c
  · obtain ⟨s, rfl⟩ := List.head?_eq_some_iff.mp h
    exact cons c (hf s rfl)
  · exact of_blind (blind_head_eq hc).not h other (hg h)

end Local

end TextTypes.Pattern.Reader
