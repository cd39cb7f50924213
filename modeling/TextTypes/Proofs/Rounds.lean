import Mathlib.Tactic.Common

/-!
Loops that run round by round.

A round can fail, as a look past the end of a list does. A loop is run for a number of rounds, and
has no result if it has not stopped by then: a result says that no round fails, that the loop
stops, and how soon.
-/

namespace TextTypes

structure Loop (σ : Type) where
  stops : σ → Bool
  round? : σ → Option σ

namespace Loop

variable {σ : Type} (l : Loop σ)

/-- The state in which a loop stops, if that takes no more than `n` rounds. -/
def run? : (n : Nat) → σ → Option σ
  | 0, s => if l.stops s then some s else none
  | n + 1, s => if l.stops s then some s else (l.round? s).bind (run? n)

variable {l}

lemma run?_of_stops {s : σ} (h : l.stops s = true) (n : Nat) : l.run? n s = some s := by
  cases n <;> exact if_pos h

/-- **A loop stops** when its invariant bounds the rounds that are left, and every round lowers the
bound. -/
theorem exists_run? {Inv : Nat → σ → Prop}
    (hround : ∀ n s, Inv n s → l.stops s = false →
      ∃ s', l.round? s = some s' ∧ ∃ m < n, Inv m s')
    {n k : Nat} {s : σ} (h : Inv n s) (hk : n ≤ k) :
    ∃ s', l.run? k s = some s' ∧ l.stops s' = true ∧ ∃ m, Inv m s' := by
  induction k generalizing n s with
  | zero =>
    rcases hs : l.stops s with _ | _
    · obtain ⟨-, -, m, hm, -⟩ := hround n s h hs
      omega
    · exact ⟨s, run?_of_stops hs 0, hs, n, h⟩
  | succ k ih =>
    rcases hs : l.stops s with _ | _
    · obtain ⟨s', hs', m, hm, hinv⟩ := hround n s h hs
      obtain ⟨r, hr, hstops⟩ := ih hinv (by omega)
      refine ⟨r, ?_, hstops⟩
      rw [run?, hs, if_neg Bool.false_ne_true, hs']
      exact hr
    · exact ⟨s, run?_of_stops hs _, hs, n, h⟩

end Loop

end TextTypes
