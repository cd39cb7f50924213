import Mathlib.Tactic.Common
import TextTypes.Bisect

/-!
Bisection finds what is there.

What is found is an entry of the array that `side` calls equal, in any array. In an array whose
entries point to it, an entry that `side` calls equal is never passed over.
-/

namespace TextTypes.Bisect

variable {α : Type} {xs : Array α} {side : α → Ordering}

/-- Entries behind one that points to the front point there too, and entries in front of one
that points behind itself. -/
def Sided (side : α → Ordering) (xs : List α) : Prop :=
  xs.Pairwise fun x y => (side x = .lt → side y = .lt) ∧ (side y = .gt → side x = .gt)

lemma mem_of_search {fuel lo hi : Nat} {x : α} (h : search xs side fuel lo hi = some x) :
    x ∈ xs ∧ side x = .eq := by
  induction fuel generalizing lo hi with
  | zero => cases h
  | succ fuel ih =>
    unfold search at h
    by_cases hlt : lo < hi
    · simp only [if_pos hlt] at h
      rcases hmid : xs[lo + (hi - lo) / 2]? with _ | y
      · rw [hmid] at h
        cases h
      · simp only [hmid] at h
        rcases hside : side y with _ | _ | _
        · rw [hside] at h
          exact ih h
        · rw [hside] at h
          cases h
          exact ⟨Array.mem_of_getElem? hmid, hside⟩
        · rw [hside] at h
          exact ih h
    · rw [if_neg hlt] at h
      cases h

/-- The interval keeps an entry that `side` calls equal. -/
lemma isSome_search (h : Sided side xs.toList) {fuel lo hi k : Nat} {x : α} (hlo : lo ≤ k)
    (hhi : k < hi) (hsize : hi ≤ xs.size) (hfuel : hi - lo ≤ fuel) (hk : xs[k]? = some x)
    (heq : side x = .eq) : (search xs side fuel lo hi).isSome := by
  induction fuel generalizing lo hi with
  | zero => omega
  | succ fuel ih =>
    have hmid : lo + (hi - lo) / 2 < xs.size := by omega
    unfold search
    simp only [if_pos (Nat.lt_of_le_of_lt hlo hhi), Array.getElem?_eq_getElem hmid]
    have hsided : ∀ i j (hi : i < xs.size) (hj : j < xs.size), i < j →
        (side xs[i] = .lt → side xs[j] = .lt) ∧ (side xs[j] = .gt → side xs[i] = .gt) :=
      fun i j hi hj hij => List.pairwise_iff_getElem.mp h i j hi hj hij
    obtain ⟨hklt, rfl⟩ := Array.getElem?_eq_some_iff.mp hk
    rcases hside : side xs[lo + (hi - lo) / 2] with _ | _ | _
    · -- the entry in the middle lies behind the wanted one
      rcases Nat.lt_trichotomy k (lo + (hi - lo) / 2) with hlt | rfl | hgt
      · exact ih hlo hlt (by omega) (by omega)
      · rw [heq] at hside
        cases hside
      · have := (hsided _ _ hmid hklt hgt).1 hside
        rw [heq] at this
        cases this
    · rfl
    · rcases Nat.lt_trichotomy k (lo + (hi - lo) / 2) with hlt | rfl | hgt
      · have := (hsided _ _ hklt hmid hlt).2 hside
        rw [heq] at this
        cases this
      · rw [heq] at hside
        cases hside
      · exact ih hgt hhi hsize (by omega)

lemma mem_of_find? {x : α} (h : find? xs side = some x) : x ∈ xs.toList ∧ side x = .eq := by
  rw [Array.mem_toList_iff]
  exact mem_of_search h

/-- **Bisection finds an entry if there is one.** -/
theorem isSome_find?_iff (h : Sided side xs.toList) :
    (find? xs side).isSome ↔ ∃ x ∈ xs.toList, side x = .eq := by
  constructor
  · intro hsome
    obtain ⟨x, hx⟩ := Option.isSome_iff_exists.mp hsome
    exact ⟨x, mem_of_find? hx⟩
  · rintro ⟨x, hmem, heq⟩
    obtain ⟨k, hk, rfl⟩ := List.getElem_of_mem hmem
    rw [Array.length_toList] at hk
    refine isSome_search h (Nat.zero_le k) hk (Nat.le_refl _) (by omega) ?_ heq
    simp [hk]

end TextTypes.Bisect
