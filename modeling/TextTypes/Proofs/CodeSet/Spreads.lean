import Mathlib.Data.Rat.Floor
import Mathlib.Order.Lattice.Nat
import Mathlib.Tactic.Linarith
import Mathlib.Tactic.NormNum
import TextTypes.Proofs.CodeSet.Transforms

/-!
Blocks in slots of their own.

The search for a bucket count finds the least one at which no two keys of blocks meet. Blocks that
do not meet are placed without a clash, so the placement that follows a search succeeds, and a set
for which slots are chosen is stored in slots.
-/

namespace TextTypes.CodeSet

open TextTypes.Range TextTypes.Buckets

namespace Cost

lemma upperBound_eq (k : Nat) : upperBound k = ⌈(2.6 : ℚ) * k⌉₊ := by
  refine eq_of_forall_ge_iff fun n => ?_
  have hfifths : (2.6 : ℚ) * k ≤ n ↔ 13 * k ≤ 5 * n := by
    rw [← Nat.cast_le (α := ℚ)]
    push_cast
    constructor <;> intro h <;> linarith
  rw [Nat.ceil_le, hfifths, upperBound]
  omega

/-- The bucket counts from as many as there are keys to 2.6 times as many at which no two keys
meet. Without keys it is one bucket. -/
def spreads (keys : List Nat) : Set Nat :=
  {n | (if keys.length = 0 then n = 1 else keys.length ≤ n ∧ n ≤ ⌈(2.6 : ℚ) * keys.length⌉₊) ∧
    keys.Pairwise fun key key' => key % n ≠ key' % n}

variable {keys : List Nat} {n : Nat}

lemma pos_of_mem_spreads (h : n ∈ spreads keys) : 0 < n := by
  have hwindow := h.1
  split at hwindow <;> omega

lemma spreads_of_ne_nil (h : keys ≠ []) :
    spreads keys = freeCounts keys keys.length (upperBound keys.length) := by
  ext n
  have hlength : keys.length ≠ 0 := fun h0 => h (List.length_eq_zero_iff.mp h0)
  simp only [spreads, freeCounts, Set.mem_ofPred_eq, if_neg hlength, upperBound_eq, List.Nodup,
    List.pairwise_map]

lemma spreads_nil : spreads [] = {1} := by
  ext n
  simp [spreads]

/-- The search finds the least bucket count at which no two keys meet. -/
lemma optimalCount?_eq_some_iff : optimalCount? keys = some n ↔ IsLeast (spreads keys) n := by
  unfold optimalCount?
  by_cases h : keys = []
  · subst h
    rw [spreads_nil, List.isEmpty_nil, if_pos rfl, Option.some_inj]
    refine ⟨fun h => h ▸ isLeast_singleton, fun h => isLeast_singleton.unique h⟩
  · have hempty : ¬keys.isEmpty = true := fun h' => h (List.isEmpty_iff.mp h')
    rw [if_neg hempty, spreads_of_ne_nil h, least?_eq_some_iff (List.length_pos_iff.mpr h)]

lemma exists_optimalCount? (h : (spreads keys).Nonempty) :
    ∃ n, optimalCount? keys = some n ∧ IsLeast (spreads keys) n :=
  have hleast := isLeast_csInf h
  ⟨_, optimalCount?_eq_some_iff.mpr hleast, hleast⟩

end Cost

/-! ### Placement -/

namespace Layout

/-- Blocks that do not meet find their slots free. -/
lemma exists_placeAll {blocks : List Block} {slots : Array (Option Block)} {n : Nat}
    (hsize : slots.size = n)
    (hkeys : (blocks.map Block.key).Pairwise fun key key' => key % n ≠ key' % n)
    (hfree : ∀ b ∈ blocks, slots[b.key % n]? = some none) :
    ∃ slots', placeAll blocks slots = some slots' ∧ slots'.size = n := by
  induction blocks generalizing slots with
  | nil => exact ⟨slots, rfl, hsize⟩
  | cons c blocks ih =>
    rw [List.map_cons, List.pairwise_cons] at hkeys
    -- the slots of the other blocks stay free
    have hfree' : ∀ b ∈ blocks,
        (slots.setIfInBounds (c.key % n) (some c))[b.key % n]? = some none := by
      intro b hb
      rw [Array.getElem?_setIfInBounds_ne (hkeys.1 b.key (List.mem_map_of_mem hb))]
      exact hfree b (List.mem_cons_of_mem c hb)
    obtain ⟨slots', hplace, hsize'⟩ :=
      ih (Array.size_setIfInBounds.trans hsize) hkeys.2 hfree'
    refine ⟨slots', ?_, hsize'⟩
    rw [placeAll, hsize, hfree c List.mem_cons_self]
    exact hplace

/-- **Placement succeeds** if no two blocks meet. -/
theorem exists_place? {blocks : List Block} {n : Nat} (hn : 0 < n)
    (h : (blocks.map Block.key).Pairwise fun key key' => key % n ≠ key' % n) :
    ∃ slots, place? blocks n = some (.optimal slots) ∧ slots.size = n := by
  have hfree : ∀ b ∈ blocks, (Array.replicate n none)[b.key % n]? = some (none : Option Block) :=
    fun b _ => by rw [Array.getElem?_replicate, if_pos (Nat.mod_lt _ hn)]
  obtain ⟨slots, hplace, hsize⟩ := exists_placeAll Array.size_replicate h hfree
  refine ⟨slots, ?_, hsize⟩
  rw [place?, Nat.max_eq_left hn, hplace, Option.map_some]

end Layout

/-! ### Sets in slots -/

variable {s : CodeSet}

lemma toOptimal?_of_isLeast {n : Nat} (h : IsLeast (Cost.spreads (s.blocks.map Block.key)) n) :
    ∃ slots, s.toOptimal? = some { s with layout := .optimal slots } ∧ slots.size = n := by
  obtain ⟨slots, hplace, hsize⟩ := Layout.exists_place? (Cost.pos_of_mem_spreads h.1) h.1.2
  refine ⟨slots, ?_, hsize⟩
  unfold toOptimal?
  rw [Cost.optimalCount?_eq_some_iff.mpr h]
  show (Layout.place? s.blocks n).bind _ = _
  rw [hplace]
  rfl

/-- A strategy of slots of their own comes from the search. -/
lemma Shape.optimalCount?_of_choose {s : Shape} {n : Nat} (h : s.choose.strategy = .optimal n) :
    Cost.optimalCount? s.keys = some n := by
  unfold Shape.choose at h
  split at h
  · cases h
  · rcases hcount : Cost.optimalCount? s.keys with _ | m
    · simp only [hcount] at h
      split at h <;> cases h
    · simp only [hcount] at h
      split at h <;> cases h
      rfl

lemma optimised_of_optimal {n : Nat} (h : s.shape.choose.strategy = .optimal n) :
    ∃ slots, Layout.place? s.blocks n = some (.optimal slots) ∧
      s.optimised = { s with layout := .optimal slots } ∧ slots.size = n := by
  have hleast := Cost.optimalCount?_eq_some_iff.mp (Shape.optimalCount?_of_choose h)
  obtain ⟨slots, hplace, hsize⟩ :=
    Layout.exists_place? (Cost.pos_of_mem_spreads hleast.1) hleast.1.2
  refine ⟨slots, hplace, ?_, hsize⟩
  unfold optimised
  rw [h]
  simp only [hplace]

/-- **One key in each bucket.** A set goes to slots exactly if some bucket count of the window keeps
the keys of its blocks apart, and then to the fewest slots of these counts. Where slots are
chosen as the cheapest layout, every block finds its slot free. -/
theorem isLeast_toOptimal? (s : CodeSet) :
    (s.toOptimal?.isSome = true ↔ (Cost.spreads (s.blocks.map Block.key)).Nonempty) ∧
      (∀ s' ∈ s.toOptimal?, ∃ slots, s'.layout = .optimal slots ∧
        IsLeast (Cost.spreads (s.blocks.map Block.key)) slots.size) ∧
      ∀ n, s.shape.choose.strategy = .optimal n →
        ∃ slots, Layout.place? s.blocks n = some (.optimal slots) ∧
          s.optimised = { s with layout := .optimal slots } ∧ slots.size = n := by
  refine ⟨⟨fun h => ?_, fun h => ?_⟩, fun s' hs' => ?_, fun n => optimised_of_optimal⟩
  · obtain ⟨s', hs'⟩ := Option.isSome_iff_exists.mp h
    obtain ⟨n, hn, -⟩ := Option.bind_eq_some_iff.mp hs'
    exact ⟨n, (Cost.optimalCount?_eq_some_iff.mp hn).1⟩
  · obtain ⟨n, -, hleast⟩ := Cost.exists_optimalCount? h
    obtain ⟨slots, hs', -⟩ := toOptimal?_of_isLeast hleast
    rw [hs', Option.isSome_some]
  · obtain ⟨n, hn, -⟩ := Option.bind_eq_some_iff.mp hs'
    have hleast := Cost.optimalCount?_eq_some_iff.mp hn
    obtain ⟨slots, heq, hsize⟩ := toOptimal?_of_isLeast hleast
    rw [Option.mem_def, heq, Option.some_inj] at hs'
    refine ⟨slots, by rw [← hs'], ?_⟩
    rw [hsize]
    exact hleast

end TextTypes.CodeSet
