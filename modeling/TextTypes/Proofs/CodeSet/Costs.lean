import TextTypes.Proofs.CodeSet.Built
import TextTypes.Proofs.CodeSet.Spreads

/-!
The cost of the chosen layout.

A set of enough blocks and spans is stored in the cheapest of the layouts that are priced: the
ranges, the slots with one key each, and the buckets with several keys if no number of slots keeps
the keys apart. Buckets are not priced where slots are found. They cost more than the slots, unless
there are so many more slots that it makes up for the keys that meet.
-/

namespace TextTypes.CodeSet

open TextTypes.Buckets

/-- How a layout stores the blocks. -/
def Layout.strategy : Layout → Strategy
  | .ranged _ => .ranged
  | .hashed buckets => .hashed buckets.size
  | .optimal slots => .optimal slots.size

namespace Cost

lemma lowerBound_eq (k : Nat) : lowerBound k = max ⌈(0.7 : ℚ) * k⌉₊ 1 := by
  have hceil : (7 * k + 9) / 10 = ⌈(0.7 : ℚ) * k⌉₊ := by
    refine eq_of_forall_ge_iff fun n => ?_
    have htenths : (0.7 : ℚ) * k ≤ n ↔ 7 * k ≤ 10 * n := by
      rw [← Nat.cast_le (α := ℚ)]
      push_cast
      constructor <;> intro h <;> linarith
    rw [Nat.ceil_le, htenths]
    omega
  rw [lowerBound, hceil]

lemma lowerBound_le_upperBound (k : Nat) : lowerBound k ≤ max (upperBound k) 1 := by
  unfold lowerBound upperBound
  omega

variable {keys : List Nat} {pieces n : Nat}

/-! ### Buckets with several keys -/

/-- What buckets cost apart from the keys that meet. -/
lemma le_hashed : 128 + 4 * n + 6 * keys.length + 2 * pieces ≤ hashed keys pieces n := by
  simp only [hashed, arrayBytes, referenceBytes]
  omega

/-- Keys that meet leave a bucket with more than one of them. -/
lemma exists_load_of_clash (hn : 0 < n)
    (h : ¬keys.Pairwise fun key key' => key % n ≠ key' % n) : ∃ load ∈ loads keys n, 1 < load := by
  have hfree : ¬isFree keys n = true := by
    rw [isFree_iff hn, List.Nodup, List.pairwise_map]
    exact h
  rw [isFree, Array.all_eq_true_iff_forall_mem] at hfree
  push Not at hfree
  obtain ⟨load, hmem, hload⟩ := hfree
  exact ⟨load, hmem, by simpa using hload⟩

/-- A bucket that keys share costs an array and a step of the penalty at least. -/
lemma le_hashed_of_clash (hn : 0 < n)
    (h : ¬keys.Pairwise fun key key' => key % n ≠ key' % n) :
    160 + 4 * n + 6 * keys.length + 2 * pieces ≤ hashed keys pieces n := by
  obtain ⟨load, hmem, hload⟩ := exists_load_of_clash hn h
  have hcrowded : 0 < crowded (loads keys n) := by
    rw [crowded, Array.size_pos_iff_exists_mem]
    exact ⟨load, Array.mem_filter.mpr ⟨hmem, by simpa using hload⟩⟩
  have hpenalty : 0 < penalty (loads keys n) := by
    rw [penalty, ← Array.sum_eq_foldr, Array.sum_pos_iff_exists_pos_nat]
    have hpos : 0 < (load - 1) * (load - 1) := Nat.mul_pos (by omega) (by omega)
    exact ⟨_, Array.mem_map.mpr ⟨load, hmem, rfl⟩, hpos⟩
  simp only [hashed, arrayBytes, referenceBytes]
  omega

/-- Keys that do not meet need a bucket each. -/
lemma length_le_of_pairwise (hn : 0 < n)
    (h : keys.Pairwise fun key key' => key % n ≠ key' % n) : keys.length ≤ n := by
  have hnodup : (keys.map (· % n)).Nodup := List.pairwise_map.mpr h
  have hle := length_le_of_nodup_of_lt hnodup fun r hr => by
    obtain ⟨key, -, rfl⟩ := List.mem_map.mp hr
    exact Nat.mod_lt _ hn
  rwa [List.length_map] at hle

/-! ### The cheapest of several -/

/-- Takes another bucket count for the best one if it costs less. -/
def cheaper (cost : Nat → Nat) (best : Nat × Nat) (n : Nat) : Nat × Nat :=
  if cost n < best.2 then (n, cost n) else best

lemma exists_cheaper (cost : Nat → Nat) (best n : Nat) :
    ∃ c ∈ [best, n], cheaper cost (best, cost best) n = (c, cost c) ∧
      cost c ≤ cost best ∧ cost c ≤ cost n := by
  by_cases h : cost n < cost best
  · exact ⟨n, by simp, if_pos h, h.le, le_rfl⟩
  · exact ⟨best, by simp, if_neg h, le_rfl, by omega⟩

lemma foldl_cheaper (cost : Nat → Nat) (counts : List Nat) (start : Nat) :
    ∃ n ∈ start :: counts,
      counts.foldl (cheaper cost) (start, cost start) = (n, cost n) ∧
        ∀ m ∈ start :: counts, cost n ≤ cost m := by
  induction counts generalizing start with
  | nil => exact ⟨start, List.mem_cons_self, rfl, by simp⟩
  | cons count counts ih =>
    obtain ⟨c, hc, hstep, hbest, hcount⟩ := exists_cheaper cost start count
    obtain ⟨n, hn, heq, hle⟩ := ih c
    have hc' := hle c List.mem_cons_self
    rw [List.foldl_cons, hstep]
    refine ⟨n, ?_, heq, fun m hm => ?_⟩
    · have hsubset : c :: counts ⊆ start :: count :: counts :=
        List.cons_subset.mpr ⟨List.mem_append_left counts hc, by simp⟩
      exact hsubset hn
    · rw [List.mem_cons, List.mem_cons] at hm
      rcases hm with rfl | rfl | hm
      · exact hc'.trans hbest
      · exact hc'.trans hcount
      · exact hle m (List.mem_cons_of_mem c hm)

/-- The bucket counts that are priced for `k` keys. -/
def InWindow (k n : Nat) : Prop := lowerBound k ≤ n ∧ n ≤ max (upperBound k) 1

/-- No bucket count of the window makes a cheaper spread. -/
lemma exists_cheapest (keys : List Nat) (pieces : Nat) :
    ∃ n, InWindow keys.length n ∧ cheapest keys pieces = (n, hashed keys pieces n) ∧
      ∀ m, InWindow keys.length m → hashed keys pieces n ≤ hashed keys pieces m := by
  have hwindow : ∀ m, m ∈ lowerBound keys.length :: List.range' (lowerBound keys.length + 1)
      (max (upperBound keys.length) 1 - lowerBound keys.length) ↔ InWindow keys.length m := by
    intro m
    have hbounds := lowerBound_le_upperBound keys.length
    rw [List.mem_cons, List.mem_range'_1, InWindow]
    omega
  obtain ⟨n, hn, hcheapest, hle⟩ := foldl_cheaper (hashed keys pieces)
    (List.range' (lowerBound keys.length + 1)
      (max (upperBound keys.length) 1 - lowerBound keys.length)) (lowerBound keys.length)
  exact ⟨n, (hwindow n).mp hn, hcheapest, fun m hm => hle m ((hwindow m).mpr hm)⟩

end Cost

namespace Shape

/-- What a strategy costs. -/
def cost (s : Shape) : Strategy → Nat
  | .ranged => Cost.ranged s.single s.double s.triple
  | .hashed n => Cost.hashed s.keys s.pieceCount n
  | .optimal n => Cost.optimal n s.pieceCount

/-- The strategies to choose from: the ranges, slots that keep the keys apart, and from 0.7 to 2.6
times as many buckets as keys. -/
inductive Candidate (s : Shape) : Strategy → Prop
  | ranged : Candidate s .ranged
  | optimal {n : Nat} (h : n ∈ Cost.spreads s.keys) : Candidate s (.optimal n)
  | hashed {n : Nat} (lo : ⌈(0.7 : ℚ) * s.keys.length⌉₊ ≤ n)
      (hi : n ≤ ⌈(2.6 : ℚ) * s.keys.length⌉₊) : Candidate s (.hashed n)

/-- Buckets in which keys meet, where slots are found that keep them apart, but so many of them
that the buckets may cost less. -/
inductive Unpriced (s : Shape) : Strategy → Prop
  | hashed {m n : Nat} (clash : ¬s.keys.Pairwise fun key key' => key % m ≠ key' % m)
      (least : IsLeast (Cost.spreads s.keys) n)
      (fewer : 2 * m + 3 * s.keys.length + 42 < 3 * n) : Unpriced s (.hashed m)

/-- The spread that is compared with the ranges. -/
def spread (s : Shape) : Strategy :=
  match Cost.optimalCount? s.keys with
  | some n => .optimal n
  | none => .hashed (Cost.cheapest s.keys s.pieceCount).1

variable {s : Shape} {n : Nat} {σ : Strategy}

lemma spread_of_isLeast (h : IsLeast (Cost.spreads s.keys) n) : s.spread = .optimal n := by
  rw [spread, Cost.optimalCount?_eq_some_iff.mpr h]

/-- Where no slots keep the keys apart the spread is the cheapest one. -/
lemma exists_spread_of_empty (h : ¬(Cost.spreads s.keys).Nonempty) :
    ∃ n, Cost.InWindow s.keys.length n ∧ s.spread = .hashed n ∧
      ∀ m, Cost.InWindow s.keys.length m → s.cost (.hashed n) ≤ s.cost (.hashed m) := by
  have hnone : Cost.optimalCount? s.keys = none := by
    refine Option.eq_none_iff_forall_ne_some.mpr fun n hn => h ⟨n, ?_⟩
    exact (Cost.optimalCount?_eq_some_iff.mp hn).1
  obtain ⟨n, hn, hcheapest, hle⟩ := Cost.exists_cheapest s.keys s.pieceCount
  exact ⟨n, hn, by rw [spread, hnone, hcheapest], hle⟩

lemma candidate_hashed_iff (hkeys : 0 < s.keys.length) :
    s.Candidate (.hashed n) ↔ Cost.InWindow s.keys.length n := by
  have hlo := Cost.lowerBound_eq s.keys.length
  have hhi := Cost.upperBound_eq s.keys.length
  have hpos : 0 < ⌈(0.7 : ℚ) * s.keys.length⌉₊ := by
    rw [Nat.ceil_pos]
    positivity
  have hmost : 1 ≤ Cost.upperBound s.keys.length := by
    unfold Cost.upperBound
    omega
  unfold Cost.InWindow
  constructor
  · rintro (_ | _ | ⟨hlo', hhi'⟩)
    omega
  · rintro ⟨hlo', hhi'⟩
    exact .hashed (by omega) (by omega)

/-- The spread is one of the strategies to choose from. -/
lemma candidate_spread (hkeys : 0 < s.keys.length) : s.Candidate s.spread := by
  by_cases h : (Cost.spreads s.keys).Nonempty
  · rw [spread_of_isLeast (isLeast_csInf h)]
    exact .optimal (csInf_mem h)
  · obtain ⟨n, hn, hspread, -⟩ := exists_spread_of_empty h
    rw [hspread, candidate_hashed_iff hkeys]
    exact hn

/-- Slots cost less than buckets in which no keys meet, and less than buckets in which some do
unless these are far fewer. -/
lemma cost_optimal_le (hkeys : 0 < s.keys.length) (hn : IsLeast (Cost.spreads s.keys) n) {m : Nat}
    (hm : Cost.InWindow s.keys.length m) :
    s.cost (.optimal n) ≤ s.cost (.hashed m) ∨ s.Unpriced (.hashed m) := by
  have hpos : 0 < m := by
    have := hm.1
    rw [Cost.lowerBound] at this
    omega
  have hmost := hm.2
  simp only [Cost.upperBound] at hmost
  have hcost : s.cost (.optimal n) = 76 + 6 * n + 2 * s.pieceCount := by
    simp only [cost, Cost.optimal, Cost.arrayBytes, Cost.referenceBytes]
    omega
  by_cases hclash : s.keys.Pairwise fun key key' => key % m ≠ key' % m
  · -- without a clash these buckets are slots that the search has tried
    left
    have hlength := Cost.length_le_of_pairwise hpos hclash
    have hslots : m ∈ Cost.spreads s.keys := by
      refine ⟨?_, hclash⟩
      rw [if_neg (by omega), ← Cost.upperBound_eq, Cost.upperBound]
      omega
    have hleast := hn.2 hslots
    have hle : 128 + 4 * m + 6 * s.keys.length + 2 * s.pieceCount ≤
        Cost.hashed s.keys s.pieceCount m := Cost.le_hashed
    rw [hcost, cost]
    omega
  · by_cases hfewer : 2 * m + 3 * s.keys.length + 42 < 3 * n
    · exact .inr (.hashed hclash hn hfewer)
    · left
      have hle : 160 + 4 * m + 6 * s.keys.length + 2 * s.pieceCount ≤
          Cost.hashed s.keys s.pieceCount m := Cost.le_hashed_of_clash hpos hclash
      rw [hcost, cost]
      omega

/-- The spread costs the least, apart from the ranges and from what is not priced. -/
lemma cost_spread_le (hkeys : 0 < s.keys.length) (hσ : s.Candidate σ) :
    s.cost s.spread ≤ s.cost σ ∨ σ = .ranged ∨ s.Unpriced σ := by
  by_cases h : (Cost.spreads s.keys).Nonempty
  · have hleast := isLeast_csInf h
    rw [spread_of_isLeast hleast]
    cases hσ with
    | ranged => exact .inr (.inl rfl)
    | @optimal m hm =>
      left
      have hle := hleast.2 hm
      simp only [cost, Cost.optimal]
      omega
    | hashed lo hi =>
      have hwindow := (candidate_hashed_iff hkeys).mp (.hashed lo hi)
      exact (cost_optimal_le hkeys hleast hwindow).imp_right .inr
  · obtain ⟨n, -, hspread, hle⟩ := exists_spread_of_empty h
    rw [hspread]
    cases hσ with
    | ranged => exact .inr (.inl rfl)
    | optimal hm => exact absurd ⟨_, hm⟩ h
    | hashed lo hi => exact .inl (hle _ ((candidate_hashed_iff hkeys).mp (.hashed lo hi)))

/-- Enough blocks and spans are spread if the spread costs less than the ranges. -/
lemma strategy_choose (hkeys : Cost.fewBlocks < s.keys.length)
    (hspans : Cost.fewSpans < s.spanCount) :
    s.choose.strategy = if s.cost s.spread < s.cost .ranged then s.spread else .ranged := by
  have hlarge : ¬(s.keys.length ≤ Cost.fewBlocks ∨ s.spanCount ≤ Cost.fewSpans) := by omega
  rw [choose, if_neg hlarge, spread]
  rcases Cost.optimalCount? s.keys with _ | n
  · obtain ⟨n, -, hcheapest, -⟩ := Cost.exists_cheapest s.keys s.pieceCount
    simp only [hcheapest, cost]
  · rfl

/-- The choice is the cheapest of the strategies, apart from what is not priced. -/
lemma cost_choose_le (hkeys : Cost.fewBlocks < s.keys.length)
    (hspans : Cost.fewSpans < s.spanCount) :
    s.Candidate s.choose.strategy ∧
      ∀ σ, s.Candidate σ → s.cost s.choose.strategy ≤ s.cost σ ∨ s.Unpriced σ := by
  have hpos : 0 < s.keys.length := by omega
  rw [strategy_choose hkeys hspans]
  by_cases hcheaper : s.cost s.spread < s.cost .ranged
  · rw [if_pos hcheaper]
    refine ⟨candidate_spread hpos, fun σ hσ => ?_⟩
    rcases cost_spread_le hpos hσ with hle | rfl | hunpriced
    · exact .inl hle
    · exact .inl hcheaper.le
    · exact .inr hunpriced
  · rw [if_neg hcheaper]
    refine ⟨.ranged, fun σ hσ => ?_⟩
    rcases cost_spread_le hpos hσ with hle | rfl | hunpriced
    · exact .inl (by omega)
    · exact .inl le_rfl
    · exact .inr hunpriced

end Shape

/-! ### Sets -/

variable {s : CodeSet}

/-- The choice never spreads over no buckets. -/
lemma Shape.pos_of_choose {s : Shape} {n : Nat} (h : s.choose.strategy = .hashed n) : 0 < n := by
  by_cases hlarge : Cost.fewBlocks < s.keys.length ∧ Cost.fewSpans < s.spanCount
  · have hcandidate := (cost_choose_le hlarge.1 hlarge.2).1
    rw [h, candidate_hashed_iff (by omega), Cost.InWindow, Cost.lowerBound] at hcandidate
    omega
  · rw [choose, if_pos (by omega)] at h
    cases h

/-- A set is stored as its shape asks for. -/
lemma strategy_optimised (s : CodeSet) : s.optimised.layout.strategy = s.shape.choose.strategy := by
  rcases hchoose : s.shape.choose.strategy with _ | n | n
  · rw [optimised, hchoose]
    rfl
  · have hsize : (fill Block.key (max n 1) s.blocks).size = n := by
      rw [size_fill, Nat.max_eq_left (Shape.pos_of_choose hchoose)]
    rw [optimised, hchoose]
    exact congrArg Strategy.hashed hsize
  · obtain ⟨slots, -, heq, hsize⟩ := optimised_of_optimal hchoose
    rw [heq]
    exact congrArg Strategy.optimal hsize

/-- **The cheapest layout.** A set of more than two blocks and 32 spans is stored in one of the
layouts to choose from, and none of them costs less. What may cost less is a number of buckets in
which keys meet, where more slots than that keep them apart. -/
theorem cost_optimised_le (hblocks : 2 < s.blocks.length) (hspans : 32 < s.spans.length) :
    s.shape.Candidate s.optimised.layout.strategy ∧
      ∀ σ, s.shape.Candidate σ →
        s.shape.cost s.optimised.layout.strategy ≤ s.shape.cost σ ∨ s.shape.Unpriced σ := by
  rw [strategy_optimised]
  refine Shape.cost_choose_le ?_ hspans
  rw [shape, List.length_map]
  exact hblocks

/-- Thirteen stretches side by side from U+10000, and two apart from them. -/
def scatteredKeys : List Nat := List.range' 0x100 13 ++ [0x11B, 0x126]

/-- Three code points of each of these stretches. -/
def scatteredPoints : List Nat :=
  scatteredKeys.flatMap fun key => [key * 256, key * 256 + 2, key * 256 + 4]

def scattered : CodeSet :=
  ⟨.ranged ⟨#[], #[], (scatteredPoints.map fun cp => ⟨cp, cp, Nat.le_refl cp⟩).toArray⟩, 0#64, 45⟩

lemma built_scattered : Built scattered := by
  refine .buildRanged (scatteredPoints.map fun cp => .including (.codePoint cp)) ?_ rfl
  intro call hcall t ht
  obtain ⟨cp, -, rfl⟩ := List.mem_map.mp hcall
  cases ht

lemma large_scattered : 2 < scattered.blocks.length ∧ 32 < scattered.spans.length := by
  decide +kernel

lemma keys_scattered : scattered.shape.keys = scatteredKeys := by decide +kernel

lemma strategy_scattered : scattered.optimised.layout.strategy = .optimal 39 := by
  rw [strategy_optimised]
  decide +kernel

theorem cost_optimised_le_scattered :
    2 < scattered.blocks.length ∧ 32 < scattered.spans.length ∧
      scattered.optimised.layout.strategy = .optimal 39 ∧ scattered.shape.Candidate .ranged ∧
      scattered.shape.cost scattered.optimised.layout.strategy ≤ scattered.shape.cost .ranged := by
  obtain ⟨hblocks, hspans⟩ := large_scattered
  refine ⟨hblocks, hspans, strategy_scattered, .ranged, ?_⟩
  rcases (cost_optimised_le hblocks hspans).2 .ranged .ranged with hle | hunpriced
  · exact hle
  · cases hunpriced

/-- Fourteen buckets, one of them shared, cost less than the 39 slots that keep the keys apart. -/
theorem not_cheapest_scattered :
    Built scattered ∧ 2 < scattered.blocks.length ∧ 32 < scattered.spans.length ∧
      scattered.shape.Candidate (.hashed 14) ∧
      scattered.shape.cost (.hashed 14) <
        scattered.shape.cost scattered.optimised.layout.strategy := by
  obtain ⟨hblocks, hspans⟩ := large_scattered
  refine ⟨built_scattered, hblocks, hspans, ?_, ?_⟩
  · have hlength : scattered.shape.keys.length = 15 := by rw [keys_scattered]; rfl
    rw [Shape.candidate_hashed_iff (by omega), hlength, Cost.InWindow]
    decide
  · rw [strategy_scattered]
    decide +kernel

end TextTypes.CodeSet
