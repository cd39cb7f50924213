import Mathlib.Order.Lattice.Nat
import TextTypes.Proofs.IntMap.Histories

/-!
Which maps are frozen to slots.

A map is a row of slots exactly if the key of a free slot is not among its keys and some number of
slots within reach gives every key its own, and then it has as few slots as that. The row depends
on what is mapped and on nothing else: not on the order of the insertions, not on values that were
replaced, not on the buckets of the builder.
-/

namespace TextTypes.IntMap

open TextTypes.Buckets

/-- The numbers of slots, up to four for each key, at which the keys without their sign bits have
different remainders. -/
def slotCounts (keys : Finset Int32) : Set Nat :=
  {n | (max keys.card 1 ≤ n ∧ n ≤ max (4 * keys.card) 1) ∧
    Set.InjOn (fun key => keyBits key % n) (keys : Set Int32)}

lemma slotCounts_toFinset {keys : List Int32} (h : keys.Nodup) :
    slotCounts keys.toFinset =
      freeCounts (keys.map keyBits) (max keys.length 1) (max (keys.length * 4) 1) := by
  ext n
  have hinj : Set.InjOn (fun key => keyBits key % n) (keys.toFinset : Set Int32) ↔
      ((keys.map keyBits).map (· % n)).Nodup := by
    rw [List.map_map, List.nodup_map_iff_inj_on h]
    simp only [Set.InjOn, SetLike.mem_coe, List.mem_toFinset]
    rfl
  rw [slotCounts, freeCounts, Set.mem_ofPred_eq, Set.mem_ofPred_eq, hinj,
    List.toFinset_card_of_nodup h, Nat.mul_comm]

variable {α : Type} {b b' : Builder α}

namespace Builder

/-- Builders that answer alike hold the same entries. -/
lemma entries_perm (hb : b.WellFormed) (hb' : b'.WellFormed)
    (h : ∀ key, b.get? key = b'.get? key) : b.entries.Perm b'.entries := by
  refine (List.perm_ext_iff_of_nodup hb.nodup.of_map hb'.nodup.of_map).mpr fun e => ?_
  rw [← get?_eq_some_iff hb, ← get?_eq_some_iff hb', h]

/-- The number of slots depends on the set of keys. -/
lemma slotCount?_keys_eq_some_iff (hb : b.WellFormed) {keys : Finset Int32}
    (hkeys : (b.entries.map Prod.fst).toFinset = keys) {n : Nat} :
    slotCount? (b.entries.map Prod.fst) = some n ↔ freeKey ∉ keys ∧ IsLeast (slotCounts keys) n := by
  rw [slotCount?_eq_some_iff, ← slotCounts_toFinset hb.nodup, hkeys, ← List.mem_toFinset, hkeys]

variable [Inhabited α]

/-- Entries that have places of their own are placed in any order. -/
lemma placeAll_perm {n : Nat} {entries entries' : List (Int32 × α)}
    (h : entries.Perm entries') (hslots : (entries.map (slotOf ·.1 n)).Nodup) :
    placeAll entries n = placeAll entries' n := by
  refine h.foldl_eq' (fun e he e' he' slots => ?_) _
  by_cases heq : e = e'
  · rw [heq]
  · have hne : slotOf e.1 n ≠ slotOf e'.1 n := fun hslot =>
      heq (List.inj_on_of_nodup_map hslots he he' hslot)
    exact Array.setIfInBounds_comm e e' hne

lemma isOptimal_freeze : b.freeze.isOptimal = (slotCount? (b.entries.map Prod.fst)).isSome := by
  rcases h : slotCount? (b.entries.map Prod.fst) with _ | n
  · rw [freeze_of_buckets h]
    rfl
  · rw [freeze_of_slots h]
    rfl

/-- A builder is frozen to slots exactly if there is a number of slots for its keys. -/
lemma isOptimal_freeze_iff (hb : b.WellFormed) {keys : Finset Int32}
    (hkeys : (b.entries.map Prod.fst).toFinset = keys) :
    b.freeze.isOptimal = true ↔ freeKey ∉ keys ∧ (slotCounts keys).Nonempty := by
  rw [isOptimal_freeze, Option.isSome_iff_exists]
  simp only [slotCount?_keys_eq_some_iff hb hkeys]
  constructor
  · rintro ⟨n, hfree, hleast⟩
    exact ⟨hfree, n, hleast.1⟩
  · rintro ⟨hfree, hcounts⟩
    exact ⟨_, hfree, isLeast_csInf hcounts⟩

lemma isLeast_bucketCount_freeze (hb : b.WellFormed) {keys : Finset Int32}
    (hkeys : (b.entries.map Prod.fst).toFinset = keys) (hoptimal : b.freeze.isOptimal = true) :
    IsLeast (slotCounts keys) b.freeze.bucketCount := by
  rw [isOptimal_freeze] at hoptimal
  obtain ⟨n, hn⟩ := Option.isSome_iff_exists.mp hoptimal
  have hcount : b.freeze.bucketCount = n := by
    rw [freeze_of_slots hn]
    exact size_placeAll
  rw [hcount]
  exact ((slotCount?_keys_eq_some_iff hb hkeys).mp hn).2

/-- Builders that answer alike are frozen to the same slots. -/
lemma freeze_eq_of_isOptimal (hb : b.WellFormed) (hb' : b'.WellFormed)
    (h : ∀ key, b.get? key = b'.get? key) (hoptimal : b.freeze.isOptimal = true) :
    b.freeze = b'.freeze := by
  have hperm := entries_perm hb hb' h
  have hkeys : (b'.entries.map Prod.fst).toFinset = (b.entries.map Prod.fst).toFinset :=
    List.toFinset_eq_of_perm _ _ (hperm.symm.map Prod.fst)
  rw [isOptimal_freeze] at hoptimal
  obtain ⟨n, hn⟩ := Option.isSome_iff_exists.mp hoptimal
  have hn' : slotCount? (b'.entries.map Prod.fst) = some n :=
    (slotCount?_keys_eq_some_iff hb' hkeys).mpr ((slotCount?_keys_eq_some_iff hb rfl).mp hn)
  obtain ⟨-, -, hslots⟩ := slotCount?_eq_some hn
  rw [List.map_map] at hslots
  rw [freeze_of_slots hn, freeze_of_slots hn', placeAll_perm hperm hslots, hb.size_eq,
    hb'.size_eq, hperm.length_eq]

end Builder

/-- **A frozen map depends on what it maps.** Insertions that leave the same finite map, whatever
their order and the buckets they start from, are frozen to slots together or not at all. The slots
are the same then, and so are their number, the order of the entries and the literals. There are
slots exactly if the key of a free slot is not used and some number within reach keeps the keys
apart; the least such number is taken. -/
theorem freeze_of_finmapOf_eq {n n' : Nat} {entries entries' : List (Int32 × Int32)}
    (h : finmapOf entries = finmapOf entries') :
    let m := (Builder.ofEntries n entries).freeze
    let m' := (Builder.ofEntries n' entries').freeze
    let keys := (finmapOf entries).keys
    m.isOptimal = m'.isOptimal ∧
      (m.isOptimal = true → m.bucketCount = m'.bucketCount ∧ m.entries = m'.entries ∧
        ∀ label, m.literals label = m'.literals label) ∧
      (m.isOptimal = true ↔ freeKey ∉ keys ∧ (slotCounts keys).Nonempty) ∧
      (m.isOptimal = true → IsLeast (slotCounts keys) m.bucketCount) := by
  intro m m' keys
  have hwf := Builder.wellFormed_ofEntries n entries
  have hwf' := Builder.wellFormed_ofEntries n' entries'
  have hkeys := Builder.toFinset_keys_ofEntries n entries
  have hkeys' : ((Builder.ofEntries n' entries').entries.map Prod.fst).toFinset = keys :=
    (Builder.toFinset_keys_ofEntries n' entries').trans (congrArg Finmap.keys h.symm)
  have hget : ∀ key, (Builder.ofEntries n entries).get? key =
      (Builder.ofEntries n' entries').get? key := fun key => by
    rw [Builder.get?_ofEntries, Builder.get?_ofEntries, h]
  have hiff := Builder.isOptimal_freeze_iff hwf hkeys
  refine ⟨?_, fun hoptimal => ?_, hiff, Builder.isLeast_bucketCount_freeze hwf hkeys⟩
  · rw [Bool.eq_iff_iff, hiff, Builder.isOptimal_freeze_iff hwf' hkeys']
  · have heq : m = m' := Builder.freeze_eq_of_isOptimal hwf hwf' hget hoptimal
    rw [heq]
    exact ⟨rfl, rfl, fun _ => rfl⟩

/-- Two keys meet in two slots and have three for themselves; one of their values was replaced. -/
theorem freeze_of_finmapOf_eq_replaced :
    let m := (Builder.ofEntries 0 [(1, 10), (9, 20), (1, 11)]).freeze
    let m' := (Builder.ofEntries 50 [(9, 20), (1, 11)]).freeze
    finmapOf [((1 : Int32), (10 : Int32)), (9, 20), (1, 11)] = finmapOf [(9, 20), (1, 11)] ∧
      m.isOptimal = true ∧ m.bucketCount = 3 ∧ m'.bucketCount = 3 ∧ m.entries = m'.entries ∧
      ∀ label, m.literals label = m'.literals label := by
  intro m m'
  have h : finmapOf [((1 : Int32), (10 : Int32)), (9, 20), (1, 11)] =
      finmapOf [(9, 20), (1, 11)] := by decide
  have hoptimal : m.isOptimal = true := by decide +kernel
  have hcount : m.bucketCount = 3 := by decide +kernel
  obtain ⟨-, hsame, -, -⟩ := @freeze_of_finmapOf_eq 0 50 _ _ h
  obtain ⟨hcount', hentries, hliterals⟩ := hsame hoptimal
  exact ⟨h, hoptimal, hcount, hcount'.symm.trans hcount, hentries, hliterals⟩

end TextTypes.IntMap
