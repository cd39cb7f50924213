import TextTypes.IntMap.Sequences
import TextTypes.Proofs.IntMap.Frozen

/-!
Maps to sequences are finite maps.

The index never points past the store, so an insertion is seen at its own key and at no other,
and the repacking of a freeze carries every sequence in use to its new place.
-/

namespace TextTypes.SequenceMap

variable {α : Type}

/-- Whatever a map finds lies in its store. -/
lemma mem_store_of_get? {m : SequenceMap α} {key : Int32} {sequence : List α}
    (h : m.get? key = some sequence) : sequence ∈ m.store.toList := by
  obtain ⟨place, -, hplace⟩ := Option.bind_eq_some_iff.mp h
  exact Array.mem_toList_iff.mpr (Array.mem_of_getElem? hplace)

namespace Builder

/-- What every sequence of insertions keeps. -/
structure WellFormed (b : Builder α) : Prop where
  index : b.index.WellFormed
  stored : ∀ e ∈ b.index.entries, e.2 < b.store.size

lemma wellFormed_of_bucketCount (n : Nat) :
    ({ index := .withBucketCount n } : Builder α).WellFormed where
  index := IntMap.Builder.wellFormed_withBucketCount n
  stored e he := by simp [IntMap.Builder.entries, IntMap.Builder.withBucketCount] at he

lemma wellFormed_empty : ({} : Builder α).WellFormed := wellFormed_of_bucketCount 11

lemma get?_of_bucketCount (n : Nat) (key : Int32) :
    ({ index := .withBucketCount n } : Builder α).get? key = none := by
  unfold get?
  rw [IntMap.Builder.get?_withBucketCount]
  rfl

lemma get?_empty (key : Int32) : ({} : Builder α).get? key = none := get?_of_bucketCount 11 key

variable {b : Builder α}

lemma get?_index_lt (hb : b.WellFormed) {key : Int32} {place : Nat}
    (h : b.index.get? key = some place) : place < b.store.size :=
  hb.stored _ ((IntMap.Builder.get?_eq_some_iff hb.index).mp h)

/-- **An insertion is seen at its own key and at no other.** -/
theorem get?_insert (hb : b.WellFormed) (key : Int32) (sequence : List α) (key' : Int32) :
    (b.insert key sequence).get? key' = if key' = key then some sequence else b.get? key' := by
  show ((b.index.insert key b.store.size).get? key').bind ((b.store.push sequence)[·]?) = _
  rw [IntMap.Builder.get?_insert hb.index]
  by_cases h : key' = key
  · rw [if_pos h, if_pos h, Option.bind_some, Array.getElem?_push_size]
  · rw [if_neg h, if_neg h]
    show _ = (b.index.get? key').bind (b.store[·]?)
    rcases hg : b.index.get? key' with _ | place
    · rfl
    · have hlt := get?_index_lt hb hg
      rw [Option.bind_some, Option.bind_some, Array.getElem?_push, if_neg (by omega)]

theorem WellFormed.insert (hb : b.WellFormed) (key : Int32) (sequence : List α) :
    (b.insert key sequence).WellFormed where
  index := hb.index.insert key b.store.size
  stored := by
    rintro ⟨k, place⟩ he
    show place < (b.store.push sequence).size
    rw [Array.size_push]
    replace he := (IntMap.Builder.get?_eq_some_iff (hb.index.insert key b.store.size)).mpr he
    rw [IntMap.Builder.get?_insert hb.index] at he
    by_cases h : k = key
    · rw [if_pos h] at he
      cases he
      omega
    · rw [if_neg h] at he
      have := get?_index_lt hb he
      omega

lemma map_fst_entries : b.entries.map Prod.fst = b.index.entries.map Prod.fst := by
  unfold entries
  rw [List.map_map]
  rfl

lemma nodup_entries (hb : b.WellFormed) : (b.entries.map Prod.fst).Nodup := by
  rw [map_fst_entries]
  exact hb.index.nodup

/-- The entries list exactly what the keys map to. -/
lemma get?_eq_some_iff (hb : b.WellFormed) {key : Int32} {sequence : List α} :
    b.get? key = some sequence ↔ (key, sequence) ∈ b.entries := by
  unfold get? entries
  rw [List.mem_map]
  constructor
  · intro h
    obtain ⟨place, hplace, hs⟩ := Option.bind_eq_some_iff.mp h
    refine ⟨(key, place), (IntMap.Builder.get?_eq_some_iff hb.index).mp hplace, ?_⟩
    show (key, b.store[place]?.getD []) = _
    rw [hs, Option.getD_some]
  · rintro ⟨⟨k, place⟩, hmem, heq⟩
    obtain ⟨rfl, rfl⟩ := Prod.mk.inj heq
    have hplace := (IntMap.Builder.get?_eq_some_iff hb.index).mpr hmem
    have hlt : place < b.store.size := hb.stored _ hmem
    simp [hplace, hlt]

/-! ### Freezing -/

lemma foldl_insert (entries : List (Int32 × List α)) (hb : b.WellFormed)
    (h : (entries.map Prod.fst).Nodup) :
    (entries.foldl (fun b (key, sequence) => b.insert key sequence) b).WellFormed ∧
      ∀ key, (entries.foldl (fun b (key, sequence) => b.insert key sequence) b).get? key =
        (IntMap.Bucket.get? entries key).or (b.get? key) := by
  induction entries generalizing b with
  | nil => exact ⟨hb, fun key => rfl⟩
  | cons e entries ih =>
    rw [List.map_cons, List.nodup_cons] at h
    obtain ⟨hwf, hget⟩ := ih (hb.insert e.1 e.2) h.2
    refine ⟨hwf, fun key => (hget key).trans ?_⟩
    rw [get?_insert hb, IntMap.Bucket.get?_cons]
    by_cases hkey : e.1 = key
    · -- the key comes only once
      have hnone : IntMap.Bucket.get? entries key = none := by
        rw [IntMap.Bucket.get?_eq_none_iff, ← hkey]
        exact h.1
      simp [hkey, hnone]
    · rw [if_neg hkey, if_neg (Ne.symm hkey)]

lemma wellFormed_repack (hb : b.WellFormed) : b.repack.WellFormed :=
  (foldl_insert b.entries (wellFormed_of_bucketCount _) (nodup_entries hb)).1

lemma get?_repack (hb : b.WellFormed) (key : Int32) : b.repack.get? key = b.get? key := by
  refine ((foldl_insert b.entries (wellFormed_of_bucketCount _) (nodup_entries hb)).2 key).trans ?_
  rw [get?_of_bucketCount, Option.or_none]
  ext sequence
  rw [IntMap.Bucket.get?_eq_some_iff (nodup_entries hb), get?_eq_some_iff hb]

/-- **Freezing keeps what a map maps.** -/
theorem get?_freeze (hb : b.WellFormed) (key : Int32) : b.freeze.get? key = b.get? key := by
  show (b.repack.index.freeze.get? key).bind (b.repack.store[·]?) = _
  rw [IntMap.get?_freeze (wellFormed_repack hb).index]
  exact get?_repack hb key

lemma get?_of_isEmpty_freeze (hb : b.WellFormed) (h : b.freeze.isEmpty = true) (key : Int32) :
    b.get? key = none := by
  have hsize : b.repack.index.size = 0 := eq_of_beq h
  have hindex := (wellFormed_repack hb).index
  have hnil : b.repack.index.entries = [] := by
    rw [← List.length_eq_zero_iff, ← hindex.size_eq, hsize]
  rw [← get?_repack hb]
  unfold get?
  rw [IntMap.Builder.get?_eq hindex, hnil]
  rfl

end Builder

end TextTypes.SequenceMap
