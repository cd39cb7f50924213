import Mathlib.Data.Finmap
import TextTypes.Proofs.IntMap.Sequences

/-!
Maps from sequences of insertions.

Whatever was inserted, in whatever order and into however many buckets at first, a builder and
the map that is frozen from it answer as the finite map in which a later entry replaces an
earlier one with the same key. The keys of that map are counted by the size.
-/

namespace TextTypes.IntMap

variable {α : Type}

/-- The finite map of a list of entries, of which a later one replaces an earlier one. -/
def finmapOf (entries : List (Int32 × α)) : Finmap fun _ : Int32 => α :=
  entries.foldl (fun m e => m.insert e.1 e.2) ∅

lemma lookup_finmapOf_nil (key : Int32) :
    (finmapOf ([] : List (Int32 × α))).lookup key = none := Finmap.lookup_empty key

lemma finmapOf_concat (entries : List (Int32 × α)) (e : Int32 × α) :
    finmapOf (entries ++ [e]) = (finmapOf entries).insert e.1 e.2 := by
  simp [finmapOf]

lemma lookup_finmapOf_concat (entries : List (Int32 × α)) (e : Int32 × α) (key : Int32) :
    (finmapOf (entries ++ [e])).lookup key =
      if key = e.1 then some e.2 else (finmapOf entries).lookup key := by
  rw [finmapOf_concat]
  by_cases h : key = e.1
  · subst h
    rw [Finmap.lookup_insert, if_pos rfl]
  · rw [Finmap.lookup_insert_of_ne _ h, if_neg h]

namespace Builder

/-- The builder after a sequence of insertions, with `n` buckets at first. -/
def ofEntries (n : Nat) (entries : List (Int32 × α)) : Builder α :=
  entries.foldl (fun b e => b.insert e.1 e.2) (withBucketCount n)

lemma ofEntries_concat (n : Nat) (entries : List (Int32 × α)) (e : Int32 × α) :
    ofEntries n (entries ++ [e]) = (ofEntries n entries).insert e.1 e.2 := by
  simp [ofEntries]

lemma wellFormed_ofEntries (n : Nat) (entries : List (Int32 × α)) :
    (ofEntries n entries).WellFormed := by
  induction entries using List.reverseRecOn with
  | nil => exact wellFormed_withBucketCount n
  | append_singleton entries e ih =>
    rw [ofEntries_concat]
    exact ih.insert e.1 e.2

lemma get?_ofEntries (n : Nat) (entries : List (Int32 × α)) (key : Int32) :
    (ofEntries n entries).get? key = (finmapOf entries).lookup key := by
  induction entries using List.reverseRecOn with
  | nil => exact (get?_withBucketCount n key).trans (lookup_finmapOf_nil key).symm
  | append_singleton entries e ih =>
    rw [ofEntries_concat, get?_insert (wellFormed_ofEntries n entries), ih,
      lookup_finmapOf_concat]

lemma isSome_get?_ofEntries (n : Nat) (entries : List (Int32 × α)) (key : Int32) :
    ((ofEntries n entries).get? key).isSome ↔ key ∈ (finmapOf entries).keys := by
  rw [get?_ofEntries, Finmap.lookup_isSome, Finmap.mem_keys]

/-- The keys of the entries are the keys that have a value. -/
lemma toFinset_keys {b : Builder α} (hb : b.WellFormed) {keys : Finset Int32}
    (h : ∀ key, (b.get? key).isSome ↔ key ∈ keys) : (b.entries.map Prod.fst).toFinset = keys := by
  ext key
  rw [List.mem_toFinset, ← h, get?_eq hb, ← not_iff_not, Option.not_isSome_iff_eq_none,
    Bucket.get?_eq_none_iff]

/-- The size counts the keys that have a value. -/
lemma size_eq_card {b : Builder α} (hb : b.WellFormed) {keys : Finset Int32}
    (h : ∀ key, (b.get? key).isSome ↔ key ∈ keys) : b.size = keys.card := by
  rw [hb.size_eq, ← toFinset_keys hb h, List.toFinset_card_of_nodup hb.nodup, List.length_map]

lemma toFinset_keys_ofEntries (n : Nat) (entries : List (Int32 × α)) :
    ((ofEntries n entries).entries.map Prod.fst).toFinset = (finmapOf entries).keys :=
  toFinset_keys (wellFormed_ofEntries n entries) (isSome_get?_ofEntries n entries)

end Builder

end TextTypes.IntMap

namespace TextTypes.SequenceMap.Builder

open TextTypes.IntMap

variable {α : Type}

/-- The builder after a sequence of insertions. -/
def ofEntries (entries : List (Int32 × List α)) : Builder α :=
  entries.foldl (fun b e => b.insert e.1 e.2) {}

lemma ofEntries_concat (entries : List (Int32 × List α)) (e : Int32 × List α) :
    ofEntries (entries ++ [e]) = (ofEntries entries).insert e.1 e.2 := by
  simp [ofEntries]

lemma wellFormed_ofEntries (entries : List (Int32 × List α)) :
    (ofEntries entries).WellFormed := by
  induction entries using List.reverseRecOn with
  | nil => exact wellFormed_empty
  | append_singleton entries e ih =>
    rw [ofEntries_concat]
    exact ih.insert e.1 e.2

lemma get?_ofEntries (entries : List (Int32 × List α)) (key : Int32) :
    (ofEntries entries).get? key = (finmapOf entries).lookup key := by
  induction entries using List.reverseRecOn with
  | nil => exact (get?_empty key).trans (lookup_finmapOf_nil key).symm
  | append_singleton entries e ih =>
    rw [ofEntries_concat, get?_insert (wellFormed_ofEntries entries), ih,
      lookup_finmapOf_concat]

lemma isSome_get?_ofEntries (entries : List (Int32 × List α)) (key : Int32) :
    ((ofEntries entries).get? key).isSome ↔ key ∈ (finmapOf entries).keys := by
  rw [get?_ofEntries, Finmap.lookup_isSome, Finmap.mem_keys]

/-- Every key of the index has its sequence in the store. -/
lemma isSome_get?_index {b : Builder α} (hb : b.WellFormed) (key : Int32) :
    (b.index.get? key).isSome = (b.get? key).isSome := by
  unfold get?
  rcases h : b.index.get? key with _ | place
  · rfl
  · have hlt : place < b.store.size := get?_index_lt hb h
    simp [hlt]

lemma size_eq_card {b : Builder α} (hb : b.WellFormed) {keys : Finset Int32}
    (h : ∀ key, (b.get? key).isSome ↔ key ∈ keys) : b.size = keys.card :=
  IntMap.Builder.size_eq_card hb.index fun key => by rw [isSome_get?_index hb, h]

end TextTypes.SequenceMap.Builder

namespace TextTypes.IntMap

variable {α β : Type} [Inhabited α]

/-- **Growing and frozen maps are finite maps.** After any insertions into any number of buckets,
the next insertion answers with the value its key has in the finite map of the entries; look-ups
and the size are those of the finite map before and after freezing, whichever layout is chosen. So
it is for maps to sequences. -/
theorem lookups_eq_finmap (n : Nat) (entries : List (Int32 × α))
    (sequences : List (Int32 × List β)) (key : Int32) :
    ((∀ value, (Builder.ofEntries n entries).exchange key value =
          ((finmapOf entries).lookup key, Builder.ofEntries n (entries ++ [(key, value)]))) ∧
        (Builder.ofEntries n entries).get? key = (finmapOf entries).lookup key ∧
        (Builder.ofEntries n entries).size = (finmapOf entries).keys.card ∧
        (Builder.ofEntries n entries).freeze.get? key = (finmapOf entries).lookup key ∧
        ((Builder.ofEntries n entries).freeze.contains key = true ↔ key ∈ finmapOf entries) ∧
        (Builder.ofEntries n entries).freeze.size = (finmapOf entries).keys.card) ∧
      ((SequenceMap.Builder.ofEntries sequences).get? key = (finmapOf sequences).lookup key ∧
        (SequenceMap.Builder.ofEntries sequences).freeze.get? key =
          (finmapOf sequences).lookup key ∧
        (SequenceMap.Builder.ofEntries sequences).freeze.size =
          (finmapOf sequences).keys.card) := by
  have hwf := Builder.wellFormed_ofEntries n entries
  have hget := Builder.get?_ofEntries n entries
  have hsize : (Builder.ofEntries n entries).size = (finmapOf entries).keys.card :=
    Builder.size_eq_card hwf fun key => by rw [hget, Finmap.lookup_isSome, Finmap.mem_keys]
  have hfrozen := get?_freeze hwf key
  have hwf' := SequenceMap.Builder.wellFormed_ofEntries sequences
  have hget' := SequenceMap.Builder.get?_ofEntries sequences
  -- what is frozen is the repacked builder, which answers as the first one does
  have hsize' : (SequenceMap.Builder.ofEntries sequences).repack.size =
      (finmapOf sequences).keys.card :=
    SequenceMap.Builder.size_eq_card (SequenceMap.Builder.wellFormed_repack hwf') fun key => by
      rw [SequenceMap.Builder.get?_repack hwf', hget', Finmap.lookup_isSome, Finmap.mem_keys]
  refine ⟨⟨fun value => ?_, hget key, hsize, ?_, ?_, hsize⟩, hget' key, ?_, hsize'⟩
  · rw [Builder.exchange, hget, Builder.ofEntries_concat]
  · rw [hfrozen, hget]
  · rw [contains, hfrozen, hget, Finmap.lookup_isSome]
  · rw [SequenceMap.Builder.get?_freeze hwf', hget']

end TextTypes.IntMap
