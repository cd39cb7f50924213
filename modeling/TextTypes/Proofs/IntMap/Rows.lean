import TextTypes.Proofs.IntMap.Repacking
import TextTypes.Proofs.Range.Words
import TextTypes.Proofs.Rows

/-!
Maps within 32 bits.

The buckets of a frozen map lie in one array, with a word for the place where each begins. No word
wraps around as long as some 32-bit integer is not a key. The sequences of a map to sequences lie
in one array too, and their numbers and places are checked: the insertions go through exactly if
words hold the number and the length of all sequences that were inserted, whether or not they are
still in use. Filling a map anew never runs out of words.
-/

namespace TextTypes.IntMap

variable {α : Type}

/-- A look-up in buckets that lie in one array, if its bucket is there. -/
def find? (rows : Rows (Int32 × α)) (key : Int32) : Option (Option α) := do
  let bucket ← rows.get? (slotOf key rows.size)
  return Bucket.get? bucket key

namespace Builder

variable {b : Builder α}

/-- **A look-up in the array of the buckets** reads the bucket of its key, unless every 32-bit
integer is a key. -/
theorem find?_freeze [Inhabited α] (hb : b.WellFormed) {missing : Int32}
    (hmissing : b.get? missing = none) {buckets : Array (Bucket α)}
    (hlayout : b.freeze.layout = .bucketed buckets) (key : Int32) :
    find? (.ofLists buckets.toList) key = some (b.freeze.get? key) := by
  obtain rfl : b.buckets = buckets := by
    unfold freeze at hlayout
    split at hlayout <;> cases hlayout
    rfl
  rw [get?_eq hb, Bucket.get?_eq_none_iff] at hmissing
  have hroom : b.buckets.toList.flatten.length < UInt32.size := by
    have hle := length_le_of_nodup (List.nodup_cons.mpr ⟨hmissing, hb.nodup⟩)
    rwa [List.length_cons, List.length_map] at hle
  rw [get?_freeze hb, find?, Rows.size_ofLists, Array.length_toList, Rows.get?_ofLists hroom,
    Array.getElem?_toList]
  show b.buckets[slotOf key b.bucketCount]?.bind _ = _
  rw [getElem?_buckets hb]
  rfl

end Builder

end TextTypes.IntMap

namespace TextTypes.SequenceMap

open TextTypes.IntMap

variable {β : Type}

/-- A growing map to sequences, its index in columns and its sequences in one array. -/
structure Arena (β : Type) where
  index : IntMap.Table Nat
  rows : Rows β := {}

namespace Arena

def withBucketCount (n : Nat) : Arena β := { index := .withBucketCount n }

/-- A sequence is stored before its key is. -/
def insert? (a : Arena β) (key : Int32) (sequence : List β) : Option (Arena β) := do
  let (place, rows) ← a.rows.push? sequence
  let (_, index) ← a.index.exchange? key place.toNat
  return ⟨index, rows⟩

def insertAll? (a : Arena β) (entries : List (Int32 × List β)) : Option (Arena β) :=
  entries.foldlM (fun a e => a.insert? e.1 e.2) a

/-- The keys with the sequences at their places. -/
def entries? (a : Arena β) : Option (List (Int32 × List β)) :=
  a.index.entries.mapM fun e => (a.rows.get? e.2).map (e.1, ·)

/-- Moves the sequences in use to a fresh arena of as many buckets. -/
def repack? (a : Arena β) : Option (Arena β) := do
  let entries ← a.entries?
  (withBucketCount a.index.buckets.size).insertAll? entries

end Arena

namespace Builder

variable {b : Builder β}

def arena (b : Builder β) : Arena β := ⟨b.index.table, .ofLists b.store.toList⟩

lemma arena_of_bucketCount (n : Nat) :
    ({ index := .withBucketCount n } : Builder β).arena = Arena.withBucketCount n := by
  rw [arena, IntMap.Builder.table_withBucketCount]
  rfl

/-- A sequence that does not fit is refused. -/
lemma insert?_arena (hb : b.WellFormed) (key : Int32) (sequence : List β) :
    b.arena.insert? key sequence =
      if Rows.Fits (b.store.toList ++ [sequence]) then some (b.insert key sequence).arena
      else none := by
  rw [Arena.insert?, arena, Rows.push?_ofLists]
  split
  · next hfits =>
    have hplace : (UInt32.ofNat b.store.toList.length).toNat = b.store.size := by
      have hlength := hfits.1
      rw [List.length_append] at hlength
      exact UInt32.toNat_ofNat_of_lt' hlength
    simp only [Option.bind_eq_bind, Option.bind_some, hplace,
      IntMap.Builder.exchange?_table hb.index]
    rw [arena, insert, Array.toList_push]
    rfl
  · rfl

/-- Of a sequence of insertions all go through, or one is refused. -/
lemma insertAll?_arena (hb : b.WellFormed) (hfits : Rows.Fits b.store.toList)
    (entries : List (Int32 × List β)) :
    b.arena.insertAll? entries =
      if Rows.Fits (b.store.toList ++ entries.map Prod.snd) then
        some (entries.foldl (fun b e => b.insert e.1 e.2) b).arena
      else none := by
  induction entries generalizing b with
  | nil =>
    rw [List.map_nil, List.append_nil, if_pos hfits]
    rfl
  | cons e entries ih =>
    have hstore : (b.insert e.1 e.2).store.toList = b.store.toList ++ [e.2] := Array.toList_push
    have hsplit : b.store.toList ++ (e :: entries).map Prod.snd =
        b.store.toList ++ [e.2] ++ entries.map Prod.snd := List.append_cons ..
    rw [Arena.insertAll?, List.foldlM_cons, insert?_arena hb, hsplit]
    by_cases hnext : Rows.Fits (b.store.toList ++ [e.2])
    · rw [if_pos hnext, ← hstore]
      exact ih (hb.insert e.1 e.2) (hstore ▸ hnext)
    · have hrest : ¬Rows.Fits (b.store.toList ++ [e.2] ++ entries.map Prod.snd) := fun h =>
        hnext (h.of_subperm (List.sublist_append_left _ _).subperm)
      rw [if_neg hnext, if_neg hrest]
      rfl

/-- **The insertions go through exactly if all their sequences fit.** -/
theorem insertAll?_withBucketCount (entries : List (Int32 × List β)) :
    (Arena.withBucketCount 11).insertAll? entries =
      if Rows.Fits (entries.map Prod.snd) then some (ofEntries entries).arena else none := by
  rw [← arena_of_bucketCount]
  exact insertAll?_arena wellFormed_empty Rows.fits_nil entries

/-! ### Filling anew -/

/-- Every sequence that was inserted is stored, in order. -/
lemma toList_store (entries : List (Int32 × List β)) :
    (ofEntries entries).store.toList = entries.map Prod.snd := by
  induction entries using List.reverseRecOn with
  | nil => rfl
  | append_singleton entries e ih =>
    rw [ofEntries_concat, insert, Array.toList_push, ih, List.map_append]
    rfl

/-- No two keys share a place. -/
lemma eq_of_get?_index {entries : List (Int32 × List β)} {key key' : Int32} {place : Nat}
    (h : (ofEntries entries).index.get? key = some place)
    (h' : (ofEntries entries).index.get? key' = some place) : key = key' := by
  induction entries using List.reverseRecOn with
  | nil =>
    rw [show (ofEntries ([] : List (Int32 × List β))).index = .withBucketCount 11 from rfl,
      IntMap.Builder.get?_withBucketCount] at h
    cases h
  | append_singleton entries e ih =>
    have hb := wellFormed_ofEntries entries
    -- the place of the last sequence is behind all others
    have hplace : ∀ k, (ofEntries entries).index.get? k ≠ some (ofEntries entries).store.size :=
      fun k hk => Nat.lt_irrefl _ (get?_index_lt hb hk)
    rw [ofEntries_concat, insert, IntMap.Builder.get?_insert hb.index] at h h'
    by_cases hkey : key = e.1 <;> by_cases hkey' : key' = e.1
    · rw [hkey, hkey']
    · rw [if_pos hkey] at h
      rw [if_neg hkey', ← h] at h'
      exact absurd h' (hplace key')
    · rw [if_pos hkey'] at h'
      rw [if_neg hkey, ← h'] at h
      exact absurd h (hplace key)
    · rw [if_neg hkey] at h
      rw [if_neg hkey'] at h'
      exact ih h h'

/-- No place is used twice. -/
lemma nodup_places (entries : List (Int32 × List β)) :
    ((ofEntries entries).index.entries.map Prod.snd).Nodup := by
  have hindex := (wellFormed_ofEntries entries).index
  refine List.Nodup.map_on (fun e he e' he' heq => ?_) hindex.nodup.of_map
  rw [← IntMap.Builder.get?_eq_some_iff hindex] at he he'
  exact Prod.ext (eq_of_get?_index he (heq ▸ he')) heq

/-- A store is read from its first place to its last. -/
lemma map_range_store (store : Store β) :
    (List.range store.size).map (fun place => store[place]?.getD []) = store.toList := by
  refine List.ext_getElem (by simp) fun i hi hi' => ?_
  rw [Array.length_toList] at hi'
  simp [hi']

/-- The sequences in use are some of those that were inserted, each once. -/
lemma subperm_entries (entries : List (Int32 × List β)) :
    ((ofEntries entries).entries.map Prod.snd).Subperm (entries.map Prod.snd) := by
  have hplaces : (ofEntries entries).index.entries.map Prod.snd ⊆
      List.range (ofEntries entries).store.size := fun place hplace => by
    obtain ⟨e, he, rfl⟩ := List.mem_map.mp hplace
    exact List.mem_range.mpr ((wellFormed_ofEntries entries).stored e he)
  obtain ⟨places, hperm, hsub⟩ := (nodup_places entries).subperm hplaces
  have hread := hperm.map fun place => (ofEntries entries).store[place]?.getD []
  rw [List.map_map] at hread
  rw [← toList_store entries, ← map_range_store, SequenceMap.Builder.entries, List.map_map]
  exact ⟨places.map _, hread, hsub.map _⟩

/-- Every place in the index is read back. -/
lemma entries?_arena (hb : b.WellFormed) (hfits : Rows.Fits b.store.toList) :
    b.arena.entries? = some b.entries := by
  rw [Arena.entries?, arena, IntMap.Builder.entries_table]
  refine Range.mapM_eq_some fun e he => ?_
  have hplace := hb.stored e he
  rw [Rows.get?_ofLists hfits.2, Array.getElem?_toList, Array.getElem?_eq_getElem hplace]
  simp [hplace]

/-- **Filling anew never runs out of words** where the insertions did not, and the frozen map reads
its sequences from the fresh array. -/
theorem repack?_arena {entries : List (Int32 × List β)} (h : Rows.Fits (entries.map Prod.snd)) :
    let b := ofEntries entries
    b.arena.repack? = some b.repack.arena ∧
      ∀ key, (b.freeze.index.get? key).bind (b.repack.arena.rows.get? ·) = b.freeze.get? key := by
  intro b
  have hb : b.WellFormed := wellFormed_ofEntries entries
  have hstored : Rows.Fits b.store.toList := by rwa [toList_store]
  have hused : Rows.Fits (b.entries.map Prod.snd) := h.of_subperm (subperm_entries entries)
  have hcount : b.arena.index.buckets.size = b.index.bucketCount :=
    IntMap.Builder.size_buckets_table
  constructor
  · rw [Arena.repack?, entries?_arena hb hstored, Option.bind_eq_bind, Option.bind_some, hcount,
      ← arena_of_bucketCount]
    exact (insertAll?_arena (wellFormed_of_bucketCount _) Rows.fits_nil _).trans (if_pos hused)
  · intro key
    have hfresh : b.repack.store.toList = b.entries.map Prod.snd := by rw [repack_eq hb, packed]
    refine congrArg _ (funext fun place => ?_)
    rw [arena, Rows.get?_ofLists (hfresh ▸ hused.2), Array.getElem?_toList]
    rfl

end Builder

end TextTypes.SequenceMap
