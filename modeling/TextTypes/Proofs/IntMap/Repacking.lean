import TextTypes.Proofs.IntMap.Columns
import TextTypes.Proofs.IntMap.Slots

/-!
Filling a map anew.

A map to sequences is frozen from a fresh index of as many buckets, filled with the keys in the
order of the old one. All of them have room there from the start, so the fresh index never grows,
and every key comes back to its place. What is frozen in buckets is in the order of the builder.
-/

namespace TextTypes.IntMap

open TextTypes.Buckets

namespace Builder

variable {α : Type} {n : Nat} {entries : List (Int32 × α)} {key : Int32}

/-- Entries with keys of their own, each in the bucket of its slot. -/
def filled (n : Nat) (entries : List (Int32 × α)) : Builder α :=
  ⟨fill (keyBits ·.1) n entries, entries.length⟩

@[simp] lemma bucketCount_filled : (filled n entries).bucketCount = n := size_fill entries

lemma filled_nil (hn : 0 < n) : (filled n [] : Builder α) = withBucketCount n := by
  rw [filled, withBucketCount, Nat.max_eq_left hn]
  rfl

lemma append_filled (key : Int32) (value : α) :
    (filled n entries).append key value = filled n (entries ++ [(key, value)]) := by
  rw [append, setBucket, bucketCount_filled, filled, filled, fill_concat, List.length_append]
  rfl

section Room

variable (hn : 0 < n) (hkeys : (entries.map Prod.fst).Nodup)
  (hroom : entries.length ≤ threshold n)

include hn hkeys hroom

lemma wellFormed_filled : (filled n entries).WellFormed where
  pos := by rwa [bucketCount_filled]
  filed i e he := by
    rw [filled, bucketAt_fill hn, List.mem_filter, decide_eq_true_eq] at he
    rw [bucketCount_filled]
    exact he.2
  nodup := ((flatten_fill_perm hn entries).map Prod.fst).nodup_iff.mpr hkeys
  size_eq := (flatten_fill_perm hn entries).length_eq.symm
  load := by rwa [bucketCount_filled]

lemma get?_filled_of_notMem (h : key ∉ entries.map Prod.fst) :
    ¬((filled n entries).get? key).isSome := by
  rw [Option.not_isSome_iff_eq_none, get?_eq (wellFormed_filled hn hkeys hroom),
    Bucket.get?_eq_none_iff]
  exact fun hmem => h (((flatten_fill_perm hn entries).map Prod.fst).mem_iff.mp hmem)

end Room

/-- A new key that has room is put behind the others of its bucket, in columns as well. -/
lemma insert_filled {value : α} (hn : 0 < n)
    (hkeys : ((entries ++ [(key, value)]).map Prod.fst).Nodup)
    (hroom : (entries ++ [(key, value)]).length ≤ threshold n)
    (grow? : Table α → Option (Table α)) :
    (filled n entries).insert key value = filled n (entries ++ [(key, value)]) ∧
      (filled n entries).table.exchangeWith? grow? key value =
        some (none, (filled n (entries ++ [(key, value)])).table) := by
  rw [List.map_append, List.nodup_append_comm] at hkeys
  rw [List.length_append] at hroom
  obtain ⟨hnew, hbefore⟩ := List.nodup_cons.mp hkeys
  have hwf := wellFormed_filled hn hbefore (Nat.le_of_succ_le hroom)
  have habsent := get?_filled_of_notMem hn hbefore (Nat.le_of_succ_le hroom) hnew
  have hfits : (filled n entries).size < threshold (filled n entries).bucketCount := by
    rwa [bucketCount_filled]
  rw [← append_filled]
  exact ⟨insert_of_room hfits habsent, exchangeWith?_of_room hwf grow? habsent hfits value⟩

end Builder

end TextTypes.IntMap

namespace TextTypes.SequenceMap

open TextTypes.Buckets TextTypes.IntMap

variable {β : Type}

/-- A growing map to sequences, its index in columns. -/
structure Table (β : Type) where
  index : IntMap.Table Nat
  store : Store β

namespace Table

def withBucketCount (n : Nat) : Table β := ⟨.withBucketCount n, #[]⟩

/-- An insertion, with what happens when the keys have no room left open. -/
def insertWith? (grow? : IntMap.Table Nat → Option (IntMap.Table Nat)) (t : Table β)
    (key : Int32) (sequence : List β) : Option (Table β) := do
  let (_, index) ← t.index.exchangeWith? grow? key t.store.size
  return ⟨index, t.store.push sequence⟩

def insert? (t : Table β) (key : Int32) (sequence : List β) : Option (Table β) :=
  t.insertWith? IntMap.Table.grow? key sequence

/-- The table after a sequence of insertions. -/
def ofEntries? (entries : List (Int32 × List β)) : Option (Table β) :=
  entries.foldlM (fun t e => t.insert? e.1 e.2) (withBucketCount 11)

/-- Moves the sequences in use to a fresh store, in the order of the index. -/
def repackWith? (grow? : IntMap.Table Nat → Option (IntMap.Table Nat)) (t : Table β) :
    Option (Table β) :=
  t.index.entries.foldlM (fun fresh e => do
      let sequence ← t.store[e.2]?
      fresh.insertWith? grow? e.1 sequence)
    (withBucketCount t.index.buckets.size)

end Table

/-- An entry of the index with the sequence that it stands for. -/
def read (store : Store β) (e : Int32 × Nat) : Int32 × List β := (e.1, store[e.2]?.getD [])

namespace Builder

variable {b : Builder β} {n : Nat} {entries : List (Int32 × List β)}

def table (b : Builder β) : Table β := ⟨b.index.table, b.store⟩

lemma insert?_table (hb : b.WellFormed) (key : Int32) (sequence : List β) :
    b.table.insert? key sequence = some (b.insert key sequence).table := by
  have hindex := IntMap.Builder.exchange?_table hb.index key b.store.size
  rw [IntMap.Table.exchange?] at hindex
  simp only [Table.insert?, Table.insertWith?, table, hindex, Option.bind_eq_bind,
    Option.bind_some]
  rfl

theorem ofEntries?_eq (entries : List (Int32 × List β)) :
    Table.ofEntries? entries = some (ofEntries entries).table := by
  induction entries using List.reverseRecOn with
  | nil =>
    show some (Table.withBucketCount 11) = some (table {})
    rw [Table.withBucketCount, ← IntMap.Builder.table_withBucketCount]
    rfl
  | append_singleton entries e ih =>
    rw [Table.ofEntries?] at ih ⊢
    rw [foldlM_concat ih, insert?_table (wellFormed_ofEntries entries), ofEntries_concat]

/-! ### Repacking -/

/-- Keys in the order of their sequences, which lie in the store one after the other. -/
def packed (n : Nat) (entries : List (Int32 × List β)) : Builder β :=
  ⟨.filled n (entries.map Prod.fst).zipIdx, (entries.map Prod.snd).toArray⟩

lemma packed_nil (hn : 0 < n) : (packed n [] : Builder β) = { index := .withBucketCount n } := by
  rw [packed, ← IntMap.Builder.filled_nil hn]
  rfl

lemma insert_packed {e : Int32 × List β} (hn : 0 < n)
    (hkeys : ((entries ++ [e]).map Prod.fst).Nodup)
    (hroom : (entries ++ [e]).length ≤ IntMap.Builder.threshold n)
    (grow? : IntMap.Table Nat → Option (IntMap.Table Nat)) :
    (packed n entries).insert e.1 e.2 = packed n (entries ++ [e]) ∧
      (packed n entries).table.insertWith? grow? e.1 e.2 =
        some (packed n (entries ++ [e])).table := by
  have hplaced : ((entries ++ [e]).map Prod.fst).zipIdx =
      (entries.map Prod.fst).zipIdx ++ [(e.1, entries.length)] := by
    rw [List.map_append, List.zipIdx_append, List.length_map, Nat.zero_add]
    rfl
  have hstore : ((entries ++ [e]).map Prod.snd).toArray =
      (entries.map Prod.snd).toArray.push e.2 := by simp
  have hsize : (entries.map Prod.snd).toArray.size = entries.length := by simp
  obtain ⟨hinsert, hexchange⟩ := IntMap.Builder.insert_filled hn
    (by rwa [← hplaced, List.zipIdx_map_fst])
    (by rwa [← hplaced, List.length_zipIdx, List.length_map]) grow?
  rw [← hplaced] at hinsert hexchange
  constructor
  · rw [packed, insert, hsize, hinsert, packed, hstore]
  · simp only [table, packed, Table.insertWith?, hsize, hexchange, hstore, Option.bind_eq_bind,
      Option.bind_some]
    rfl

/-- Entries with keys of their own that have room fill the buckets one after the other, whatever
would happen to a key without room. -/
lemma foldl_insert_packed (hn : 0 < n) (hkeys : (entries.map Prod.fst).Nodup)
    (hroom : entries.length ≤ IntMap.Builder.threshold n)
    (grow? : IntMap.Table Nat → Option (IntMap.Table Nat)) :
    entries.foldl (fun b (key, sequence) => b.insert key sequence)
        { index := .withBucketCount n } = packed n entries ∧
      entries.foldlM (fun t e => t.insertWith? grow? e.1 e.2) (Table.withBucketCount n) =
        some (packed n entries).table := by
  induction entries using List.reverseRecOn with
  | nil =>
    refine ⟨(packed_nil hn).symm, ?_⟩
    rw [packed_nil hn, table, IntMap.Builder.table_withBucketCount]
    rfl
  | append_singleton entries e ih =>
    -- the entries before the last one have keys of their own and room as well
    have hbefore : (entries.map Prod.fst).Nodup := by
      rw [List.map_append] at hkeys
      exact hkeys.of_append_left
    have hfewer : entries.length ≤ IntMap.Builder.threshold n := by
      rw [List.length_append] at hroom
      omega
    obtain ⟨hfold, hfoldM⟩ := ih hbefore hfewer
    obtain ⟨hinsert, hinsertWith⟩ := insert_packed hn hkeys hroom grow?
    constructor
    · rw [List.foldl_append, hfold]
      exact hinsert
    · rw [foldlM_concat hfoldM, hinsertWith]

/-- Where every place is in the store, the entries might as well be read before the loop. -/
lemma foldlM_stored {store : Store β} {stored : List (Int32 × Nat)}
    (h : ∀ e ∈ stored, e.2 < store.size) (step : Table β → Int32 × List β → Option (Table β))
    (t : Table β) :
    stored.foldlM (fun t e => do
        let sequence ← store[e.2]?
        step t (e.1, sequence)) t =
      (stored.map (read store)).foldlM step t := by
  induction stored generalizing t with
  | nil => rfl
  | cons e stored ih =>
    obtain ⟨hhead, htail⟩ := List.forall_mem_cons.mp h
    have hread : read store e = (e.1, store[e.2]) := by simp [read, hhead]
    rw [List.foldlM_cons, List.map_cons, List.foldlM_cons, Array.getElem?_eq_getElem hhead, hread]
    exact bind_congr fun t => ih htail t

section Repack

variable (hb : b.WellFormed)

include hb

lemma length_entries_le : b.entries.length ≤ IntMap.Builder.threshold b.index.bucketCount := by
  rw [entries, List.length_map, ← hb.index.size_eq]
  exact hb.index.load

lemma repack_eq : b.repack = packed b.index.bucketCount b.entries :=
  (foldl_insert_packed hb.index.pos (nodup_entries hb) (length_entries_le hb) fun _ => none).1

theorem repackWith?_table (grow? : IntMap.Table Nat → Option (IntMap.Table Nat)) :
    b.table.repackWith? grow? = some b.repack.table := by
  have hrun := (foldl_insert_packed hb.index.pos (nodup_entries hb) (length_entries_le hb) grow?).2
  rw [Table.repackWith?, table, IntMap.Builder.entries_table, repack_eq hb, ← hrun,
    IntMap.Builder.size_buckets_table]
  exact foldlM_stored hb.stored (fun t e => t.insertWith? grow? e.1 e.2) _

end Repack

/-! ### The order -/

/-- Entries that are read from their buckets come in the order in which entries that have been read
fill them. -/
lemma map_read_flatten_fill (hn : 0 < n) (store : Store β) (stored : List (Int32 × Nat)) :
    (fill (keyBits ·.1) n stored).toList.flatten.map (read store) =
      (fill (keyBits ·.1) n (stored.map (read store))).toList.flatten := by
  have hfill : (fill (keyBits ·.1) n stored).map (List.map (read store)) =
      fill (keyBits ·.1) n (stored.map (read store)) := by
    refine map_fill hn (fun e => ?_) stored
    rfl
  rw [← hfill, Array.toList_map, List.map_flatten]

lemma map_read_zipIdx (entries : List (Int32 × List β)) :
    (entries.map Prod.fst).zipIdx.map (read (entries.map Prod.snd).toArray) = entries := by
  refine List.ext_getElem (by simp) fun i hi hi' => ?_
  simp [read, hi']

/-- **A map that is filled anew keeps its entries in order.** -/
theorem entries_repack (hb : b.WellFormed) : b.repack.entries = b.entries := by
  have hpos := hb.index.pos
  -- the old buckets are their own filling, so both indexes are filled in one order
  have hfilled : fill (keyBits ·.1) b.index.bucketCount b.index.entries = b.index.buckets :=
    fill_flatten hpos hb.index.filed
  rw [repack_eq hb]
  calc (packed b.index.bucketCount b.entries).entries
      = (fill (keyBits ·.1) b.index.bucketCount
          ((b.entries.map Prod.fst).zipIdx.map (read (b.entries.map Prod.snd).toArray))
          ).toList.flatten := map_read_flatten_fill hpos _ _
    _ = (fill (keyBits ·.1) b.index.bucketCount b.entries).toList.flatten := by
        rw [map_read_zipIdx]
    _ = (fill (keyBits ·.1) b.index.bucketCount b.index.entries).toList.flatten.map
          (read b.store) := (map_read_flatten_fill hpos b.store b.index.entries).symm
    _ = b.entries := by
        rw [hfilled]
        rfl

/-- What is frozen in buckets is stored in the order of the builder, and listed in it without the
key of a free slot. -/
lemma freeze_of_not_isOptimal (hb : b.WellFormed) (h : b.freeze.isOptimal = false) :
    b.freeze.index.layout = .bucketed b.repack.index.buckets ∧
      b.repack.index.buckets.toList.flatten.map (read b.freeze.store) = b.entries ∧
      b.freeze.entries = b.entries.filter (·.1 ≠ freeKey) := by
  have hnone : slotCount? (b.repack.index.entries.map Prod.fst) = none := by
    rw [← Option.not_isSome_iff_eq_none, ← IntMap.Builder.isOptimal_freeze]
    exact Bool.eq_false_iff.mp h
  have hfreeze : b.repack.index.freeze = ⟨.bucketed b.repack.index.buckets, b.repack.index.size⟩ :=
    freeze_of_buckets hnone
  have hentries := entries_repack hb
  refine ⟨?_, hentries, ?_⟩
  · show b.repack.index.freeze.layout = _
    rw [hfreeze]
  · rw [← hentries, entries, List.filter_map]
    show (b.repack.index.freeze.entries.map _) = _
    rw [hfreeze]
    rfl

lemma files_index_ofEntries (entries : List (Int32 × List β)) :
    (ofEntries entries).table.index.Files (finmapOf entries).keys := by
  have hb := wellFormed_ofEntries entries
  have hkeys := IntMap.Builder.toFinset_keys hb.index fun key => by
    rw [isSome_get?_index hb, isSome_get?_ofEntries]
  rw [← hkeys]
  exact IntMap.Builder.files_table hb.index

end Builder

end TextTypes.SequenceMap

namespace TextTypes.IntMap

variable {α β : Type}

/-- **How insertions file their keys.** After any insertions into any number of buckets every key
is stored once, in the bucket of its slot; every bucket has as many values as keys; the size counts
the keys, and is at most three quarters of the number of buckets. So the index of a map to
sequences has room for its keys when it is filled anew: it does not grow, whatever growing would
do. What is frozen in buckets is stored in the order of the builder, and its entries are listed in
that order, without the key of a free slot. -/
theorem files_and_repacks (n : Nat) (entries : List (Int32 × α))
    (sequences : List (Int32 × List β)) :
    let b := Builder.ofEntries n entries
    let sb := SequenceMap.Builder.ofEntries sequences
    let sm := sb.freeze
    (Table.ofEntries? n entries = some b.table ∧ b.table.Files (finmapOf entries).keys) ∧
      (SequenceMap.Table.ofEntries? sequences = some sb.table ∧
        sb.table.index.Files (finmapOf sequences).keys) ∧
      (∀ grow?, sb.table.repackWith? grow? = some sb.repack.table) ∧
      sb.repack.index.bucketCount = sb.index.bucketCount ∧
      (sm.isOptimal = false →
        sm.index.layout = .bucketed sb.repack.index.buckets ∧
          sb.repack.index.buckets.toList.flatten.map (SequenceMap.read sm.store) = sb.entries ∧
          sm.entries = sb.entries.filter (·.1 ≠ freeKey)) := by
  intro b sb sm
  have hsb := SequenceMap.Builder.wellFormed_ofEntries sequences
  have hfiles := Builder.files_table (Builder.wellFormed_ofEntries n entries)
  rw [Builder.toFinset_keys_ofEntries] at hfiles
  refine ⟨⟨Builder.ofEntries?_eq n entries, hfiles⟩,
    ⟨SequenceMap.Builder.ofEntries?_eq sequences,
      SequenceMap.Builder.files_index_ofEntries sequences⟩,
    SequenceMap.Builder.repackWith?_table hsb, ?_, SequenceMap.Builder.freeze_of_not_isOptimal hsb⟩
  rw [SequenceMap.Builder.repack_eq hsb]
  exact Builder.bucketCount_filled

/-- More keys than the first buckets have room for. The last one differs from an earlier one in its
sign only. -/
def crowded : List (Int32 × List Nat) :=
  [(20, [1]), (3, [2]), (11, []), (22, [4]), (0, [5]), (37, [6, 6]), (5, [7]), (54, [8]),
    (Int32.minValue + 3, [9])]

/-- One bucket grows to four. Eleven buckets grow to seventeen, and are kept with their order. -/
theorem files_and_repacks_crowded :
    let b := Builder.ofEntries 0 [(1, 10), (9, 20), (1, 11)]
    let sb := SequenceMap.Builder.ofEntries crowded
    let sm := sb.freeze
    (Table.ofEntries? 0 [((1 : Int32), 10), (9, 20), (1, 11)] = some b.table ∧
        b.bucketCount = 4) ∧
      sb.index.bucketCount = 17 ∧ sb.repack.index.bucketCount = 17 ∧ sm.isOptimal = false ∧
      sm.entries = sb.entries := by
  intro b sb sm
  have hcount : sb.index.bucketCount = 17 := by decide +kernel
  have hlayout : sm.isOptimal = false := by decide +kernel
  have hkept : sb.entries.filter (·.1 ≠ freeKey) = sb.entries := by decide +kernel
  obtain ⟨⟨hrun, -⟩, -, -, hrepack, horder⟩ :=
    files_and_repacks 0 [((1 : Int32), 10), (9, 20), (1, 11)] crowded
  obtain ⟨-, -, hentries⟩ := horder hlayout
  exact ⟨⟨hrun, by decide +kernel⟩, hcount, hrepack.trans hcount, hlayout, hentries.trans hkept⟩

end TextTypes.IntMap
