import TextTypes.Proofs.IntMap.Histories

/-!
Growing maps in columns.

A bucket keeps its keys and its values in two lists, and a value has the place of its key. The
number of entries at which the buckets are full stands beside them, computed with 53 significant
bits. No look-up of a place ever fails, the columns stay as long as each other, and the insertions
come to the buckets of entries that the columns stand for.
-/

namespace TextTypes.IntMap

open TextTypes.Buckets

/-! ### Three quarters -/

/-- The nearest number with 53 significant bits, the even one of two that are as near. -/
def rounded (m : Nat) : Nat :=
  let unit := 2 ^ (m.log2 - 52)
  let units := m / unit
  let rest := m % unit
  if unit < 2 * rest ∨ 2 * rest = unit ∧ units % 2 = 1 then (units + 1) * unit else units * unit

/-- Three quarters of `n` as a whole number: `n` is rounded, then the product, which has 53 bits if
four times as much has. -/
def limitOf (n : Nat) : Nat := rounded (3 * rounded n) / 4

lemma rounded_of_lt {m : Nat} (h : m < 2 ^ 53) : rounded m = m := by
  have hlog : m.log2 - 52 = 0 := by
    rcases Nat.eq_zero_or_pos m with rfl | hpos
    · simp
    · have := (Nat.log2_lt (Nat.ne_of_gt hpos)).mpr h
      omega
  simp [rounded, hlog, Nat.mod_one]

lemma le_rounded {m : Nat} (h : 2 ^ 52 ≤ m) : 2 ^ 52 ≤ rounded m := by
  have hpos : 0 < 2 ^ (m.log2 - 52) := Nat.two_pow_pos _
  have hlog : 52 ≤ m.log2 := (Nat.le_log2 (by omega)).mpr h
  have hunits : 2 ^ 52 ≤ m / 2 ^ (m.log2 - 52) := by
    rw [Nat.le_div_iff_mul_le hpos, ← Nat.pow_add, Nat.add_sub_cancel' hlog]
    exact Nat.log2_self_le (by omega)
  have hle : 2 ^ 52 ≤ m / 2 ^ (m.log2 - 52) * 2 ^ (m.log2 - 52) :=
    Nat.le_trans hunits (Nat.le_mul_of_pos_right _ hpos)
  unfold rounded
  dsimp only
  split
  · exact Nat.le_trans hle (Nat.mul_le_mul_right _ (Nat.le_succ _))
  · exact hle

/-- For as many entries as there are keys, rounding makes no difference. -/
lemma limitOf_lt_iff {n k : Nat} (hk : k ≤ 2 ^ 32) :
    limitOf n < k ↔ Builder.threshold n < k := by
  unfold limitOf Builder.threshold
  by_cases hsmall : n < 2 ^ 51
  · rw [rounded_of_lt (by omega : n < 2 ^ 53), rounded_of_lt (by omega), Nat.mul_comm]
  · -- so many buckets are not full with all keys
    have hfactor : 2 ^ 52 ≤ 3 * rounded n := by
      by_cases hexact : n < 2 ^ 53
      · rw [rounded_of_lt hexact]
        omega
      · have := le_rounded (by omega : 2 ^ 52 ≤ n)
        omega
    have := le_rounded hfactor
    omega

/-- There are no more keys than numbers of 32 bits. -/
lemma length_le_of_nodup {keys : List Int32} (h : keys.Nodup) : keys.length ≤ 2 ^ 32 := by
  have hcard : keys.toFinset.card ≤ (Finset.range (2 ^ 32)).card :=
    Finset.card_le_card_of_injOn (fun key => key.toUInt32.toNat)
      (fun key _ => Finset.mem_coe.mpr (Finset.mem_range.mpr key.toUInt32.toNat_lt_size))
      (fun key _ key' _ heq => congrArg Int32.ofUInt32 (UInt32.toNat_inj.mp heq))
  rwa [List.toFinset_card_of_nodup h, Finset.card_range] at hcard

/-! ### Columns -/

namespace Bucket

variable {α : Type} {b : Bucket α} {key : Int32}

lemma replace_cons (e : Int32 × α) (value : α) :
    replace (e :: b) key value = (if e.1 = key then (key, value) else e) :: replace b key value :=
  rfl

lemma replace_of_notMem (h : key ∉ b.map Prod.fst) (value : α) : b.replace key value = b := by
  induction b with
  | nil => rfl
  | cons e b ih =>
    rw [List.map_cons, List.mem_cons, not_or] at h
    rw [replace_cons, if_neg (Ne.symm h.1), ih h.2]

end Bucket

/-- The keys of a bucket and their values, at the same places. -/
structure Columns (α : Type) where
  keys : List Int32 := []
  values : List α := []

namespace Columns

variable {α : Type}

def place? (c : Columns α) (key : Int32) : Option Nat := c.keys.findIdx? (· == key)

def push (c : Columns α) (key : Int32) (value : α) : Columns α :=
  ⟨c.keys ++ [key], c.values ++ [value]⟩

/-- Keys with their values, as far as both reach. -/
def entries (c : Columns α) : List (Int32 × α) := c.keys.zip c.values

def ofBucket (b : Bucket α) : Columns α := ⟨b.map Prod.fst, b.map Prod.snd⟩

variable {b : Bucket α} {key : Int32}

@[simp] lemma entries_ofBucket : (ofBucket b).entries = b :=
  (List.zip_map' ..).trans (List.map_id b)

lemma ofBucket_concat (value : α) :
    ofBucket (b ++ [(key, value)]) = (ofBucket b).push key value := by
  simp [ofBucket, push]

lemma place?_of_absent (h : b.get? key = none) : (ofBucket b).place? key = none := by
  rw [Bucket.get?_eq_none_iff] at h
  rw [place?, List.findIdx?_eq_none_iff]
  rintro k hk
  exact beq_eq_false_iff_ne.mpr fun heq => h (heq ▸ hk)

/-- The value of a key is found and replaced at the place of the key. -/
lemma exists_place? (hb : (b.map Prod.fst).Nodup) {old : α} (h : b.get? key = some old)
    (value : α) :
    ∃ place, (ofBucket b).place? key = some place ∧ (ofBucket b).values[place]? = some old ∧
      ofBucket (Bucket.replace b key value) =
        ⟨(ofBucket b).keys, (ofBucket b).values.set place value⟩ := by
  induction b with
  | nil => cases h
  | cons e b ih =>
    rw [List.map_cons, List.nodup_cons] at hb
    rw [Bucket.get?_cons] at h
    by_cases he : e.1 = key
    · -- the key does not come again
      subst he
      rw [if_pos rfl] at h
      refine ⟨0, by simp [place?, ofBucket, List.findIdx?_cons], by simpa [ofBucket] using h, ?_⟩
      rw [Bucket.replace_cons, if_pos rfl, Bucket.replace_of_notMem hb.1]
      rfl
    · rw [if_neg he] at h
      obtain ⟨place, hplace, hold, hreplace⟩ := ih hb.2 h
      refine ⟨place + 1, ?_, hold, ?_⟩
      · rw [place?, ofBucket] at hplace ⊢
        rw [List.map_cons, List.findIdx?_cons, hplace, beq_eq_false_iff_ne.mpr he]
        rfl
      · rw [Bucket.replace_cons, if_neg he]
        simp only [ofBucket, Columns.mk.injEq, List.map_cons, List.set_cons_succ] at hreplace ⊢
        rw [hreplace.1, hreplace.2]
        exact ⟨rfl, rfl⟩

end Columns

/-! ### Tables -/

/-- A run goes on from where it has come to. -/
lemma foldlM_concat {σ ε : Type} {step : σ → ε → Option σ} {s s' : σ} {l : List ε} {e : ε}
    (h : l.foldlM step s = some s') : (l ++ [e]).foldlM step s = step s' e := by
  simp [List.foldlM_append, h]

/-- A growing map in columns, with the number of entries that its buckets have room for. -/
structure Table (α : Type) where
  buckets : Array (Columns α)
  size : Nat
  limit : Nat

namespace Table

variable {α : Type}

def withBucketCount (n : Nat) : Table α :=
  ⟨Array.replicate (max n 1) {}, 0, limitOf (max n 1)⟩

/-- Puts an entry behind the others of its bucket. -/
def put? (buckets : Array (Columns α)) (e : Int32 × α) : Option (Array (Columns α)) := do
  let place := slotOf e.1 buckets.size
  let bucket ← buckets[place]?
  return buckets.setIfInBounds place (bucket.push e.1 e.2)

/-- Half as many buckets more, and one, within 64 bits. -/
def grown? (n : Nat) : Option Nat := if n * 3 < 2 ^ 64 then some (n * 3 / 2 + 1) else none

/-- All entries in bucket order. -/
def entries (t : Table α) : List (Int32 × α) := t.buckets.toList.flatMap Columns.entries

/-- Moves all entries to a larger row of buckets. -/
def grow? (t : Table α) : Option (Table α) := do
  let n ← grown? t.buckets.size
  let buckets ← t.entries.foldlM put? (Array.replicate n {})
  return ⟨buckets, t.size, limitOf n⟩

/-- An insertion with its answer, the value that the key had before. What happens when the entries
have no room is left open. -/
def exchangeWith? (grow? : Table α → Option (Table α)) (t : Table α) (key : Int32) (value : α) :
    Option (Option α × Table α) := do
  let slot := slotOf key t.buckets.size
  let bucket ← t.buckets[slot]?
  match bucket.place? key with
  | some place => do
    let old ← bucket.values[place]?
    let replaced := { bucket with values := bucket.values.set place value }
    return (some old, { t with buckets := t.buckets.setIfInBounds slot replaced })
  | none => do
    let added : Table α :=
      ⟨t.buckets.setIfInBounds slot (bucket.push key value), t.size + 1, t.limit⟩
    if added.limit < added.size then (grow? added).map (none, ·)
    else return (none, added)

def exchange? (t : Table α) (key : Int32) (value : α) : Option (Option α × Table α) :=
  t.exchangeWith? grow? key value

/-- The table after a sequence of insertions, with `n` buckets at first. -/
def ofEntries? (n : Nat) (entries : List (Int32 × α)) : Option (Table α) :=
  entries.foldlM (fun t e => (t.exchange? e.1 e.2).map Prod.snd) (withBucketCount n)

end Table

namespace Builder

variable {α : Type} {b : Builder α} {key : Int32}

/-- The columns of a growing map. -/
def table (b : Builder α) : Table α :=
  ⟨b.buckets.map Columns.ofBucket, b.size, limitOf b.bucketCount⟩

@[simp] lemma size_buckets_table : b.table.buckets.size = b.bucketCount := Array.size_map

lemma table_withBucketCount (n : Nat) :
    (withBucketCount n : Builder α).table = Table.withBucketCount n := by
  simp [table, withBucketCount, bucketCount, Table.withBucketCount, Columns.ofBucket]

lemma entries_table : b.table.entries = b.entries := by
  simp [Table.entries, table, entries, List.flatMap_map, List.flatMap_id']

lemma getElem?_buckets (hb : b.WellFormed) (key : Int32) :
    b.buckets[slotOf key b.bucketCount]? = some (b.bucketOf key) := by
  have hlt : slotOf key b.bucketCount < b.buckets.size := slotOf_lt key hb.pos
  simp [bucketOf, hlt]

/-- One bucket of columns changes as the bucket of entries does. -/
lemma map_ofBucket_modify {buckets : Array (Bucket α)} {slot : Nat} {bucket : Bucket α}
    (h : buckets[slot]? = some bucket) (f : Bucket α → Bucket α) :
    (buckets.modify slot f).map Columns.ofBucket =
      (buckets.map Columns.ofBucket).setIfInBounds slot (Columns.ofBucket (f bucket)) := by
  refine Array.ext_getElem? fun i => ?_
  rw [Array.getElem?_map, Array.getElem?_modify, Array.getElem?_setIfInBounds,
    Array.getElem?_map]
  by_cases hi : slot = i
  · subst hi
    obtain ⟨hlt, rfl⟩ := Array.getElem?_eq_some_iff.mp h
    simp [hlt]
  · simp [hi]

lemma table_setBucket (hb : b.WellFormed) (key : Int32) (f : Bucket α → Bucket α) (n : Nat) :
    (⟨b.setBucket key f, n⟩ : Builder α).table =
      ⟨b.table.buckets.setIfInBounds (slotOf key b.bucketCount)
        (Columns.ofBucket (f (b.bucketOf key))), n, b.table.limit⟩ := by
  rw [table, bucketCount_setBucket, setBucket, map_ofBucket_modify (getElem?_buckets hb key)]
  rfl

/-! ### Growth -/

lemma put?_map (buckets : Array (Bucket α)) (hpos : 0 < buckets.size) (e : Int32 × α) :
    Table.put? (buckets.map Columns.ofBucket) e =
      some ((put (keyBits ·.1) buckets.size buckets e).map Columns.ofBucket) := by
  have hlt : slotOf e.1 buckets.size < buckets.size := slotOf_lt e.1 hpos
  have hbucket := Array.getElem?_eq_getElem hlt
  have hmodify := map_ofBucket_modify hbucket (· ++ [e])
  rw [Columns.ofBucket_concat] at hmodify
  rw [Table.put?, Array.size_map, Array.getElem?_map, hbucket]
  exact congrArg some hmodify.symm

lemma foldlM_put? {n : Nat} (hn : 0 < n) (items : List (Int32 × α)) :
    items.foldlM Table.put? (Array.replicate n {}) =
      some ((fill (keyBits ·.1) n items).map Columns.ofBucket) := by
  induction items using List.reverseRecOn with
  | nil => simp [fill, Columns.ofBucket]
  | append_singleton items e ih =>
    have hput := put?_map (fill (keyBits ·.1) n items) (by rwa [size_fill]) e
    rw [size_fill] at hput
    rw [foldlM_concat ih, hput, fill_concat]

lemma grow?_table (h : b.bucketCount * 3 < 2 ^ 64) : b.table.grow? = some b.grow.table := by
  have hgrow : b.grow.table = ⟨b.grow.buckets.map Columns.ofBucket, b.size,
      limitOf (b.bucketCount * 3 / 2 + 1)⟩ := by
    rw [table, bucketCount_grow]
    rfl
  rw [Table.grow?, size_buckets_table, Table.grown?, if_pos h, entries_table, hgrow]
  simp only [Option.bind_eq_bind, Option.bind_some, foldlM_put? (Nat.succ_pos _)]
  rfl

/-! ### Insertion -/

section Room

variable (hroom : b.size < threshold b.bucketCount) {value : α}

include hroom

lemma fits_append : ¬(b.append key value).size > threshold (b.append key value).bucketCount := by
  rw [append, bucketCount_setBucket]
  exact Nat.not_lt.mpr hroom

lemma insert_of_room (h : ¬(b.get? key).isSome) : b.insert key value = b.append key value := by
  rw [insert_of_absent key value h, if_neg (fits_append hroom)]

end Room

section Insertion

variable (hb : b.WellFormed)

include hb

lemma getElem?_buckets_table (key : Int32) :
    b.table.buckets[slotOf key b.table.buckets.size]? =
      some (Columns.ofBucket (b.bucketOf key)) := by
  rw [size_buckets_table, table, Array.getElem?_map, getElem?_buckets hb]
  rfl

/-- The value of a key is replaced at its place, which is there. -/
lemma exchangeWith?_of_present (grow? : Table α → Option (Table α)) {old : α}
    (h : b.get? key = some old) (value : α) :
    b.table.exchangeWith? grow? key value = some (some old, (b.insert key value).table) := by
  have hnodup : ((b.bucketOf key).map Prod.fst).Nodup :=
    ((bucketAt_sublist b.buckets _).map Prod.fst).nodup hb.nodup
  obtain ⟨place, hplace, hold, hreplace⟩ := Columns.exists_place? hnodup h value
  have hinsert : (b.insert key value).table = ⟨b.table.buckets.setIfInBounds
      (slotOf key b.bucketCount) ⟨(Columns.ofBucket (b.bucketOf key)).keys,
        (Columns.ofBucket (b.bucketOf key)).values.set place value⟩, b.size, b.table.limit⟩ := by
    rw [insert_of_present key value (by rw [h]; rfl), ← hreplace]
    exact table_setBucket hb key _ b.size
  rw [Table.exchangeWith?, getElem?_buckets_table hb]
  simp only [Option.bind_eq_bind, Option.bind_some, hplace, hold, hinsert, size_buckets_table]
  rfl

/-- There are no more entries than keys, with a new one as well. -/
lemma size_succ_le (value : α) (h : ¬(b.get? key).isSome) : b.size + 1 ≤ 2 ^ 32 := by
  have hle := length_le_of_nodup (nodup_cons hb value h)
  rwa [List.length_map, List.length_cons, ← hb.size_eq] at hle

/-- A new key is put behind the others, and the table grows if it has no room. -/
lemma exchangeWith?_of_absent (grow? : Table α → Option (Table α)) (h : ¬(b.get? key).isSome)
    (value : α) :
    b.table.exchangeWith? grow? key value =
      if (b.append key value).size > threshold (b.append key value).bucketCount then
        (grow? (b.append key value).table).map (none, ·)
      else some (none, (b.append key value).table) := by
  have hplace : (Columns.ofBucket (b.bucketOf key)).place? key = none :=
    Columns.place?_of_absent (Option.not_isSome_iff_eq_none.mp h)
  have happend : (b.append key value).table = ⟨b.table.buckets.setIfInBounds
      (slotOf key b.bucketCount) ((Columns.ofBucket (b.bucketOf key)).push key value), b.size + 1,
      b.table.limit⟩ := by
    rw [← Columns.ofBucket_concat]
    exact table_setBucket hb key _ (b.size + 1)
  have hfull : (b.append key value).size > threshold (b.append key value).bucketCount ↔
      b.table.limit < b.size + 1 := by
    rw [append, bucketCount_setBucket]
    exact (limitOf_lt_iff (size_succ_le hb value h)).symm
  rw [Table.exchangeWith?, getElem?_buckets_table hb]
  simp only [Option.bind_eq_bind, Option.bind_some, hplace, size_buckets_table, happend, hfull]
  rfl

/-- With room for a new key, it does not matter what happens without. -/
lemma exchangeWith?_of_room (grow? : Table α → Option (Table α)) (h : ¬(b.get? key).isSome)
    (hroom : b.size < threshold b.bucketCount) (value : α) :
    b.table.exchangeWith? grow? key value = some (none, (b.append key value).table) := by
  rw [exchangeWith?_of_absent hb grow? h, if_neg (fits_append hroom)]

/-- **An insertion into columns** does not fail, and comes to the insertion of an entry. -/
theorem exchange?_table (key : Int32) (value : α) :
    b.table.exchange? key value = some (b.get? key, (b.insert key value).table) := by
  rw [Table.exchange?]
  rcases h : b.get? key with _ | old
  · have habsent : ¬(b.get? key).isSome := by simp [h]
    rw [exchangeWith?_of_absent hb _ habsent, insert_of_absent key value habsent]
    split
    · next hfull =>
      -- as many buckets as keys fill are far from running out of numbers
      have hfew : (b.append key value).bucketCount * 3 < 2 ^ 64 := by
        have hsize : (b.append key value).size ≤ 2 ^ 32 := size_succ_le hb value habsent
        unfold threshold at hfull
        omega
      rw [grow?_table hfew]
      rfl
    · rfl
  · exact exchangeWith?_of_present hb _ h value

end Insertion

/-- Any insertions into columns come to the builder of the entries. -/
theorem ofEntries?_eq (n : Nat) (entries : List (Int32 × α)) :
    Table.ofEntries? n entries = some (ofEntries n entries).table := by
  induction entries using List.reverseRecOn with
  | nil => exact congrArg some (table_withBucketCount n).symm
  | append_singleton entries e ih =>
    rw [Table.ofEntries?] at ih ⊢
    rw [foldlM_concat ih, exchange?_table (wellFormed_ofEntries n entries), ofEntries_concat]
    rfl

end Builder

/-! ### What a table keeps -/

namespace Table

variable {α : Type}

/-- How a table stores some keys: each of them once, in the bucket of its slot, with as many values
as keys in every bucket, all of them counted, and no more than three quarters of the buckets. -/
structure Files (t : Table α) (keys : Finset Int32) : Prop where
  count_eq : ∀ key slot, (t.buckets[slot]?.getD {}).keys.count key =
    if key ∈ keys ∧ slotOf key t.buckets.size = slot then 1 else 0
  length_eq : ∀ bucket ∈ t.buckets, bucket.keys.length = bucket.values.length
  size_eq : t.size = (t.buckets.toList.flatMap Columns.keys).length
  load : t.size ≤ t.buckets.size * 3 / 4

end Table

namespace Builder

variable {α : Type} {b : Builder α}

lemma keys_table : b.table.buckets.toList.flatMap Columns.keys = b.entries.map Prod.fst := by
  rw [table, Array.toList_map, List.flatMap_map, entries, List.map_flatten, List.flatMap_def]
  rfl

/-- A bucket has the keys whose slot it is. -/
lemma mem_keys_bucketAt_iff (hb : b.WellFormed) (slot : Nat) (key : Int32) :
    key ∈ (bucketAt b.buckets slot).map Prod.fst ↔
      key ∈ b.entries.map Prod.fst ∧ slotOf key b.bucketCount = slot := by
  simp only [List.mem_map]
  constructor
  · rintro ⟨e, he, rfl⟩
    exact ⟨⟨e, (bucketAt_sublist b.buckets slot).subset he, rfl⟩, hb.filed slot e he⟩
  · rintro ⟨⟨e, he, rfl⟩, rfl⟩
    exact ⟨e, (mem_entries_iff hb).mp he, rfl⟩

lemma files_table (hb : b.WellFormed) : b.table.Files (b.entries.map Prod.fst).toFinset where
  count_eq key slot := by
    have hslot : b.table.buckets[slot]?.getD {} = Columns.ofBucket (bucketAt b.buckets slot) := by
      rw [table, Array.getElem?_map, bucketAt]
      cases b.buckets[slot]? <;> rfl
    have hnodup := ((bucketAt_sublist b.buckets slot).map Prod.fst).nodup hb.nodup
    have hmem := mem_keys_bucketAt_iff hb slot key
    rw [← List.mem_toFinset (l := b.entries.map Prod.fst)] at hmem
    rw [hslot, size_buckets_table]
    exact hnodup.count.trans (if_congr hmem rfl rfl)
  length_eq bucket hbucket := by
    obtain ⟨stored, -, rfl⟩ := Array.mem_map.mp hbucket
    simp [Columns.ofBucket]
  size_eq := by
    rw [keys_table, List.length_map]
    exact hb.size_eq
  load := by
    rw [size_buckets_table]
    exact hb.load

end Builder

end TextTypes.IntMap
