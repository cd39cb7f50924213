import TextTypes.IntMap.Builder
import TextTypes.Proofs.Buckets

/-!
A growing map is a finite map.

Every key is stored once, in the bucket of its slot, and the buckets never hold more than three
quarters as many entries as there are buckets. An insertion therefore changes the value of its
own key and of no other, whether or not the entries move to more buckets.
-/

namespace TextTypes.IntMap

open TextTypes.Buckets

variable {α : Type}

lemma slotOf_lt (key : Int32) {n : Nat} (hn : 0 < n) : slotOf key n < n := Nat.mod_lt _ hn

/-! ### Numbers as keys -/

lemma toNat_ofNat {n : Nat} (h : n < UInt32.size) : (Int32.ofNat n).toUInt32.toNat = n := by
  show (UInt32.ofNat n).toNat = n
  exact UInt32.toNat_ofNat_of_lt h

lemma ofNat_inj {m n : Nat} (hm : m < UInt32.size) (hn : n < UInt32.size) :
    Int32.ofNat m = Int32.ofNat n ↔ m = n := by
  refine ⟨fun h => ?_, fun h => by rw [h]⟩
  rw [← toNat_ofNat hm, h, toNat_ofNat hn]

lemma toNat_lt_size (c : Char) : c.toNat < UInt32.size := c.val.toNat_lt_size

lemma ofNat_char_inj {c d : Char} : Int32.ofNat c.toNat = Int32.ofNat d.toNat ↔ c = d := by
  rw [ofNat_inj (toNat_lt_size c) (toNat_lt_size d)]
  exact ⟨fun h => Char.toNat_inj.mp h, fun h => by rw [h]⟩

/-! ### Entries with distinct keys -/

namespace Bucket

lemma get?_cons (e : Int32 × α) (b : Bucket α) (key : Int32) :
    get? (e :: b) key = if e.1 = key then some e.2 else get? b key := by
  unfold get?
  rw [List.find?_cons]
  by_cases h : e.1 = key
  · simp [h]
  · simp [h, beq_eq_false_iff_ne.mpr h]

lemma get?_eq_none_iff {b : Bucket α} {key : Int32} :
    get? b key = none ↔ key ∉ b.map Prod.fst := by
  induction b with
  | nil => simp [get?]
  | cons e b ih =>
    rw [get?_cons]
    by_cases h : e.1 = key
    · simp [h]
    · rw [if_neg h, ih, List.map_cons, List.mem_cons]
      simp [Ne.symm h]

lemma get?_eq_some_iff {b : Bucket α} (hb : (b.map Prod.fst).Nodup) {key : Int32} {value : α} :
    get? b key = some value ↔ (key, value) ∈ b := by
  induction b with
  | nil => simp [get?]
  | cons e b ih =>
    obtain ⟨k, v⟩ := e
    rw [List.map_cons, List.nodup_cons] at hb
    rw [get?_cons, List.mem_cons, Prod.mk.injEq]
    by_cases h : k = key
    · subst h
      have hout : (k, value) ∉ b := fun hm => hb.1 (List.mem_map.mpr ⟨_, hm, rfl⟩)
      simp [hout, eq_comm]
    · simp [h, ih hb.2, Ne.symm h]

/-- The order of entries with distinct keys does not matter. -/
lemma get?_perm {b c : Bucket α} (hb : (b.map Prod.fst).Nodup) (h : b.Perm c) (key : Int32) :
    get? b key = get? c key := by
  have hc : (c.map Prod.fst).Nodup := (h.map Prod.fst).nodup_iff.mp hb
  ext value
  rw [get?_eq_some_iff hb, get?_eq_some_iff hc, h.mem_iff]

lemma get?_replace (b : Bucket α) (key : Int32) (value : α) (key' : Int32) :
    get? (b.replace key value) key' =
      if key' = key ∧ (get? b key).isSome then some value else get? b key' := by
  induction b with
  | nil => simp [replace, get?]
  | cons e b ih =>
    have hcons : replace (e :: b) key value =
        (if e.1 = key then (key, value) else e) :: replace b key value := rfl
    rw [hcons, get?_cons, get?_cons, get?_cons, ih]
    by_cases h : e.1 = key
    · subst h
      by_cases h' : key' = e.1
      · simp [h']
      · simp [h', Ne.symm h']
    · by_cases h' : key' = key
      · subst h'
        simp [h]
      · simp [h, h']

lemma map_fst_replace (b : Bucket α) (key : Int32) (value : α) :
    (b.replace key value).map Prod.fst = b.map Prod.fst := by
  unfold replace
  rw [List.map_map]
  refine List.map_congr_left fun e _ => ?_
  by_cases h : e.1 = key <;> simp [h]

end Bucket

namespace Builder

/-- What every sequence of insertions keeps. -/
structure WellFormed (b : Builder α) : Prop where
  pos : 0 < b.bucketCount
  filed : ∀ i, ∀ e ∈ bucketAt b.buckets i, slotOf e.1 b.bucketCount = i
  nodup : (b.entries.map Prod.fst).Nodup
  size_eq : b.size = b.entries.length
  load : b.size ≤ threshold b.bucketCount

lemma wellFormed_withBucketCount (n : Nat) : (withBucketCount n : Builder α).WellFormed where
  pos := by
    show 0 < (Array.replicate (max n 1) ([] : Bucket α)).size
    rw [Array.size_replicate]
    omega
  filed i e he := by
    rw [show (withBucketCount n : Builder α).buckets = Array.replicate (max n 1) [] from rfl,
      bucketAt_replicate] at he
    cases he
  nodup := by simp [entries, withBucketCount]
  size_eq := by simp [entries, withBucketCount]
  load := Nat.zero_le _

variable {b : Builder α}

lemma mem_entries_iff (hb : b.WellFormed) {e : Int32 × α} :
    e ∈ b.entries ↔ e ∈ b.bucketOf e.1 := by
  show e ∈ b.buckets.toList.flatten ↔ e ∈ bucketAt b.buckets (slotOf e.1 b.bucketCount)
  rw [mem_flatten_iff]
  constructor
  · rintro ⟨i, hi⟩
    rwa [hb.filed i e hi]
  · exact fun h => ⟨_, h⟩

/-- Looking into the bucket of a key is looking through all entries. -/
lemma get?_eq (hb : b.WellFormed) (key : Int32) : b.get? key = Bucket.get? b.entries key := by
  have hsub : ((b.bucketOf key).map Prod.fst).Nodup :=
    ((bucketAt_sublist b.buckets _).map Prod.fst).nodup hb.nodup
  ext value
  show Bucket.get? (b.bucketOf key) key = some value ↔ _
  rw [Bucket.get?_eq_some_iff hsub, Bucket.get?_eq_some_iff hb.nodup, mem_entries_iff hb]

lemma get?_eq_some_iff (hb : b.WellFormed) {key : Int32} {value : α} :
    b.get? key = some value ↔ (key, value) ∈ b.entries := by
  rw [get?_eq hb, Bucket.get?_eq_some_iff hb.nodup]

lemma get?_withBucketCount (n : Nat) (key : Int32) :
    (withBucketCount n : Builder α).get? key = none := by
  rw [get?_eq (wellFormed_withBucketCount n)]
  simp [entries, withBucketCount, Bucket.get?]

/-! ### Insertion -/

/-- The entry of a new key is put behind the others of its bucket. -/
def append (b : Builder α) (key : Int32) (value : α) : Builder α :=
  ⟨b.setBucket key (· ++ [(key, value)]), b.size + 1⟩

lemma insert_of_present (key : Int32) (value : α) (h : (b.get? key).isSome) :
    b.insert key value = { b with buckets := b.setBucket key (·.replace key value) } :=
  if_pos h

lemma insert_of_absent (key : Int32) (value : α) (h : ¬(b.get? key).isSome) :
    b.insert key value =
      if (b.append key value).size > threshold (b.append key value).bucketCount then
        (b.append key value).grow
      else b.append key value :=
  if_neg h

lemma bucketCount_setBucket (key : Int32) (f : Bucket α → Bucket α) (n : Nat) :
    (⟨b.setBucket key f, n⟩ : Builder α).bucketCount = b.bucketCount :=
  Array.size_modify

lemma bucketAt_setBucket (hb : b.WellFormed) (key : Int32) (f : Bucket α → Bucket α) (i : Nat) :
    bucketAt (b.setBucket key f) i =
      if slotOf key b.bucketCount = i then f (bucketAt b.buckets i) else bucketAt b.buckets i :=
  bucketAt_modify _ _ _ _ (slotOf_lt key hb.pos)

lemma entries_append_perm (hb : b.WellFormed) (key : Int32) (value : α) :
    (b.append key value).entries.Perm ((key, value) :: b.entries) :=
  flatten_modify_perm _ _ _ (slotOf_lt key hb.pos)

lemma entries_grow_perm : b.grow.entries.Perm b.entries :=
  flatten_fill_perm (Nat.succ_pos _) _

lemma bucketCount_grow : b.grow.bucketCount = b.bucketCount * 3 / 2 + 1 := size_fill _

lemma filed_setBucket (hb : b.WellFormed) (key : Int32) (f : Bucket α → Bucket α)
    (hf : ∀ bucket, ∀ e ∈ f bucket, e.1 = key ∨ e.1 ∈ bucket.map Prod.fst) :
    ∀ i, ∀ e ∈ bucketAt (b.setBucket key f) i, slotOf e.1 b.bucketCount = i := by
  intro i e he
  rw [bucketAt_setBucket hb] at he
  by_cases h : slotOf key b.bucketCount = i
  · rw [if_pos h] at he
    rcases hf _ e he with hkey | hmem
    · rw [hkey, h]
    · obtain ⟨old, hold, hfst⟩ := List.mem_map.mp hmem
      rw [← hfst]
      exact hb.filed i old hold
  · rw [if_neg h] at he
    exact hb.filed i e he

lemma filed_grow (i : Nat) :
    ∀ e ∈ bucketAt b.grow.buckets i, slotOf e.1 b.grow.bucketCount = i := by
  intro e he
  rw [bucketCount_grow]
  rw [show b.grow.buckets = fill (fun e => keyBits e.1) (b.bucketCount * 3 / 2 + 1) b.entries from
    rfl, bucketAt_fill (Nat.succ_pos _), List.mem_filter] at he
  simpa [slotOf] using he.2

/-- The new key joins keys it differs from. -/
lemma nodup_cons (hb : b.WellFormed) {key : Int32} (value : α) (h : ¬(b.get? key).isSome) :
    (((key, value) :: b.entries).map Prod.fst).Nodup := by
  rw [Option.not_isSome_iff_eq_none, get?_eq hb, Bucket.get?_eq_none_iff] at h
  exact List.nodup_cons.mpr ⟨h, hb.nodup⟩

/-- The entries after the insertion of a new key, with or without growth. -/
lemma entries_insert_perm (hb : b.WellFormed) {key : Int32} (value : α)
    (h : ¬(b.get? key).isSome) :
    (b.insert key value).entries.Perm ((key, value) :: b.entries) := by
  rw [insert_of_absent key value h]
  split
  · exact entries_grow_perm.trans (entries_append_perm hb key value)
  · exact entries_append_perm hb key value

lemma map_fst_entries_insert {key : Int32} (value : α)
    (h : (b.get? key).isSome) :
    (b.insert key value).entries.map Prod.fst = b.entries.map Prod.fst := by
  rw [insert_of_present key value h]
  refine map_flatten_modify _ _ fun e => ?_
  by_cases he : e.1 = key <;> simp [he]

lemma size_insert (key : Int32) (value : α) :
    (b.insert key value).size = if (b.get? key).isSome then b.size else b.size + 1 := by
  by_cases h : (b.get? key).isSome
  · rw [insert_of_present key value h, if_pos h]
  · rw [insert_of_absent key value h, if_neg h]
    split <;> rfl

lemma filed_insert (hb : b.WellFormed) (key : Int32) (value : α) :
    ∀ i, ∀ e ∈ bucketAt (b.insert key value).buckets i,
      slotOf e.1 (b.insert key value).bucketCount = i := by
  by_cases h : (b.get? key).isSome
  · rw [insert_of_present key value h, bucketCount_setBucket]
    refine filed_setBucket hb key _ fun bucket e he => .inr ?_
    rw [← Bucket.map_fst_replace bucket key value]
    exact List.mem_map_of_mem he
  · rw [insert_of_absent key value h]
    split
    · exact filed_grow
    · rw [append, bucketCount_setBucket]
      refine filed_setBucket hb key _ fun bucket e he => ?_
      rcases List.mem_append.mp he with he | he
      · exact .inr (List.mem_map_of_mem he)
      · exact .inl (by rw [List.mem_singleton.mp he])

/-- Half as many buckets more, and one, have room for an entry more. -/
lemma threshold_grow {n : Nat} (hn : 0 < n) : threshold n + 1 ≤ threshold (n * 3 / 2 + 1) := by
  unfold threshold
  rcases Nat.eq_or_lt_of_le hn with rfl | h
  · decide
  · omega

lemma load_insert (hb : b.WellFormed) (key : Int32) (value : α) :
    0 < (b.insert key value).bucketCount ∧
      (b.insert key value).size ≤ threshold (b.insert key value).bucketCount := by
  have hpos := hb.pos
  have hload := hb.load
  by_cases h : (b.get? key).isSome
  · rw [insert_of_present key value h, bucketCount_setBucket]
    exact ⟨hpos, hload⟩
  · rw [insert_of_absent key value h]
    have hcount : (b.append key value).bucketCount = b.bucketCount := bucketCount_setBucket _ _ _
    split
    · -- one entry more than fitted, in half as many buckets more
      rw [bucketCount_grow, hcount]
      refine ⟨Nat.succ_pos _, ?_⟩
      exact Nat.le_trans (Nat.succ_le_succ hload) (threshold_grow hpos)
    · next hfit =>
      rw [hcount]
      exact ⟨hpos, by rw [hcount] at hfit; omega⟩

/-- **Insertion keeps a map well-formed.** -/
theorem WellFormed.insert (hb : b.WellFormed) (key : Int32) (value : α) :
    (b.insert key value).WellFormed where
  pos := (load_insert hb key value).1
  filed := filed_insert hb key value
  nodup := by
    by_cases h : (b.get? key).isSome
    · rw [map_fst_entries_insert value h]
      exact hb.nodup
    · exact ((entries_insert_perm hb value h).map Prod.fst).nodup_iff.mpr (nodup_cons hb value h)
  size_eq := by
    rw [size_insert]
    by_cases h : (b.get? key).isSome
    · have := congrArg List.length (map_fst_entries_insert value h)
      rw [List.length_map, List.length_map] at this
      rw [if_pos h, hb.size_eq, this]
    · rw [if_neg h, hb.size_eq, (entries_insert_perm hb value h).length_eq, List.length_cons]
  load := (load_insert hb key value).2

/-- **An insertion is seen at its own key and at no other.** -/
theorem get?_insert (hb : b.WellFormed) (key : Int32) (value : α) (key' : Int32) :
    (b.insert key value).get? key' = if key' = key then some value else b.get? key' := by
  by_cases h : (b.get? key).isSome
  · -- only the bucket of the key changes, and there only its entry
    rw [insert_of_present key value h]
    show Bucket.get? (bucketAt (b.setBucket key (·.replace key value))
      (slotOf key' (Builder.bucketCount ⟨_, b.size⟩))) key' = _
    rw [bucketCount_setBucket, bucketAt_setBucket hb]
    by_cases hslot : slotOf key b.bucketCount = slotOf key' b.bucketCount
    · rw [if_pos hslot, Bucket.get?_replace, ← hslot]
      have hhere : (Bucket.get? (bucketAt b.buckets (slotOf key b.bucketCount)) key).isSome := h
      rw [hhere, hslot]
      simp only [and_true]
      rfl
    · have hne : key' ≠ key := fun he => hslot (by rw [he])
      rw [if_neg hslot, if_neg hne]
      rfl
  · rw [get?_eq (hb.insert key value),
      ← Bucket.get?_perm (nodup_cons hb value h) (entries_insert_perm hb value h).symm,
      Bucket.get?_cons, get?_eq hb]
    simp only [eq_comm]

end Builder

end TextTypes.IntMap
