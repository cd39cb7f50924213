import Mathlib.Data.List.Perm.Basic
import TextTypes.Proofs.IntMap.Histories

/-!
What the entries of a map list.

The entries of a builder list what it maps: every key that has a value comes once, with its value,
and the size counts them. Freezing reorders the entries and leaves out the key of a free slot. A
row of slots never holds that key, but buckets may hold it: such a map finds the key and counts it,
and does not list it.
-/

namespace TextTypes.IntMap

variable {α : Type}

/-- Entries that list what is found: each key with its value once, and as many as are counted. -/
structure Lists (entries : List (Int32 × α)) (find : Int32 → Option α) (size : Nat) : Prop where
  nodup : (entries.map Prod.fst).Nodup
  mem_iff : ∀ key value, (key, value) ∈ entries ↔ find key = some value
  length_eq : entries.length = size

namespace Lists

variable {entries stored : List (Int32 × α)} {find : Int32 → Option α} {size : Nat}

lemma perm (h : Lists stored find size) (hperm : entries.Perm stored) :
    Lists entries find size where
  nodup := (hperm.map Prod.fst).nodup_iff.mpr h.nodup
  mem_iff key value := hperm.mem_iff.trans (h.mem_iff key value)
  length_eq := hperm.length_eq.trans h.length_eq

lemma mem_keys_iff (h : Lists stored find size) {key : Int32} :
    key ∈ stored.map Prod.fst ↔ (find key).isSome := by
  rw [Option.isSome_iff_exists, List.mem_map]
  constructor
  · rintro ⟨⟨k, value⟩, hmem, rfl⟩
    exact ⟨value, (h.mem_iff k value).mp hmem⟩
  · rintro ⟨value, hvalue⟩
    exact ⟨_, (h.mem_iff key value).mpr hvalue, rfl⟩

/-- Without the entry of a key the others are listed. -/
lemma erase (h : Lists stored find size) (key : Int32) :
    Lists (stored.filter (·.1 ≠ key)) (Function.update find key none)
      (size - if (find key).isSome then 1 else 0) where
  nodup := ((List.filter_sublist).map Prod.fst).nodup h.nodup
  mem_iff key' value := by
    rw [List.mem_filter, h.mem_iff, decide_eq_true_eq]
    by_cases hkey : key' = key
    · simp [hkey]
    · simp [hkey]
  length_eq := by
    -- the key comes once or not at all
    have hcount : stored.countP (·.1 = key) = if (find key).isSome then 1 else 0 := by
      rw [← if_congr h.mem_keys_iff rfl rfl, ← h.nodup.count, List.count, List.countP_map]
      exact List.countP_congr fun e _ => by simp
    have hsplit := List.length_eq_countP_add_countP (l := stored) (fun e => e.1 = key)
    rw [← List.countP_eq_length_filter, ← hcount, ← h.length_eq]
    simp only [decide_not, Bool.decide_eq_true] at hsplit ⊢
    omega

/-- Entries that leave out one key list what is found exactly if that key has no value. -/
lemma of_filter (h : Lists stored find size) {key : Int32}
    (hperm : entries.Perm (stored.filter (·.1 ≠ key))) {keys : Finset Int32}
    (hkeys : ∀ key, (find key).isSome ↔ key ∈ keys) :
    Lists entries (Function.update find key none) (size - if key ∈ keys then 1 else 0) ∧
      (Lists entries find size ↔ key ∉ keys) := by
  have hothers : Lists entries (Function.update find key none)
      (size - if key ∈ keys then 1 else 0) := by
    simpa only [hkeys] using (h.erase key).perm hperm
  refine ⟨hothers, fun hlists hmem => ?_, fun hnone => ?_⟩
  · obtain ⟨value, hvalue⟩ := Option.isSome_iff_exists.mp ((hkeys key).mpr hmem)
    have hout := hperm.mem_iff.mp ((hlists.mem_iff key value).mpr hvalue)
    simp at hout
  · have hfind : find key = none := by
      rwa [← Option.not_isSome_iff_eq_none, hkeys]
    rwa [if_neg hnone, Nat.sub_zero, Function.update_eq_self_iff.mpr hfind.symm] at hothers

end Lists

/-! ### Builders -/

lemma Builder.lists {b : Builder α} (hb : b.WellFormed) : Lists b.entries b.get? b.size where
  nodup := hb.nodup
  mem_iff _ _ := (Builder.get?_eq_some_iff hb).symm
  length_eq := hb.size_eq.symm

/-! ### Rows of slots -/

section Slots

variable {n : Nat} {slots : Array (Int32 × α)}

/-- What the slots in use hold. -/
def inUse (slots : Array (Int32 × α)) : List (Int32 × α) :=
  slots.toList.filter (·.1 ≠ freeKey)

/-- An entry that is put into a free slot joins those in use. -/
lemma inUse_place_perm {e : Int32 × α} (he : e.1 ≠ freeKey)
    (hfree : slots[slotOf e.1 n]?.map Prod.fst = some freeKey) :
    (inUse (place n slots e)).Perm (e :: inUse slots) := by
  obtain ⟨old, hold, hkey⟩ := Option.map_eq_some_iff.mp hfree
  rw [← Array.getElem?_toList, List.getElem?_eq_some_iff] at hold
  obtain ⟨hlt, hold⟩ := hold
  have hnew := (List.set_perm_cons_eraseIdx hlt e).filter (·.1 ≠ freeKey)
  have hbefore := (List.getElem_cons_eraseIdx_perm hlt).filter (·.1 ≠ freeKey)
  rw [List.filter_cons_of_pos (by simpa using he)] at hnew
  rw [hold, List.filter_cons_of_neg (by simpa using hkey)] at hbefore
  unfold inUse place
  rw [Array.toList_setIfInBounds]
  exact hnew.trans (hbefore.cons e)

/-- Entries with free slots of their own join those in use. -/
lemma inUse_foldl_place_perm {entries : List (Int32 × α)}
    (hkeys : freeKey ∉ entries.map Prod.fst) (hslots : (entries.map (slotOf ·.1 n)).Nodup)
    (hfree : ∀ e ∈ entries, slots[slotOf e.1 n]?.map Prod.fst = some freeKey) :
    (inUse (entries.foldl (place n) slots)).Perm (entries ++ inUse slots) := by
  induction entries generalizing slots with
  | nil => exact .refl _
  | cons e entries ih =>
    rw [List.map_cons, List.mem_cons, not_or] at hkeys
    rw [List.map_cons, List.nodup_cons] at hslots
    have hstep := inUse_place_perm (Ne.symm hkeys.1) (hfree e List.mem_cons_self)
    -- the slots of the others are still free
    have hrest : ∀ e' ∈ entries,
        (place n slots e)[slotOf e'.1 n]?.map Prod.fst = some freeKey := by
      intro e' he'
      have hne : slotOf e.1 n ≠ slotOf e'.1 n := fun h =>
        hslots.1 (List.mem_map.mpr ⟨e', he', h.symm⟩)
      rw [place, Array.getElem?_setIfInBounds_ne hne]
      exact hfree e' (List.mem_cons_of_mem e he')
    -- the entry of this step moves to its place before the others
    exact (ih hkeys.2 hslots.2 hrest).trans ((hstep.append_left entries).trans List.perm_middle)

variable [Inhabited α]

lemma inUse_placeAll_perm {entries : List (Int32 × α)} (hn : 0 < n)
    (hkeys : freeKey ∉ entries.map Prod.fst) (hslots : (entries.map (slotOf ·.1 n)).Nodup) :
    (inUse (placeAll entries n)).Perm entries := by
  have hnone : inUse (Array.replicate n (freeKey, (default : α))) = [] := by simp [inUse]
  have hplaced : (inUse (placeAll entries n)).Perm
      (entries ++ inUse (Array.replicate n (freeKey, default))) :=
    inUse_foldl_place_perm hkeys hslots fun e _ => by simp [slotOf_lt e.1 hn]
  rwa [hnone, List.append_nil] at hplaced

end Slots

/-! ### Frozen maps -/

/-- Freezing reorders the entries and leaves out the key of a free slot. -/
lemma entries_freeze_perm [Inhabited α] (b : Builder α) :
    b.freeze.entries.Perm (b.entries.filter (·.1 ≠ freeKey)) := by
  rcases h : slotCount? (b.entries.map Prod.fst) with _ | n
  · rw [freeze_of_buckets h]
    exact .refl _
  · obtain ⟨hfree, hn, hslots⟩ := slotCount?_eq_some h
    rw [List.map_map] at hslots
    have hall : b.entries.filter (·.1 ≠ freeKey) = b.entries :=
      List.filter_eq_self.mpr fun e he => by
        simpa using fun hkey => hfree (List.mem_map.mpr ⟨e, he, hkey⟩)
    rw [freeze_of_slots h, hall]
    exact inUse_placeAll_perm hn hfree hslots

end TextTypes.IntMap

namespace TextTypes.SequenceMap.Builder

open TextTypes.IntMap

variable {α : Type} {b : Builder α}

lemma lists (hb : b.WellFormed) : Lists b.entries b.get? b.size where
  nodup := nodup_entries hb
  mem_iff _ _ := (get?_eq_some_iff hb).symm
  length_eq := by
    rw [entries, List.length_map]
    exact hb.index.size_eq.symm

/-- The index of a frozen map is frozen from the repacked one, and so are the entries. -/
lemma entries_freeze_perm (b : Builder α) :
    b.freeze.entries.Perm (b.repack.entries.filter (·.1 ≠ freeKey)) := by
  have hindex := IntMap.entries_freeze_perm b.repack.index
  show (List.map _ b.repack.index.freeze.entries).Perm _
  rw [entries, List.filter_map]
  exact hindex.map _

end TextTypes.SequenceMap.Builder

namespace TextTypes.IntMap

variable {α β : Type} [Inhabited α]

/-- **What the entries of a map list.** After any insertions the entries of a builder list what it
maps: every key that has a value comes once with it, and the size counts them. The entries of a
frozen map, in slots or in buckets, list all of this but the key of a free slot, so that they list
what the map maps exactly if that key was never inserted. So it is for maps to sequences. -/
theorem lists_entries (n : Nat) (entries : List (Int32 × α))
    (sequences : List (Int32 × List β)) :
    let b := Builder.ofEntries n entries
    let m := b.freeze
    let sb := SequenceMap.Builder.ofEntries sequences
    let sm := sb.freeze
    (Lists b.entries b.get? b.size ∧
        Lists m.entries (Function.update m.get? freeKey none)
          (m.size - if freeKey ∈ (finmapOf entries).keys then 1 else 0) ∧
        (Lists m.entries m.get? m.size ↔ freeKey ∉ (finmapOf entries).keys)) ∧
      Lists sb.entries sb.get? sb.size ∧
        Lists sm.entries (Function.update sm.get? freeKey none)
          (sm.size - if freeKey ∈ (finmapOf sequences).keys then 1 else 0) ∧
        (Lists sm.entries sm.get? sm.size ↔ freeKey ∉ (finmapOf sequences).keys) := by
  intro b m sb sm
  have hb := Builder.wellFormed_ofEntries n entries
  have hsb := SequenceMap.Builder.wellFormed_ofEntries sequences
  have hkeys := Builder.isSome_get?_ofEntries n entries
  have hkeys' := SequenceMap.Builder.isSome_get?_ofEntries sequences
  -- a frozen map finds what its builder finds, and a repacked builder what it was packed from
  have hget : m.get? = b.get? := funext (get?_freeze hb)
  have hget' : sm.get? = sb.get? := funext (SequenceMap.Builder.get?_freeze hsb)
  have hrepack : sb.repack.get? = sb.get? := funext (SequenceMap.Builder.get?_repack hsb)
  have hrepacked := SequenceMap.Builder.lists (SequenceMap.Builder.wellFormed_repack hsb)
  rw [hrepack] at hrepacked
  rw [hget, hget']
  exact ⟨⟨Builder.lists hb, (Builder.lists hb).of_filter (entries_freeze_perm b) hkeys⟩,
    SequenceMap.Builder.lists hsb,
    hrepacked.of_filter (SequenceMap.Builder.entries_freeze_perm sb) hkeys'⟩

/-- A map finds the key of a free slot and counts it, and has no entries. -/
theorem not_lists_freeKey :
    let m := (Builder.ofEntries 11 [(freeKey, (7 : Int32))]).freeze
    m.isOptimal = false ∧ m.get? freeKey = some 7 ∧ m.size = 1 ∧ m.entries = [] ∧
      ¬Lists m.entries m.get? m.size := by
  intro m
  have hentries : m.entries = [] := by decide +kernel
  refine ⟨by decide +kernel, by decide +kernel, by decide +kernel, hentries, fun h => ?_⟩
  have hlength := h.length_eq
  rw [hentries] at hlength
  exact absurd hlength (by decide +kernel)

end TextTypes.IntMap
