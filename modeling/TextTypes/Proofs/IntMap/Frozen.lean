import TextTypes.IntMap.Basic
import TextTypes.Proofs.IntMap.Entries

/-!
Freezing a map keeps what it maps.

A frozen map is either a row of slots, one for each key, or the buckets it was built with; a
look-up answers as it did before in both forms.
-/

namespace TextTypes.IntMap

open TextTypes.Buckets

variable {α : Type}

/-! ### Rows of slots -/

/-- The search takes the least number of slots that gives every key its own. -/
lemma slotCount?_eq_some_iff {keys : List Int32} {n : Nat} :
    slotCount? keys = some n ↔ freeKey ∉ keys ∧
      IsLeast (freeCounts (keys.map keyBits) (max keys.length 1) (max (keys.length * 4) 1)) n := by
  unfold slotCount?
  by_cases hfree : freeKey ∈ keys
  · rw [if_pos (List.contains_iff_mem.mpr hfree)]
    simp [hfree]
  rw [if_neg (fun h => hfree (List.contains_iff_mem.mp h))]
  by_cases hempty : keys = []
  · -- without keys the window is one slot
    have hone : freeCounts ([] : List Nat) 1 1 = {1} := by
      ext n
      simp [freeCounts, and_comm, Nat.le_antisymm_iff]
    subst hempty
    show some 1 = some n ↔ freeKey ∉ [] ∧ IsLeast (freeCounts [] 1 1) n
    rw [hone, Option.some_inj, and_iff_right List.not_mem_nil]
    exact ⟨fun h => h ▸ isLeast_singleton, fun h => isLeast_singleton.unique h⟩
  · rw [if_neg (fun h => hempty (List.isEmpty_iff.mp h)), least?_eq_some_iff (by omega),
      and_iff_right hfree]

/-- A number of slots that is taken gives every key its own. -/
lemma slotCount?_eq_some {keys : List Int32} {n : Nat} (h : slotCount? keys = some n) :
    freeKey ∉ keys ∧ 0 < n ∧ (keys.map (slotOf · n)).Nodup := by
  obtain ⟨hfree, ⟨⟨hle, -⟩, hslots⟩, -⟩ := slotCount?_eq_some_iff.mp h
  rw [List.map_map] at hslots
  exact ⟨hfree, by omega, hslots⟩

section Slots

variable {n : Nat} {entries : List (Int32 × α)}

/-- Puts an entry at its place. -/
def place (n : Nat) (slots : Array (Int32 × α)) (e : Int32 × α) : Array (Int32 × α) :=
  slots.setIfInBounds (slotOf e.1 n) e

lemma size_foldl_place (slots : Array (Int32 × α)) :
    (entries.foldl (place n) slots).size = slots.size := by
  induction entries generalizing slots with
  | nil => rfl
  | cons e entries ih => rw [List.foldl_cons, ih, place, Array.size_setIfInBounds]

lemma getElem?_foldl_place (hn : 0 < n) (h : (entries.map (slotOf ·.1 n)).Nodup)
    (slots : Array (Int32 × α)) (hs : slots.size = n) (i : Nat) :
    (entries.foldl (place n) slots)[i]? =
      ((entries.find? (slotOf ·.1 n = i)).or slots[i]?) := by
  induction entries generalizing slots with
  | nil => rfl
  | cons e entries ih =>
    rw [List.map_cons, List.nodup_cons] at h
    rw [List.foldl_cons, ih h.2 _ (by rw [place, Array.size_setIfInBounds, hs]), place,
      Array.getElem?_setIfInBounds, List.find?_cons]
    by_cases he : slotOf e.1 n = i
    · -- no later entry takes this place again
      have hnone : entries.find? (slotOf ·.1 n = i) = none := by
        rw [List.find?_eq_none]
        intro e' he' hslot
        rw [decide_eq_true_eq] at hslot
        exact h.1 (List.mem_map.mpr ⟨e', he', by rw [hslot, he]⟩)
      have hlt : i < slots.size := by rw [hs, ← he]; exact slotOf_lt _ hn
      simp [hnone, he, hlt]
    · simp [he]

variable [Inhabited α]

lemma size_placeAll : (placeAll entries n).size = n :=
  (size_foldl_place _).trans Array.size_replicate

/-- Each slot holds the entry it belongs to, or is free. -/
lemma getElem?_placeAll (hn : 0 < n) (h : (entries.map (slotOf ·.1 n)).Nodup) {i : Nat}
    (hi : i < n) :
    (placeAll entries n)[i]? =
      some ((entries.find? (slotOf ·.1 n = i)).getD (freeKey, default)) := by
  have := getElem?_foldl_place hn h (Array.replicate n (freeKey, default)) Array.size_replicate i
  rw [Array.getElem?_replicate, if_pos hi] at this
  refine this.trans ?_
  cases entries.find? (slotOf ·.1 n = i) <;> rfl

end Slots

/-! ### Look-up -/

variable [Inhabited α] {b : Builder α}

lemma freeze_of_slots {n : Nat} (h : slotCount? (b.entries.map Prod.fst) = some n) :
    b.freeze = ⟨.slots (placeAll b.entries n), b.size⟩ := by
  simp only [Builder.freeze, h]

lemma freeze_of_buckets (h : slotCount? (b.entries.map Prod.fst) = none) :
    b.freeze = ⟨.bucketed b.buckets, b.size⟩ := by
  simp only [Builder.freeze, h]

/-- In a row of slots a look-up finds the entry of the key and nothing else. -/
lemma get?_slots_eq_some_iff {n : Nat} {entries : List (Int32 × α)} (hn : 0 < n)
    (hfree : freeKey ∉ entries.map Prod.fst) (h : (entries.map (slotOf ·.1 n)).Nodup)
    (size : Nat) {key : Int32} {value : α} :
    (⟨.slots (placeAll entries n), size⟩ : IntMap α).get? key = some value ↔
      (key, value) ∈ entries := by
  by_cases hkey : key = freeKey
  · subst hkey
    have hout : (freeKey, value) ∉ entries := fun hm => hfree (List.mem_map.mpr ⟨_, hm, rfl⟩)
    simp [get?, hout]
  have hget := getElem?_placeAll hn h (slotOf_lt key hn)
  unfold get?
  simp only [hkey, if_false, size_placeAll]
  rcases hf : entries.find? (slotOf ·.1 n = slotOf key n) with _ | e
  · -- a free slot: no entry has this place
    rw [hf, Option.getD_none] at hget
    rw [List.find?_eq_none] at hf
    have hout : (key, value) ∉ entries := fun hm => hf _ hm (by simp)
    simp [hget, hout, Ne.symm hkey]
  · have hmem := List.mem_of_find?_eq_some hf
    have hslot : slotOf e.1 n = slotOf key n := by simpa using List.find?_some hf
    rw [hf, Option.getD_some] at hget
    rw [hget]
    show (if e.1 = key then some e.2 else none) = some value ↔ _
    constructor
    · intro hv
      by_cases he : e.1 = key
      · rw [if_pos he, Option.some.injEq] at hv
        rw [← he, ← hv]
        exact hmem
      · rw [if_neg he] at hv
        cases hv
    · intro hm
      have he : e = (key, value) := List.inj_on_of_nodup_map h hmem hm hslot
      rw [he, if_pos rfl]

/-- **Freezing keeps what a map maps.** -/
theorem get?_freeze (hb : b.WellFormed) (key : Int32) : b.freeze.get? key = b.get? key := by
  rcases h : slotCount? (b.entries.map Prod.fst) with _ | n
  · rw [freeze_of_buckets h]
    unfold get? Builder.get? Builder.bucketOf
    have hlt : slotOf key b.buckets.size < b.buckets.size := slotOf_lt key hb.pos
    simp [Builder.bucketCount, hlt]
  · obtain ⟨hfree, hn, hslots⟩ := slotCount?_eq_some h
    rw [List.map_map] at hslots
    rw [freeze_of_slots h]
    ext value
    rw [get?_slots_eq_some_iff hn hfree hslots, Builder.get?_eq_some_iff hb]

end TextTypes.IntMap
