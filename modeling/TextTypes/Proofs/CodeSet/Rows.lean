import Mathlib.Algebra.Group.Action.Defs
import Mathlib.Algebra.Order.BigOperators.Group.List
import Mathlib.Algebra.Order.Ring.Nat
import TextTypes.Proofs.CodeSet.Built
import TextTypes.Proofs.Rows

/-!
Sets within 32 bits.

The blocks of a set lie in one array and their pieces in another, with a word for the place where
each bucket and each block begins. There are no more pieces than code points, so that no word
wraps around, and every bucket, block and slot is read back from its place.
-/

namespace TextTypes.CodeSet

open TextTypes.Range TextTypes.Buckets

namespace Layout

/-- The blocks of each bucket. -/
def bucketRows : Layout → List (List Block)
  | .hashed buckets => buckets.toList
  | _ => []

/-- The pieces of each block or slot. A free slot has none. -/
def pieceRows : Layout → List (List Span)
  | .ranged _ => []
  | .hashed buckets => buckets.toList.flatten.map (·.pieces.toList)
  | .optimal slots => slots.toList.map fun slot => (slot.map (·.pieces.toList)).getD []

end Layout

section OfSpans

variable {spans : List Span} (h : Layout.Storable spans)

include h

lemma length_ofSpans_le : (Block.ofSpans spans).length ≤ 0x1100 := by
  have hascending := h.gapped.ascending
  have hnodup : ((Block.ofSpans spans).map Block.key).Nodup :=
    (List.pairwise_map.mpr (Block.keys_ofSpans hascending)).imp Nat.ne_of_lt
  rw [← List.length_map (f := Block.key)]
  refine length_le_of_nodup_of_lt hnodup fun key hkey => ?_
  obtain ⟨b, hb, rfl⟩ := List.mem_map.mp hkey
  obtain ⟨offset, hcover⟩ := Block.exists_covers_of_mem hascending hb
  have hlast := h.le_last _
    ((Block.exists_covers_ofSpans hascending).mp ⟨b, hb, rfl, hcover⟩).2
  unfold CodePoint.last at hlast
  omega

lemma length_pieces_le {b : Block} (hb : b ∈ Block.ofSpans spans) :
    b.pieces.toList.length ≤ 0x100 := by
  have hascending := h.gapped.ascending
  have hnodup : (b.pieces.toList.map Span.lo).Nodup := by
    refine List.pairwise_map.mpr ((Block.ascending_pieces hascending hb).imp fun {p q} hlt => ?_)
    exact Nat.ne_of_lt (Nat.lt_of_le_of_lt p.lo_le_hi hlt)
  rw [← List.length_map (f := Span.lo)]
  refine length_le_of_nodup_of_lt hnodup fun lo hlo => ?_
  obtain ⟨p, hp, rfl⟩ := List.mem_map.mp hlo
  exact ((Block.exists_covers_ofSpans hascending).mp ⟨b, hb, rfl, p, hp, p.lo_mem⟩).1

/-- There are no more pieces than code points. -/
lemma length_flatMap_pieces_le :
    ((Block.ofSpans spans).flatMap (·.pieces.toList)).length ≤ CodePoint.last + 1 := by
  have hblocks := length_ofSpans_le h
  rw [List.length_flatMap]
  have hsum := List.sum_le_card_nsmul
    ((Block.ofSpans spans).map fun b => b.pieces.toList.length) 0x100 fun n hn => by
      obtain ⟨b, hb, rfl⟩ := List.mem_map.mp hn
      exact length_pieces_le h hb
  rw [List.length_map, smul_eq_mul] at hsum
  unfold CodePoint.last
  omega

end OfSpans

namespace Layout

/-- A block that goes into a free slot is one more. -/
lemma filterMap_set_perm {slots : List (Option Block)} {i : Nat} (h : slots[i]? = some none)
    (b : Block) : ((slots.set i (some b)).filterMap id).Perm (b :: slots.filterMap id) := by
  obtain ⟨hlt, hfree⟩ := List.getElem?_eq_some_iff.mp h
  have hslots : slots = slots.take i ++ none :: slots.drop (i + 1) := by
    rw [← hfree, ← List.drop_eq_getElem_cons hlt, List.take_append_drop]
  have hrest : slots.filterMap id =
      (slots.take i).filterMap id ++ (slots.drop (i + 1)).filterMap id := by
    conv_lhs => rw [hslots, List.filterMap_append]
    rfl
  rw [List.set_eq_take_append_cons_drop, if_pos hlt, List.filterMap_append, hrest]
  exact List.perm_middle

/-- The slots hold every block once. -/
lemma filterMap_placeAll_perm {blocks : List Block} {slots slots' : Array (Option Block)}
    (h : placeAll blocks slots = some slots') :
    (slots'.toList.filterMap id).Perm (blocks ++ slots.toList.filterMap id) := by
  induction blocks generalizing slots with
  | nil =>
    cases h
    rfl
  | cons c blocks ih =>
    unfold placeAll at h
    rcases hfree : slots[c.key % slots.size]? with _ | _ | d
    · rw [hfree] at h
      cases h
    · rw [hfree] at h
      rw [← Array.getElem?_toList] at hfree
      have hset := (filterMap_set_perm hfree c).append_left blocks
      rw [← Array.toList_setIfInBounds] at hset
      exact ((ih h).trans hset).trans List.perm_middle
    · rw [hfree] at h
      cases h

lemma flatten_slots (slots : List (Option Block)) :
    (slots.map fun slot => (slot.map (·.pieces.toList)).getD []).flatten =
      (slots.filterMap id).flatMap (·.pieces.toList) := by
  induction slots with
  | nil => rfl
  | cons slot slots ih =>
    rw [List.map_cons, List.flatten_cons, ih]
    cases slot <;> rfl

/-- The rows of a layout hold the blocks and their pieces. -/
lemma length_rows_le {spans : List Span} {l : Layout} (h : Stores spans l) :
    l.bucketRows.flatten.length ≤ (Block.ofSpans spans).length ∧
      l.pieceRows.flatten.length ≤ ((Block.ofSpans spans).flatMap (·.pieces.toList)).length := by
  cases h with
  | ranged => exact ⟨Nat.zero_le _, Nat.zero_le _⟩
  | hashed n =>
    have hperm : (fill Block.key (max n 1) (Block.ofSpans spans)).toList.flatten.Perm
        (Block.ofSpans spans) := flatten_fill_perm (by omega) _
    refine ⟨hperm.length_eq.le, ?_⟩
    rw [hash, pieceRows, ← List.flatMap_def]
    exact (hperm.flatMap_right _).length_eq.le
  | optimal hplace =>
    obtain ⟨slots, hslots, rfl⟩ := Option.map_eq_some_iff.mp hplace
    have hperm := filterMap_placeAll_perm hslots
    rw [Array.toList_replicate, List.filterMap_replicate_of_none rfl, List.append_nil] at hperm
    refine ⟨Nat.zero_le _, ?_⟩
    rw [pieceRows, flatten_slots]
    exact (hperm.flatMap_right _).length_eq.le

end Layout

/-- **A built set never wraps around**: every bucket, block and slot is read back from its
place. -/
theorem Built.get?_rows {s : CodeSet} (hs : Built s) (i : Nat) :
    (Rows.ofLists s.layout.bucketRows).get? i = s.layout.bucketRows[i]? ∧
      (Rows.ofLists s.layout.pieceRows).get? i = s.layout.pieceRows[i]? := by
  obtain ⟨hbuckets, hpieces⟩ := Layout.length_rows_le hs.wellFormed.stores
  have hblocks := length_ofSpans_le hs.wellFormed.storable
  have hbound := length_flatMap_pieces_le hs.wellFormed.storable
  constructor
  · exact Rows.get?_ofLists (by unfold UInt32.size; omega) i
  · unfold CodePoint.last at hbound
    exact Rows.get?_ofLists (by unfold UInt32.size; omega) i

end TextTypes.CodeSet
