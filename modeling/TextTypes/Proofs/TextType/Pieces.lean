import Mathlib.Tactic.Common
import TextTypes.TextType.Basic

/-!
Reading a text piece by piece.

A reading asks the scan of the converter as it goes along, and so does a conversion. Both ask in
the same way: what a reading emits can be told from the pieces that the conversion puts together.
-/

namespace TextTypes.TextType

open TextTypes.Unicode

variable (t : TextType)

/-- The emissions of the pieces of a text with `offset` characters in front of it. -/
def emissions (offset : Nat) : (inRun : Bool) → List Converter.Piece → List Emission
  | _, [] => []
  | inRun, .replaced _ _ replacement :: rest =>
    replacement.map .write ++ emissions offset (inRun && replacement.isEmpty) rest
  | inRun, .kept i c :: rest =>
    if isBlank c then t.emitBlank inRun c (offset + i) ++ emissions offset true rest
    else t.emit c (offset + i) :: emissions offset false rest

lemma emissionsFrom_eq (offset : Nat) (s : Converter.Scan) (inRun : Bool) (skip index : Nat)
    (text : List Char) :
    t.emissionsFrom offset s inRun skip index text =
      t.emissions offset inRun (t.converter.piecesFrom s skip index text) := by
  induction text generalizing s inRun skip index with
  | nil => cases skip <;> rfl
  | cons c rest ih =>
    cases skip with
    | succ skip => exact ih s inRun skip (index + 1)
    | zero =>
      rw [emissionsFrom, Converter.piecesFrom]
      rcases s.for? t.converter index c.toNat with ⟨_ | ⟨replacement, n⟩, s'⟩
      · simp only [emissions, ih]
      · simp only [emissions, ih]

/-- **A reading follows the pieces of the conversion**: at every place both get the same answer
from the scan. -/
theorem emissionsOf_eq (offset : Nat) (text : List Char) :
    t.emissionsOf offset text = t.emissions offset false (t.converter.pieces text) :=
  t.emissionsFrom_eq offset _ false 0 0 text

section Pieces

variable {t} {offset i : Nat} {inRun : Bool} {pieces : List Converter.Piece}

lemma emissions_subset_cons (offset : Nat) (inRun : Bool) (piece : Converter.Piece)
    (rest : List Converter.Piece) :
    ∃ next, t.emissions offset next rest ⊆ t.emissions offset inRun (piece :: rest) := by
  cases piece with
  | replaced j source r => exact ⟨_, List.subset_append_right _ _⟩
  | kept j c =>
    rw [emissions]
    split
    · exact ⟨true, List.subset_append_right _ _⟩
    · exact ⟨false, List.subset_cons_self _ _⟩

/-- A visible character that stays in place is put to the test. -/
lemma emit_mem_emissions {c : Char} (h : .kept i c ∈ pieces) (hc : isBlank c = false) :
    t.emit c (offset + i) ∈ t.emissions offset inRun pieces := by
  induction pieces generalizing inRun with
  | nil => cases h
  | cons piece rest ih =>
    rcases List.mem_cons.mp h with rfl | hrest
    · rw [emissions, hc]
      exact List.mem_cons_self
    · obtain ⟨next, hsub⟩ := t.emissions_subset_cons offset inRun piece rest
      exact hsub (ih hrest)

/-- Every character of a replacement is written. -/
lemma write_mem_of_replaced {source r : List Char} {c : Char} (h : .replaced i source r ∈ pieces)
    (hc : c ∈ r) : .write c ∈ t.emissions offset inRun pieces := by
  induction pieces generalizing inRun with
  | nil => cases h
  | cons piece rest ih =>
    rcases List.mem_cons.mp h with rfl | hrest
    · exact List.mem_append_left _ (List.mem_map_of_mem hc)
    · obtain ⟨next, hsub⟩ := t.emissions_subset_cons offset inRun piece rest
      exact hsub (ih hrest)

end Pieces

end TextTypes.TextType
