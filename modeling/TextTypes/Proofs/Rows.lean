import Mathlib.Data.List.Flatten
import Mathlib.Data.List.Induction
import TextTypes.Proofs.Buckets

/-!
Lists in one array.

The items of all lists lie one after the other, and a table of 32-bit words says where each list
begins and, last, where a further one would. A word wraps around: a list is read back from its
place as long as there are fewer items than words. A list may also be added with its number and
its end checked, so that it is refused rather than read back as another.
-/

namespace TextTypes

open TextTypes.Buckets

/-- Lists one after the other, with the place where each begins and the end of all. -/
structure Rows (α : Type) where
  starts : Array UInt32 := #[0]
  items : Array α := #[]

namespace Rows

variable {α : Type}

def size (r : Rows α) : Nat := r.starts.size - 1

/-- Puts a list behind the others. The start of the next one is cut to a word. -/
def push (r : Rows α) (row : List α) : Rows α where
  starts := r.starts.push (.ofNat (r.items.size + row.length))
  items := r.items ++ row

/-- Puts a list behind the others with its number, if words hold the number and the new end. -/
def push? (r : Rows α) (row : List α) : Option (UInt32 × Rows α) :=
  if r.size < UInt32.size ∧ r.items.size + row.length < UInt32.size then
    some (.ofNat r.size, r.push row)
  else none

/-- The items from one start to the next, if they are there. -/
def get? (r : Rows α) (i : Nat) : Option (List α) := do
  let start ← r.starts[i]?
  let stop ← r.starts[i + 1]?
  if start ≤ stop ∧ stop.toNat ≤ r.items.size then
    some (r.items.extract start.toNat stop.toNat).toList
  else none

def ofLists (ls : List (List α)) : Rows α := ls.foldl push {}

/-- Whether words hold the numbers of the lists and the end of their items. -/
def Fits (ls : List (List α)) : Prop :=
  ls.length ≤ UInt32.size ∧ ls.flatten.length < UInt32.size

instance (ls : List (List α)) : Decidable (Fits ls) := inferInstanceAs (Decidable (_ ∧ _))

variable {ls ls' : List (List α)} {l : List α}

lemma fits_nil : Fits ([] : List (List α)) := ⟨Nat.zero_le _, Nat.zero_lt_succ _⟩

/-- Fewer lists fit, in whatever order. -/
lemma Fits.of_subperm (h : Fits ls') (hsub : ls.Subperm ls') : Fits ls := by
  obtain ⟨kept, hperm, hkept⟩ := hsub
  have hlength := hkept.length_le
  have hitems := hkept.flatten.length_le
  rw [hperm.length_eq] at hlength
  rw [hperm.flatten.length_eq] at hitems
  exact ⟨Nat.le_trans hlength h.1, Nat.lt_of_le_of_lt hitems h.2⟩

/-! ### What lies where -/

lemma ofLists_concat (ls : List (List α)) (l : List α) :
    ofLists (ls ++ [l]) = (ofLists ls).push l := by
  simp [ofLists]

lemma toList_items (ls : List (List α)) : (ofLists ls).items.toList = ls.flatten := by
  induction ls using List.reverseRecOn with
  | nil => rfl
  | append_singleton ls l ih => simp [ofLists_concat, push, ih]

lemma size_items (ls : List (List α)) : (ofLists ls).items.size = ls.flatten.length := by
  rw [← Array.length_toList, toList_items]

lemma toList_starts (ls : List (List α)) :
    (ofLists ls).starts.toList = (Buckets.starts (ls.map List.length)).map UInt32.ofNat := by
  induction ls using List.reverseRecOn with
  | nil => rfl
  | append_singleton ls l ih =>
    rw [ofLists_concat, push, Array.toList_push, ih, size_items, List.map_append,
      List.map_singleton, starts_concat, List.map_append, List.length_flatten]
    rfl

lemma size_ofLists (ls : List (List α)) : (ofLists ls).size = ls.length := by
  rw [size, ← Array.length_toList, toList_starts, List.length_map, length_starts, List.length_map,
    Nat.add_sub_cancel]

/-- Where there are fewer items than words, no start has wrapped around. -/
lemma exists_start (h : ls.flatten.length < UInt32.size) {i : Nat} (hi : i ≤ ls.length) :
    ∃ start : UInt32, (ofLists ls).starts[i]? = some start ∧
      start.toNat = (ls.take i).flatten.length := by
  have hle : (ls.take i).flatten.length ≤ ls.flatten.length :=
    (List.take_sublist i ls).flatten.length_le
  refine ⟨.ofNat (ls.take i).flatten.length, ?_, UInt32.toNat_ofNat_of_lt' (by omega)⟩
  rw [← Array.getElem?_toList, toList_starts, List.getElem?_map, getElem?_starts, List.length_map,
    if_pos hi, ← List.map_take, ← List.length_flatten]
  rfl

/-- **A list is read back from its place**, and nothing from a place behind the last one. -/
theorem get?_ofLists (h : ls.flatten.length < UInt32.size) (i : Nat) :
    (ofLists ls).get? i = ls[i]? := by
  by_cases hi : i < ls.length
  · have hsplit : ls.flatten = (ls.take i).flatten ++ (ls[i] ++ (ls.drop (i + 1)).flatten) := by
      rw [← List.flatten_cons, ← List.drop_eq_getElem_cons hi, ← List.flatten_append,
        List.take_append_drop]
    obtain ⟨start, hstart, hbegin⟩ := exists_start h (Nat.le_of_lt hi)
    obtain ⟨stop, hstop, hend⟩ := exists_start h hi
    rw [List.take_succ_eq_append_getElem hi, List.flatten_append, List.length_append,
      List.flatten_singleton, ← hbegin] at hend
    have hinside : start ≤ stop ∧ stop.toNat ≤ (ofLists ls).items.size := by
      rw [UInt32.le_iff_toNat_le, size_items, hend, hsplit, List.length_append, List.length_append,
        hbegin]
      omega
    rw [get?, hstart, hstop]
    simp only [Option.bind_eq_bind, Option.bind_some]
    rw [if_pos hinside, Array.toList_extract, toList_items, List.extract_eq_take_drop, hend,
      Nat.add_sub_cancel_left, hsplit, hbegin, List.drop_left, List.take_left,
      List.getElem?_eq_getElem hi]
  · have hout : (ofLists ls).starts[i + 1]? = none := by
      rw [Array.getElem?_eq_none_iff, ← Array.length_toList, toList_starts, List.length_map,
        length_starts, List.length_map]
      omega
    rw [get?, hout, List.getElem?_eq_none (Nat.not_lt.mp hi)]
    cases (ofLists ls).starts[i]? <;> rfl

/-- The empty list begins and ends where the third one begins. -/
example : (ofLists [[7, 8], [], [9]]).starts = #[0, 2, 2, 3] := rfl

/-- **A list is refused exactly if it does not fit.** -/
theorem push?_ofLists (ls : List (List α)) (l : List α) :
    (ofLists ls).push? l =
      if Fits (ls ++ [l]) then some (.ofNat ls.length, ofLists (ls ++ [l])) else none := by
  have hfits : Fits (ls ++ [l]) ↔ (ofLists ls).size < UInt32.size ∧
      (ofLists ls).items.size + l.length < UInt32.size := by
    rw [size_ofLists, size_items, Fits, List.length_append, List.flatten_append,
      List.length_append, List.flatten_singleton]
    rfl
  rw [push?, ofLists_concat, size_ofLists]
  simp only [hfits, size_ofLists]

end Rows

end TextTypes
