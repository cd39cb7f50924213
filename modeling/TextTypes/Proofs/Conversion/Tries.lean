import Mathlib.Tactic.Common
import TextTypes.Conversion.Trie

/-!
A trie is a finite map from texts.

An insertion changes the value of its own text and of no other. Below a node without children
there is no text at all.
-/

namespace TextTypes.Conversion.Trie

variable {α : Type}

lemma find?_cons (t : Trie α) (c : Char) (rest : List Char) :
    t.find? (c :: rest) = (t.child? c).bind (·.find? rest) := by
  show ((t.child? c).bind (·.descend? rest)).bind value = _
  rw [Option.bind_assoc]
  rfl

lemma child?_empty (c : Char) : (empty : Trie α).child? c = none := rfl

lemma find?_empty (key : List Char) : (empty : Trie α).find? key = none := by
  cases key with
  | nil => rfl
  | cons c rest => rw [find?_cons, child?_empty, Option.bind_none]

lemma child?_of_isLeaf {t : Trie α} (h : t.isLeaf = true) (c : Char) : t.child? c = none := by
  unfold child?
  rw [List.isEmpty_iff.mp h]
  rfl

lemma child?_node (v : Option α) (children : List (Char × Trie α)) (c : Char) :
    (node v children).child? c = (children.find? (·.1 == c)).map Prod.snd := rfl

lemma find?_setChild (c : Char) (u : Trie α) (children : List (Char × Trie α)) (d : Char) :
    ((setChild c u children).find? (·.1 == d)).map Prod.snd =
      if d = c then some u else (children.find? (·.1 == d)).map Prod.snd := by
  induction children with
  | nil =>
    by_cases h : d = c
    · simp [setChild, h]
    · simp [setChild, h, Ne.symm h]
  | cons e children ih =>
    obtain ⟨x, w⟩ := e
    unfold setChild
    by_cases hx : x = c
    · subst hx
      by_cases h : d = x
      · simp [h]
      · simp [h, Ne.symm h]
    · rw [if_neg hx, List.find?_cons, List.find?_cons]
      by_cases h : x = d
      · subst h
        simp [hx]
      · simp [beq_eq_false_iff_ne.mpr h, ih]

lemma child?_insert_cons (t : Trie α) (c : Char) (rest : List Char) (a : α) (d : Char) :
    (t.insert (c :: rest) a).child? d =
      if d = c then some (((t.child? c).getD empty).insert rest a) else t.child? d := by
  rw [insert, child?_node, find?_setChild]
  rfl

/-- **An insertion is seen at its own text and at no other.** -/
theorem find?_insert (t : Trie α) (key : List Char) (a : α) (key' : List Char) :
    (t.insert key a).find? key' = if key' = key then some a else t.find? key' := by
  induction key generalizing t key' with
  | nil =>
    cases key' with
    | nil => rfl
    | cons d rest' => rw [find?_cons, find?_cons]; rfl
  | cons c rest ih =>
    cases key' with
    | nil =>
      rw [if_neg (by simp)]
      rfl
    | cons d rest' =>
      rw [find?_cons, child?_insert_cons, find?_cons]
      by_cases hd : d = c
      · subst hd
        rw [if_pos rfl, Option.bind_some, ih]
        by_cases hr : rest' = rest
        · simp [hr]
        · rw [if_neg hr, if_neg (by simp [hr])]
          cases t.child? d with
          | none => exact find?_empty rest'
          | some u => rfl
      · rw [if_neg hd, if_neg (by simp [hd])]

/-! ### Nodes reached by a text -/

lemma descend?_append (t : Trie α) (s u : List Char) :
    t.descend? (s ++ u) = (t.descend? s).bind (·.descend? u) := by
  induction s generalizing t with
  | nil => rfl
  | cons d s ih =>
    show (t.child? d).bind (·.descend? (s ++ u)) =
      ((t.child? d).bind (·.descend? s)).bind (·.descend? u)
    cases t.child? d with
    | none => rfl
    | some v => exact ih v

lemma descend?_concat (t : Trie α) (s : List Char) (c : Char) :
    t.descend? (s ++ [c]) = (t.descend? s).bind (·.child? c) := by
  rw [descend?_append]
  refine Option.bind_congr fun u _ => ?_
  show (u.child? c).bind some = _
  cases u.child? c <;> rfl

lemma find?_eq_bind (t : Trie α) (s : List Char) : t.find? s = (t.descend? s).bind value := rfl

lemma find?_append (t : Trie α) (s u : List Char) :
    t.find? (s ++ u) = (t.descend? s).bind (·.find? u) := by
  rw [find?_eq_bind, descend?_append, Option.bind_assoc]
  rfl

end TextTypes.Conversion.Trie
