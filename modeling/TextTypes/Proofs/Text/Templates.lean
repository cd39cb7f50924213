import Mathlib.Data.List.Infix
import TextTypes.Text.Template

/-!
Filling a template step by step, and at once.

The parameters are put in one after the other, so a later one is looked for in a text that already
holds the values of the earlier ones. The outcome is as if all had been put in at once when no value
has a part in a placeholder that comes later: none begins in it, and none reaches into it from the
left.
-/

namespace TextTypes.Text.Template

/-- The parameter whose placeholder begins a text. -/
def hole? (params : List (String × String)) (s : List Char) : Option (String × String) :=
  params.find? fun p => (placeholder p.1).isPrefixOf s

/-- The template with the placeholders of all parameters replaced at once, from left to right. What
has been put in is not read again, and all other text stays. -/
def fillAll (params : List (String × String)) : List Char → List Char
  | [] => []
  | c :: rest =>
    match hole? params (c :: rest) with
    | some (name, value) =>
      value.toList ++ fillAll params (rest.drop ((placeholder name).length - 1))
    | none => c :: fillAll params rest
termination_by template => template.length
decreasing_by all_goals (simp only [List.length_drop, List.length_cons]; omega)

variable {params : List (String × String)} {p : String × String} {c : Char} {rest : List Char}

lemma hole?_eq_none {s : List Char} :
    hole? params s = none ↔ ∀ p ∈ params, ¬placeholder p.1 <+: s := by
  simp only [hole?, List.find?_eq_none, List.isPrefixOf_iff_prefix]

lemma mem_of_hole? {s : List Char} (h : hole? params s = some p) :
    p ∈ params ∧ placeholder p.1 <+: s :=
  ⟨List.mem_of_find?_eq_some h, List.isPrefixOf_iff_prefix.mp (List.find?_some h :)⟩

lemma hole?_cons_of_begins {s : List Char} (h : placeholder p.1 <+: s) :
    hole? (p :: params) s = some p :=
  List.find?_cons_of_pos (List.isPrefixOf_iff_prefix.mpr h)

lemma hole?_cons_of_not {s : List Char} (h : ¬placeholder p.1 <+: s) :
    hole? (p :: params) s = hole? params s :=
  List.find?_cons_of_neg (by rwa [List.isPrefixOf_iff_prefix])

lemma hole?_congr {s t : List Char}
    (h : ∀ p ∈ params, placeholder p.1 <+: s ↔ placeholder p.1 <+: t) :
    hole? params s = hole? params t := by
  induction params with
  | nil => rfl
  | cons p params ih =>
    obtain ⟨hp, hparams⟩ := List.forall_mem_cons.mp h
    by_cases hprefix : placeholder p.1 <+: s
    · rw [hole?_cons_of_begins hprefix, hole?_cons_of_begins (hp.mp hprefix)]
    · rw [hole?_cons_of_not hprefix, hole?_cons_of_not (mt hp.mpr hprefix), ih hparams]

lemma fillAll_nil (params : List (String × String)) : fillAll params [] = [] := by rw [fillAll]

lemma fillAll_of_hole (h : hole? params (c :: rest) = some p) :
    fillAll params (c :: rest) =
      p.2.toList ++ fillAll params (rest.drop ((placeholder p.1).length - 1)) := by
  rw [fillAll, h]

lemma fillAll_of_no_hole (h : hole? params (c :: rest) = none) :
    fillAll params (c :: rest) = c :: fillAll params rest := by
  rw [fillAll, h]

lemma fillAll_of_no_params (template : List Char) : fillAll [] template = template := by
  induction template with
  | nil => exact fillAll_nil []
  | cons c rest ih => rw [fillAll_of_no_hole rfl, ih]

/-! ### One parameter -/

section Replace

variable {target value : List Char}

lemma replaceFrom_eq (skip : Nat) (s : List Char) :
    replaceFrom target value skip s = replace target value (s.drop skip) := by
  induction s generalizing skip with
  | nil => cases skip <;> rfl
  | cons c rest ih =>
    cases skip with
    | zero => rfl
    | succ skip => exact ih skip

lemma replace_cons_of_begins (h : target <+: c :: rest) :
    replace target value (c :: rest) =
      value ++ replace target value (rest.drop (target.length - 1)) := by
  rw [replace, replaceFrom, if_pos (List.isPrefixOf_iff_prefix.mpr h), replaceFrom_eq]

lemma replace_cons_of_not (h : ¬target <+: c :: rest) :
    replace target value (c :: rest) = c :: replace target value rest := by
  rw [replace, replaceFrom, if_neg (by rwa [List.isPrefixOf_iff_prefix])]
  rfl

end Replace

/-! ### Values that have no part in a placeholder -/

/-- A text begins nowhere in another one, whatever stands behind that. -/
inductive Spares (target : List Char) : List Char → Prop
  | nil : Spares target []
  | cons {c : Char} {rest : List Char} :
    (∀ behind, ¬target <+: c :: rest ++ behind) → Spares target rest → Spares target (c :: rest)

/-- A value that has no part in a placeholder: it holds no beginning of one, and its first character
is in none. -/
structure Inert (name : String) (value : List Char) : Prop where
  spares : Spares (placeholder name) value
  exists_head : ∃ c rest, value = c :: rest ∧ c ∉ placeholder name

lemma eq_open_of_begins {name : String} {c : Char} {rest : List Char}
    (h : placeholder name <+: c :: rest) : c = '\x7b' := by
  rw [placeholder, List.cons_append, List.cons_prefix_cons] at h
  exact h.1.symm

lemma Spares.append {name : String} {value rest : List Char} (hvalue : '\x7b' ∉ value)
    (hrest : Spares (placeholder name) rest) : Spares (placeholder name) (value ++ rest) := by
  induction value with
  | nil => exact hrest
  | cons c value ih =>
    obtain ⟨hc, hvalue⟩ := List.ne_and_not_mem_of_not_mem_cons hvalue
    exact .cons (fun behind h => hc (eq_open_of_begins h).symm) (ih hvalue)

lemma spares_of_notMem {name : String} {value : List Char} (h : '\x7b' ∉ value) :
    Spares (placeholder name) value := by
  have happend : Spares (placeholder name) (value ++ []) := Spares.append h .nil
  rwa [List.append_nil] at happend

/-- A brace with another character behind it than a placeholder has. -/
lemma Spares.cons_open {name : String} {d : Char} {rest : List Char}
    (hd : (name.toList ++ ['\x7d']).head? ≠ some d)
    (hrest : Spares (placeholder name) (d :: rest)) :
    Spares (placeholder name) ('\x7b' :: d :: rest) := by
  refine .cons (fun behind h => hd ?_) hrest
  rw [placeholder, List.cons_append, List.cons_append, List.cons_prefix_cons] at h
  rcases hbody : name.toList ++ ['\x7d'] with _ | ⟨e, body⟩
  · simp at hbody
  · rw [hbody, List.cons_append, List.cons_prefix_cons] at h
    rw [h.2.1]
    rfl

lemma fillAll_append {value : List Char}
    (h : ∀ p ∈ params, Spares (placeholder p.1) value) (rest : List Char) :
    fillAll params (value ++ rest) = value ++ fillAll params rest := by
  induction value with
  | nil => rfl
  | cons c value ih =>
    have hnone : hole? params (c :: (value ++ rest)) = none := by
      refine hole?_eq_none.mpr fun p hp => ?_
      cases h p hp with
      | cons hc _ => exact hc rest
    have hvalue : ∀ p ∈ params, Spares (placeholder p.1) value := fun p hp => by
      cases h p hp with
      | cons _ hrest => exact hrest
    rw [List.cons_append, fillAll_of_no_hole hnone, ih hvalue, List.cons_append]

/-! ### One parameter after the other -/

section Behind

variable (name : String) {value : List Char}

/-- Where a text without braces stands after a replacement it has stood before, and what follows it
is what has followed it, replaced. -/
lemma prefix_replace_iff {w : List Char} (hopen : '\x7b' ∉ w)
    (hvalue : ∃ c rest, value = c :: rest ∧ c ∉ w) (s : List Char) :
    (w <+: replace (placeholder name) value s ↔ w <+: s) ∧
      (w <+: s → (replace (placeholder name) value s).drop w.length =
        replace (placeholder name) value (s.drop w.length)) := by
  induction w generalizing s with
  | nil => exact ⟨by simp, fun _ => rfl⟩
  | cons d w ih =>
    obtain ⟨hd, hw⟩ := List.ne_and_not_mem_of_not_mem_cons hopen
    obtain ⟨v, vs, rfl, hv⟩ := hvalue
    obtain ⟨hvd, hvw⟩ := List.ne_and_not_mem_of_not_mem_cons hv
    rcases s with _ | ⟨c, rest⟩
    · exact ⟨Iff.rfl, fun h => by simp at h⟩
    · by_cases hprefix : placeholder name <+: c :: rest
      · -- neither the brace nor the value begins the text
        have hc := eq_open_of_begins hprefix
        rw [replace_cons_of_begins hprefix, List.cons_append, List.cons_prefix_cons,
          List.cons_prefix_cons]
        have hne : d ≠ c := fun h => hd (by rw [h, hc])
        exact ⟨iff_of_false (fun h => hvd h.1.symm) fun h => hne h.1, fun h => absurd h.1 hne⟩
      · obtain ⟨hiff, hdrop⟩ := ih hw ⟨v, vs, rfl, hvw⟩ rest
        rw [replace_cons_of_not hprefix, List.cons_prefix_cons, List.cons_prefix_cons, hiff]
        exact ⟨Iff.rfl, fun h => hdrop h.2⟩

/-- A placeholder in a text with a value put in is one of the text before. -/
lemma placeholder_prefix_iff {other : String} (hother : '\x7b' ∉ other.toList)
    (hinert : Inert other value) (c : Char) (s : List Char) :
    (placeholder other <+: c :: replace (placeholder name) value s ↔
        placeholder other <+: c :: s) ∧
      (placeholder other <+: c :: s →
        (replace (placeholder name) value s).drop ((placeholder other).length - 1) =
          replace (placeholder name) value (s.drop ((placeholder other).length - 1))) := by
  have hopen : '\x7b' ∉ other.toList ++ ['\x7d'] := by simp [hother]
  have hvalue : ∃ c rest, value = c :: rest ∧ c ∉ other.toList ++ ['\x7d'] := by
    obtain ⟨v, vs, heq, hv⟩ := hinert.exists_head
    exact ⟨v, vs, heq, fun h => hv (List.mem_cons_of_mem _ h)⟩
  obtain ⟨hiff, hdrop⟩ := prefix_replace_iff name hopen hvalue s
  simp only [placeholder, List.cons_append, List.cons_prefix_cons, List.length_cons,
    Nat.add_sub_cancel]
  exact ⟨and_congr_right fun _ => hiff, fun h => hdrop h.2⟩

end Behind

/-- The first parameter put in, and then all others at once. -/
lemma fillAll_replace {name value : String} (hnames : ∀ p ∈ params, '\x7b' ∉ p.1.toList)
    (hinert : ∀ p ∈ params, Inert p.1 value.toList) (s : List Char) :
    fillAll params (replace (placeholder name) value.toList s) =
      fillAll ((name, value) :: params) s := by
  induction hlength : s.length using Nat.strongRecOn generalizing s with
  | ind n ih =>
    rcases s with _ | ⟨c, rest⟩
    · rw [fillAll_nil]
      exact fillAll_nil params
    · have hrest : ∀ k, (rest.drop k).length < n := fun k => by
        rw [List.length_drop, ← hlength, List.length_cons]
        omega
      by_cases hprefix : placeholder name <+: c :: rest
      · have hhole : hole? ((name, value) :: params) (c :: rest) = some (name, value) :=
          hole?_cons_of_begins (p := (name, value)) hprefix
        rw [replace_cons_of_begins hprefix, fillAll_append fun p hp => (hinert p hp).spares,
          fillAll_of_hole hhole, ih _ (hrest _) _ rfl]
      · have hbehind := fun (p : String × String) (hp : p ∈ params) =>
          placeholder_prefix_iff name (hnames p hp) (hinert p hp) c rest
        have hsame : hole? params (c :: replace (placeholder name) value.toList rest) =
            hole? params (c :: rest) := hole?_congr fun p hp => (hbehind p hp).1
        have hskip : hole? ((name, value) :: params) (c :: rest) = hole? params (c :: rest) :=
          hole?_cons_of_not hprefix
        rw [replace_cons_of_not hprefix]
        rcases hhole : hole? params (c :: rest) with _ | p
        · rw [fillAll_of_no_hole (hsame.trans hhole), fillAll_of_no_hole (hskip.trans hhole),
            ih _ (hrest 0) rest rfl]
        · obtain ⟨hp, hprefix'⟩ := mem_of_hole? hhole
          rw [fillAll_of_hole (hsame.trans hhole), fillAll_of_hole (hskip.trans hhole),
            (hbehind p hp).2 hprefix', ih _ (hrest _) _ rfl]

/-- **Filling a template step by step fills it at once** when no value has a part in a placeholder
of a later parameter. -/
theorem fill_eq_fillAll (hnames : ∀ p ∈ params, '\x7b' ∉ p.1.toList)
    (hinert : params.Pairwise fun p q => Inert q.1 p.2.toList) (template : List Char) :
    fill params template = fillAll params template := by
  induction params generalizing template with
  | nil => exact (fillAll_of_no_params template).symm
  | cons p params ih =>
    obtain ⟨hfirst, hrest⟩ := List.pairwise_cons.mp hinert
    have hnames' := (List.forall_mem_cons.mp hnames).2
    have hstep := ih hnames' hrest (replace (placeholder p.1) p.2.toList template)
    exact hstep.trans (fillAll_replace hnames' hfirst template)

end TextTypes.Text.Template
