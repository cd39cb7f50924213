import TextTypes.Text.Literal
import TextTypes.Proofs.Text.Numerals

/-!
Source literals are read back.

Every piece of a literal shows where it ends: a number by the character behind it, the values of an
array by their count, which stands in front of them. So whatever follows a literal, its heading and
its values can be told from the text.
-/

namespace TextTypes.Text

/-- Texts up to the first of a character that they do not have. -/
lemma append_cons_inj {stop : Char} {s t r r' : List Char} (hs : stop ∉ s) (ht : stop ∉ t)
    (h : s ++ stop :: r = t ++ stop :: r') : s = t ∧ r = r' := by
  induction s generalizing t with
  | nil =>
    cases t with
    | nil => exact ⟨rfl, (List.cons.inj h).2⟩
    | cons d t => exact absurd ((List.cons.inj h).1 ▸ List.mem_cons_self) ht
  | cons c s ih =>
    obtain ⟨hc, hs'⟩ := List.ne_and_not_mem_of_not_mem_cons hs
    cases t with
    | nil => exact absurd (List.cons.inj h).1.symm hc
    | cons d t =>
      obtain ⟨rfl, htail⟩ := List.cons.inj h
      obtain ⟨rfl, hrest⟩ := ih hs' (List.ne_and_not_mem_of_not_mem_cons ht).2 htail
      exact ⟨rfl, hrest⟩

namespace Literal

/-! ### Values -/

section Values

variable {e e' : Element} {v w : Nat} {vs ws : List Nat} {r r' : List Char}

/-- A value with the comma behind it. -/
def item (e : Element) (v : Nat) : List Char :=
  ' ' :: '0' :: 'x' :: (hex e.digits v).toList ++ [',']

lemma toList_line (e : Element) (values : List Nat) :
    (line e values).toList = ' ' :: ' ' :: ' ' :: (values.flatMap (item e) ++ ['\n']) := by
  have hitem : item e = fun v => ' ' :: '0' :: 'x' :: ((hex e.digits v).toList ++ [',']) := rfl
  simp [line, hitem, String.toList_join, List.flatMap_map]

lemma item_append_inj (h : item e v ++ r = item e' w ++ r') : v = w ∧ r = r' := by
  have hcomma : ∀ width n, ',' ∉ (hex width n).toList := fun width n hmem =>
    absurd (mem_hex hmem) (by decide)
  simp only [item, List.cons_append, List.append_assoc, List.nil_append, List.cons.injEq,
    true_and] at h
  obtain ⟨hnumber, hrest⟩ := append_cons_inj (hcomma _ _) (hcomma _ _) h
  exact ⟨hex_inj (String.toList_inj.mp hnumber), hrest⟩

/-- As many values on both sides. -/
lemma items_append_inj (hlength : vs.length = ws.length)
    (h : vs.flatMap (item e) ++ r = ws.flatMap (item e') ++ r') : vs = ws ∧ r = r' := by
  induction vs generalizing ws with
  | nil =>
    rw [List.eq_nil_of_length_eq_zero hlength.symm] at h ⊢
    exact ⟨rfl, h⟩
  | cons v vs ih =>
    obtain ⟨w, ws, rfl⟩ := List.exists_cons_of_length_eq_add_one hlength.symm
    rw [List.flatMap_cons, List.flatMap_cons, List.append_assoc, List.append_assoc] at h
    obtain ⟨rfl, htail⟩ := item_append_inj h
    obtain ⟨rfl, hrest⟩ := ih (Nat.succ.inj hlength) htail
    exact ⟨rfl, hrest⟩

lemma line_append_inj (hlength : vs.length = ws.length)
    (h : (line e vs).toList ++ r = (line e' ws).toList ++ r') : vs = ws ∧ r = r' := by
  simp only [toList_line, List.cons_append, List.append_assoc, List.nil_append, List.cons.injEq,
    true_and] at h
  obtain ⟨rfl, hrest⟩ := items_append_inj hlength h
  exact ⟨rfl, (List.cons.inj hrest).2⟩

/-- Lines of the same number of values. -/
lemma lines_append_inj (n fuel : Nat) (hfuel : vs.length ≤ fuel) (hlength : vs.length = ws.length)
    (h : ((chunks n fuel vs).flatMap fun c => (line e c).toList) ++ r =
      ((chunks n fuel ws).flatMap fun c => (line e' c).toList) ++ r') :
    vs = ws ∧ r = r' := by
  induction fuel generalizing vs ws with
  | zero =>
    have hvs := List.eq_nil_of_length_eq_zero (Nat.le_zero.mp hfuel)
    rw [hvs] at hlength
    exact ⟨hvs.trans (List.eq_nil_of_length_eq_zero hlength.symm).symm, h⟩
  | succ fuel ih =>
    cases vs with
    | nil =>
      rw [List.eq_nil_of_length_eq_zero hlength.symm] at h ⊢
      exact ⟨rfl, h⟩
    | cons v vs =>
      obtain ⟨w, ws, rfl⟩ := List.exists_cons_of_length_eq_add_one hlength.symm
      simp only [List.length_cons, Nat.add_right_cancel_iff] at hlength hfuel
      simp only [chunks, List.flatMap_cons, List.append_assoc] at h
      obtain ⟨hline, hrest⟩ := line_append_inj (by simp [hlength]) h
      obtain ⟨rfl, htake⟩ := List.cons.inj hline
      obtain ⟨hdrop, hrest⟩ := ih (by rw [List.length_drop]; omega) (by simp [hlength]) hrest
      rw [← List.take_append_drop n vs, htake, hdrop, List.take_append_drop]
      exact ⟨rfl, hrest⟩

end Values

/-! ### Sections -/

/-- One literal: an array or a mask. The label stands in front of the heading. -/
inductive Section
  | array (heading : String) (e : Element) (values : List Nat)
  | mask (heading : String) (n : Nat)

namespace Section

def text (label : String) : Section → String
  | .array heading e values => Literal.array (label ++ heading) e values
  | .mask heading n => label ++ heading ++ ": u64 = 0x" ++ hex 16 n ++ ";\n"

def heading : Section → String
  | .array heading _ _ => heading
  | .mask heading _ => heading

/-- What stands behind the colon. -/
def body : Section → List Char
  | .array _ e values => ' ' :: '[' :: (e.name.toList ++ ';' :: ' ' ::
      ((toString values.length).toList ++ ']' :: ' ' :: '=' :: ' ' :: '[' :: '\n' ::
        ((chunks 7 values.length values).flatMap (fun c => (line e c).toList) ++ [']', ';', '\n'])))
  | .mask _ n => ' ' :: 'u' :: '6' :: '4' :: ' ' :: '=' :: ' ' :: '0' :: 'x' ::
      ((hex 16 n).toList ++ [';', '\n'])

/-- The numbers in a literal. -/
def values : Section → List Nat
  | .array _ _ values => values
  | .mask _ n => [n]

/-- What is read back of a literal. -/
def entry (s : Section) : String × List Nat := (s.heading, s.values)

/-- The heading of a literal ends at its first colon, and the name of an element type at its first
semicolon. -/
inductive Plain : Section → Prop
  | array {heading : String} {e : Element} {values : List Nat} (h : ':' ∉ heading.toList)
      (he : ';' ∉ e.name.toList) : Plain (.array heading e values)
  | mask {heading : String} {n : Nat} (h : ':' ∉ heading.toList) : Plain (.mask heading n)

lemma Plain.colon {s : Section} (h : s.Plain) : ':' ∉ s.heading.toList := by
  cases h with
  | array h _ => exact h
  | mask h => exact h

variable {s t : Section} {label : String} {r r' : List Char}

lemma toList_text (label : String) (s : Section) :
    (s.text label).toList = label.toList ++ (s.heading.toList ++ ':' :: s.body) := by
  cases s with
  | array heading e values =>
    simp [text, body, Section.heading, Literal.array, String.toList_join, List.flatMap_map]
  | mask heading n => simp [text, body, Section.heading]

lemma body_array_inj {h h' : String} {e e' : Element} {vs ws : List Nat}
    (he : ';' ∉ e.name.toList) (he' : ';' ∉ e'.name.toList)
    (heq : (array h e vs).body ++ r = (array h' e' ws).body ++ r') :
    vs = ws ∧ r = r' := by
  simp only [body, List.cons_append, List.append_assoc, List.nil_append, List.cons.injEq,
    true_and] at heq
  obtain ⟨-, hcount⟩ := append_cons_inj he he' heq
  have hbracket : ∀ n : Nat, ']' ∉ (toString n).toList := fun n hmem =>
    absurd (isDigit_of_mem_toString hmem) (by decide)
  obtain ⟨hlength, hlines⟩ := append_cons_inj (hbracket _) (hbracket _) (List.cons.inj hcount).2
  have hlength := toString_inj (String.toList_inj.mp hlength)
  rw [← hlength] at hlines
  simp only [List.cons.injEq, true_and] at hlines
  obtain ⟨hvalues, hrest⟩ := lines_append_inj 7 vs.length (Nat.le_refl _) hlength hlines
  exact ⟨hvalues, by simpa using hrest⟩

lemma body_mask_inj {h h' : String} {m n : Nat}
    (heq : (mask h m).body ++ r = (mask h' n).body ++ r') : m = n ∧ r = r' := by
  have hsemi : ∀ n, ';' ∉ (hex 16 n).toList := fun n hmem => absurd (mem_hex hmem) (by decide)
  simp only [body, List.cons_append, List.append_assoc, List.nil_append, List.cons.injEq,
    true_and] at heq
  obtain ⟨hnumber, hrest⟩ := append_cons_inj (hsemi _) (hsemi _) heq
  exact ⟨hex_inj (String.toList_inj.mp hnumber), (List.cons.inj hrest).2⟩

/-- Whatever follows two literals, equal texts have equal headings and numbers. -/
lemma text_append_inj (hs : s.Plain) (ht : t.Plain)
    (h : (s.text label).toList ++ r = (t.text label).toList ++ r') :
    s.entry = t.entry ∧ r = r' := by
  simp only [toList_text, List.append_assoc, List.cons_append, List.append_cancel_left_eq] at h
  obtain ⟨hheading, hbody⟩ := append_cons_inj hs.colon ht.colon h
  have hvalues : s.values = t.values ∧ r = r' := by
    cases hs with
    | array _ he =>
      cases ht with
      | array _ he' => exact body_array_inj he he' hbody
      | mask => simp [body] at hbody
    | mask =>
      cases ht with
      | array => simp [body] at hbody
      | mask =>
        obtain ⟨rfl, hrest⟩ := body_mask_inj hbody
        exact ⟨rfl, hrest⟩
  exact ⟨Prod.ext (String.toList_inj.mp hheading) hvalues.1, hvalues.2⟩

end Section

/-- The text of some literals, one after the other. -/
def textAll (label : String) (ss : List Section) : String :=
  String.join (ss.map (Section.text label))

/-- **Literals are read back**: under one label, equal texts have equal headings and numbers. -/
theorem textAll_inj {label : String} {ss ts : List Section} (hss : ∀ s ∈ ss, s.Plain)
    (hts : ∀ t ∈ ts, t.Plain) (h : textAll label ss = textAll label ts) :
    ss.map Section.entry = ts.map Section.entry := by
  have hlist : ss.flatMap (fun s => (s.text label).toList) =
      ts.flatMap fun t => (t.text label).toList := by
    have htext := congrArg String.toList h
    rwa [textAll, textAll, String.toList_join, String.toList_join, List.flatMap_map,
      List.flatMap_map] at htext
  clear h
  have hne : ∀ s : Section, (s.text label).toList ≠ [] := fun s => by simp [Section.toList_text]
  induction ss generalizing ts with
  | nil =>
    cases ts with
    | nil => rfl
    | cons t ts => exact absurd (List.append_eq_nil_iff.mp hlist.symm).1 (hne t)
  | cons s ss ih =>
    cases ts with
    | nil => exact absurd (List.append_eq_nil_iff.mp hlist).1 (hne s)
    | cons t ts =>
      obtain ⟨hs, hss⟩ := List.forall_mem_cons.mp hss
      obtain ⟨ht, hts⟩ := List.forall_mem_cons.mp hts
      obtain ⟨hentry, hrest⟩ := Section.text_append_inj hs ht hlist
      rw [List.map_cons, List.map_cons, hentry, ih hss hts hrest]

/-! ### Headings -/

/-- The numbers of all literals under a heading. -/
def numbersAt (heading : String) (ss : List Section) : List Nat :=
  (ss.filter (·.heading = heading)).flatMap Section.values

variable {heading : String}

@[simp] lemma numbersAt_nil : numbersAt heading [] = [] := rfl

@[simp] lemma numbersAt_append (ss ts : List Section) :
    numbersAt heading (ss ++ ts) = numbersAt heading ss ++ numbersAt heading ts := by
  rw [numbersAt, List.filter_append, List.flatMap_append, numbersAt, numbersAt]

@[simp] lemma numbersAt_cons (s : Section) (ss : List Section) :
    numbersAt heading (s :: ss) =
      (if s.heading = heading then s.values else []) ++ numbersAt heading ss := by
  by_cases h : s.heading = heading <;> simp [numbersAt, h]

/-- Under one label, equal texts have equal numbers under every heading. -/
theorem numbersAt_eq_of_textAll {label : String} {ss ts : List Section} (hss : ∀ s ∈ ss, s.Plain)
    (hts : ∀ t ∈ ts, t.Plain) (h : textAll label ss = textAll label ts) (heading : String) :
    numbersAt heading ss = numbersAt heading ts := by
  have hentries := textAll_inj hss hts h
  have hread : ∀ us : List Section, numbersAt heading us =
      ((us.map Section.entry).filter (·.1 = heading)).flatMap Prod.snd := fun us => by
    rw [List.filter_map, List.flatMap_map]
    rfl
  rw [hread, hentries, ← hread]

end Literal

end TextTypes.Text
