import TextTypes.Messages
import TextTypes.Proofs.Text.Numerals
import TextTypes.Proofs.Text.Templates

/-!
Messages are filled in at once.

What an error puts into a template has no part in a placeholder that is filled in later: a number
has no braces, and in what is shown of a code point a brace is never followed by the first letter of
a name.
-/

namespace TextTypes

open TextTypes.Text TextTypes.Text.Template TextTypes.Unicode

/-! ### Numbers -/

/-- A number has no part in a placeholder whose name has no digits. -/
lemma inert_toString {name : String} (hname : ((placeholder name).all fun c => !c.isDigit) = true)
    (n : Nat) : Inert name (toString n).toList where
  spares := by
    refine spares_of_notMem fun h => ?_
    have hdigit := isDigit_of_mem_toString h
    cases hdigit
  exists_head := by
    obtain ⟨c, rest, htext⟩ := List.exists_cons_of_ne_nil (toList_toString_ne_nil n)
    refine ⟨c, rest, htext, fun h => ?_⟩
    have hdigit : c.isDigit = true := isDigit_of_mem_toString (htext ▸ List.mem_cons_self)
    simpa [hdigit] using List.all_eq_true.mp hname c h

/-! ### Code points -/

/-- What is shown of a character between quotes holds no beginning of a placeholder for a name of
other letters than those of numerals. -/
lemma spares_escape {name : String} (hquote : (name.toList ++ ['\x7d']).head? ≠ some '\'')
    (hhex : (hexDigits.all fun d => (name.toList ++ ['\x7d']).head? != some d) = true) (c : Char) :
    Spares (placeholder name) ((escape c).toList ++ ['\'']) := by
  have hplain : ∀ s : String, '\x7b' ∉ s.toList →
      Spares (placeholder name) (s.toList ++ ['\'']) := fun s hs =>
    spares_of_notMem (by simp [hs])
  unfold escape escapeChar
  split_ifs with _ _ _ _ _ hquotes
  · exact hplain "\\0" (by decide)
  · exact hplain "\\t" (by decide)
  · exact hplain "\\r" (by decide)
  · exact hplain "\\n" (by decide)
  · exact hplain "\\\\" (by decide)
  · have hc : c = '\'' ∨ c = '"' := by simpa using hquotes
    refine hplain (String.ofList ['\\', c]) ?_
    rw [String.toList_ofList]
    rcases hc with rfl | rfl <;> decide
  · -- the brace of a numbered character has a digit behind it
    obtain ⟨d, digits, hdigits⟩ := List.exists_cons_of_ne_nil (toList_hex_ne_nil 1 c.toNat)
    have hmem : ∀ e ∈ d :: digits, e ∈ hexDigits := fun e he => mem_hex (hdigits ▸ he)
    have hopen : '\x7b' ∉ (d :: digits) ++ ['\x7d', '\''] := fun h => by
      rcases List.mem_append.mp h with h | h
      · exact absurd (hmem _ h) (by decide)
      · exact absurd h (by decide)
    have hhead : (name.toList ++ ['\x7d']).head? ≠ some d := by
      simpa using List.all_eq_true.mp hhex d (hmem d List.mem_cons_self)
    have htext : (escapeNumber c).toList ++ ['\''] =
        ['\\', 'u'] ++ '\x7b' :: d :: (digits ++ ['\x7d', '\'']) := by
      simp [escapeNumber, String.toList_append, hdigits]
    rw [htext]
    exact .append (by decide) (.cons_open hhead (spares_of_notMem hopen))
  · rw [String.toList_ofList]
    by_cases hc : c = '\x7b'
    · subst hc
      exact .cons_open hquote (spares_of_notMem (by decide))
    · exact spares_of_notMem (by simp [Ne.symm hc])

lemma upperHex_notMem {width n : Nat} : '\x7b' ∉ (upperHex width n).toList := fun h =>
  absurd (mem_upperHex h) (by decide)

lemma toList_mark : "U+".toList = ['U', '+'] := by decide

lemma inert_codePoint (cp : Nat) : Inert "index" (Text.codePoint cp).toList where
  spares := by
    rw [Text.codePoint, String.toList_append, String.toList_append]
    have hnumber : '\x7b' ∉ "U+".toList ++ (upperHex 4 cp).toList := by
      rw [List.mem_append]
      exact not_or.mpr ⟨by decide, upperHex_notMem⟩
    refine .append hnumber ?_
    rcases CodePoint.scalar? cp with _ | c
    · exact .nil
    · simp only [String.toList_append, List.append_assoc]
      exact .append (by decide) (spares_escape (by decide) (by decide) c)
  exists_head := by
    rw [Text.codePoint, String.toList_append, String.toList_append, toList_mark,
      List.append_assoc, List.cons_append]
    exact ⟨'U', _, rfl, by decide⟩

lemma inert_unit (unit : Nat) : Inert "index" ("U+" ++ upperHex 4 unit).toList where
  spares := by
    rw [String.toList_append]
    exact .append (by decide) (spares_of_notMem upperHex_notMem)
  exists_head := by
    rw [String.toList_append, toList_mark, List.cons_append]
    exact ⟨'U', _, rfl, by decide⟩

/-! ### Messages -/

/-- The names of the parameters of an error hold no braces. -/
lemma ParseError.name_of_mem_parameters (e : ParseError) :
    ∀ p ∈ e.parameters, '\x7b' ∉ p.1.toList := by
  have hnames : ∀ p ∈ e.parameters,
      p.1 ∈ ["min", "actual", "max", "code_point", "index", "pattern"] := by
    cases e with
    | belowMin bound => cases bound <;> simp [parameters]
    | aboveMax bound => cases bound <;> simp [parameters]
    | _ => simp [parameters]
  have hplain : ∀ name ∈ ["min", "actual", "max", "code_point", "index", "pattern"],
      '\x7b' ∉ name.toList := by decide
  exact fun p hp => hplain p.1 (hnames p hp)

/-- No value of an error has a part in a placeholder that comes later. -/
lemma ParseError.pairwise_parameters (e : ParseError) :
    e.parameters.Pairwise fun p q => Inert q.1 p.2.toList := by
  cases e with
  | tooShort min actual =>
    have hinert : Inert "actual" (toString min).toList := inert_toString (by decide) min
    exact List.pairwise_pair.mpr hinert
  | tooLong max => exact List.pairwise_singleton _ _
  | invalid fault cp index => exact List.pairwise_pair.mpr (inert_codePoint cp)
  | loneSurrogate unit index => exact List.pairwise_pair.mpr (inert_unit unit)
  | belowMin bound => cases bound <;> exact List.pairwise_singleton _ _
  | aboveMax bound => cases bound <;> exact List.pairwise_singleton _ _
  | patternMismatch pattern => exact List.pairwise_singleton _ _
  | validatorFailed => exact List.Pairwise.nil

/-- **A message is its template with all parameters of the error put in at once.** -/
theorem Messages.render_eq (m : Messages) (e : ParseError) :
    m.render e = String.ofList (fillAll e.parameters (m.template e.kind).toList) := by
  rw [render, fill_eq_fillAll e.name_of_mem_parameters e.pairwise_parameters]

end TextTypes
