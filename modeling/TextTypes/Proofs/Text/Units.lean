import Mathlib.Tactic.Common
import TextTypes.TextType.Basic

/-!
Decoding 16-bit units.

Units that encode a text decode to it. In all others a surrogate without its partner follows some
well-formed units. There is one such place only, since decoding stops there. A type that is given
units either reads the text they encode or names this place.
-/

namespace TextTypes.Text.Units

/-- A surrogate that forms no pair with the units behind it. -/
def Unpaired (u : UInt16) (rest : List UInt16) : Prop :=
  isLow u = true ∨ isHigh u = true ∧ ∀ v ∈ rest.head?, isLow v = false

/-- A surrogate without its partner behind units that encode a text. -/
structure Lone.StandsIn (l : Lone) (units : List UInt16) : Prop where
  before : ∃ s, encode s = units.take l.index
  unit : units[l.index]? = some l.unit
  unpaired : Unpaired l.unit (units.drop (l.index + 1))

/-! ### Single characters -/

lemma isHigh_iff {u : UInt16} : isHigh u = true ↔ 0xD800 ≤ u.toNat ∧ u.toNat ≤ 0xDBFF := by
  simp [isHigh]

lemma isLow_iff {u : UInt16} : isLow u = true ↔ 0xDC00 ≤ u.toNat ∧ u.toNat ≤ 0xDFFF := by
  simp [isLow]

lemma not_isLow_of_isHigh {u : UInt16} (h : isHigh u = true) : isLow u = false := by
  rw [isHigh_iff] at h
  rw [← Bool.not_eq_true, isLow_iff]
  omega

/-- A unit that is no surrogate is a character. -/
lemma toNat_ofNat_unit {u : UInt16} (hhigh : isHigh u = false) (hlow : isLow u = false) :
    (Char.ofNat u.toNat).toNat = u.toNat := by
  have hu := u.toNat_lt
  rw [← Bool.not_eq_true, isHigh_iff] at hhigh
  rw [← Bool.not_eq_true, isLow_iff] at hlow
  have hvalid : u.toNat.isValidChar := by
    unfold Nat.isValidChar
    omega
  rw [Char.ofNat, dif_pos hvalid]
  rfl

lemma encodeChar_ofNat_unit {u : UInt16} (hhigh : isHigh u = false) (hlow : isLow u = false) :
    encodeChar (Char.ofNat u.toNat) = [u] := by
  have hu := u.toNat_lt
  simp only [encodeChar, toNat_ofNat_unit hhigh hlow]
  rw [if_pos (by omega), UInt16.ofNat_toNat]

lemma toNat_join {u v : UInt16} (hhigh : isHigh u = true) (hlow : isLow v = true) :
    (join u v).toNat = 0x10000 + (u.toNat - 0xD800) * 0x400 + (v.toNat - 0xDC00) := by
  rw [isHigh_iff] at hhigh
  rw [isLow_iff] at hlow
  have hvalid :
      (0x10000 + (u.toNat - 0xD800) * 0x400 + (v.toNat - 0xDC00)).isValidChar := by
    unfold Nat.isValidChar
    omega
  rw [join, Char.ofNat, dif_pos hvalid]
  rfl

lemma encodeChar_join {u v : UInt16} (hhigh : isHigh u = true) (hlow : isLow v = true) :
    encodeChar (join u v) = [u, v] := by
  have hn := toNat_join hhigh hlow
  rw [isHigh_iff] at hhigh
  rw [isLow_iff] at hlow
  have hu : 0xD800 + ((join u v).toNat - 0x10000) / 0x400 = u.toNat := by omega
  have hv : 0xDC00 + ((join u v).toNat - 0x10000) % 0x400 = v.toNat := by omega
  simp only [encodeChar]
  rw [if_neg (by omega), hu, hv, UInt16.ofNat_toNat, UInt16.ofNat_toNat]

/-- A character takes one unit that is no surrogate, or a pair that joins to it. -/
lemma encodeChar_cases (c : Char) :
    (∃ u, encodeChar c = [u] ∧ isHigh u = false ∧ isLow u = false ∧ Char.ofNat u.toNat = c) ∨
      ∃ u v, encodeChar c = [u, v] ∧ isHigh u = true ∧ isLow v = true ∧ join u v = c := by
  have hvalid : c.toNat.isValidChar := c.valid
  unfold Nat.isValidChar at hvalid
  by_cases hn : c.toNat ≤ 0xFFFF
  · have hu : (UInt16.ofNat c.toNat).toNat = c.toNat := by
      rw [UInt16.toNat_ofNat']
      omega
    refine .inl ⟨UInt16.ofNat c.toNat, by simp [encodeChar, hn], ?_, ?_, ?_⟩
    · rw [← Bool.not_eq_true, isHigh_iff, hu]
      omega
    · rw [← Bool.not_eq_true, isLow_iff, hu]
      omega
    · rw [hu, Char.ofNat_toNat]
  · have hu : (UInt16.ofNat (0xD800 + (c.toNat - 0x10000) / 0x400)).toNat =
        0xD800 + (c.toNat - 0x10000) / 0x400 := by
      rw [UInt16.toNat_ofNat']
      omega
    have hv : (UInt16.ofNat (0xDC00 + (c.toNat - 0x10000) % 0x400)).toNat =
        0xDC00 + (c.toNat - 0x10000) % 0x400 := by
      rw [UInt16.toNat_ofNat']
      omega
    have hhigh : isHigh (UInt16.ofNat (0xD800 + (c.toNat - 0x10000) / 0x400)) = true := by
      rw [isHigh_iff, hu]
      omega
    have hlow : isLow (UInt16.ofNat (0xDC00 + (c.toNat - 0x10000) % 0x400)) = true := by
      rw [isLow_iff, hv]
      omega
    refine .inr ⟨_, _, by simp [encodeChar, hn], hhigh, hlow, ?_⟩
    rw [← Char.toNat_inj, toNat_join hhigh hlow, hu, hv]
    omega

/-! ### Texts -/

lemma encode_cons (c : Char) (s : List Char) : encode (c :: s) = encodeChar c ++ encode s := rfl

lemma decodeFrom_single {u : UInt16} (hhigh : isHigh u = false) (hlow : isLow u = false)
    (index : Nat) (rest : List UInt16) :
    decodeFrom index (u :: rest) =
      (Char.ofNat u.toNat :: ·) <$> decodeFrom (index + 1) rest := by
  cases rest with
  | nil => simp [decodeFrom, hhigh, hlow, Functor.map, Except.map]
  | cons v rest => simp [decodeFrom, hhigh, hlow]

lemma decodeFrom_pair {u v : UInt16} (hhigh : isHigh u = true) (hlow : isLow v = true)
    (index : Nat) (rest : List UInt16) :
    decodeFrom index (u :: v :: rest) = (join u v :: ·) <$> decodeFrom (index + 2) rest := by
  simp [decodeFrom, hhigh, hlow]

lemma decodeFrom_unpaired {u : UInt16} {rest : List UInt16} (h : Unpaired u rest) (index : Nat) :
    decodeFrom index (u :: rest) = .error ⟨u, index⟩ := by
  cases rest with
  | nil =>
    have hsurrogate : isHigh u = true ∨ isLow u = true := h.symm.imp_left And.left
    simp [decodeFrom, hsurrogate]
  | cons v rest =>
    rcases h with hlow | ⟨hhigh, hnext⟩
    · have hhigh : ¬isHigh u = true := fun hhigh => by
        rw [not_isLow_of_isHigh hhigh] at hlow
        cases hlow
      simp [decodeFrom, hhigh, hlow]
    · simp [decodeFrom, hhigh, hnext v rfl]

/-- The units of a text are read as the text, and the index moves on by their number. -/
lemma decodeFrom_encode_append (s : List Char) (index : Nat) (rest : List UInt16) :
    decodeFrom index (encode s ++ rest) =
      (s ++ ·) <$> decodeFrom (index + (encode s).length) rest := by
  induction s generalizing index with
  | nil =>
    show decodeFrom index rest = (fun t => t) <$> decodeFrom index rest
    cases decodeFrom index rest <;> rfl
  | cons c s ih =>
    rw [encode_cons, List.append_assoc]
    rcases encodeChar_cases c with ⟨u, hc, hhigh, hlow, rfl⟩ | ⟨u, v, hc, hhigh, hlow, rfl⟩
    · rw [hc, List.singleton_append, decodeFrom_single hhigh hlow, ih, List.length_append,
        List.length_singleton, Nat.add_assoc]
      cases decodeFrom (index + (1 + (encode s).length)) rest <;> rfl
    · rw [hc, List.cons_append, List.singleton_append, decodeFrom_pair hhigh hlow, ih,
        List.length_append, List.length_cons, List.length_singleton, Nat.add_assoc]
      cases decodeFrom (index + (2 + (encode s).length)) rest <;> rfl

lemma decode_encode (s : List Char) : decode (encode s) = .ok s := by
  have h := decodeFrom_encode_append s 0 []
  rw [List.append_nil] at h
  rw [decode, h]
  simp [decodeFrom, Functor.map, Except.map]

/-- Any units are those of a text, as far as the first surrogate without its partner. -/
lemma exists_encode (units : List UInt16) :
    ∃ s rest, units = encode s ++ rest ∧ ∀ u rest', rest = u :: rest' → Unpaired u rest' := by
  suffices h : ∀ n, ∀ units : List UInt16, units.length ≤ n → ∃ s rest,
      units = encode s ++ rest ∧ ∀ u rest', rest = u :: rest' → Unpaired u rest' from
    h units.length units (Nat.le_refl _)
  intro n
  induction n with
  | zero =>
    intro units hlen
    obtain rfl := List.length_eq_zero_iff.mp (Nat.le_zero.mp hlen)
    exact ⟨[], [], rfl, fun u rest' h => by cases h⟩
  | succ n ih =>
    intro units hlen
    rcases units with _ | ⟨u, rest⟩
    · exact ⟨[], [], rfl, fun u rest' h => by cases h⟩
    rcases hhigh : isHigh u with _ | _
    · rcases hlow : isLow u with _ | _
      · obtain ⟨s, rest', rfl, hrest⟩ := ih rest (by simpa using hlen)
        refine ⟨Char.ofNat u.toNat :: s, rest', ?_, hrest⟩
        rw [encode_cons, encodeChar_ofNat_unit hhigh hlow]
        rfl
      · exact ⟨[], u :: rest, rfl, fun u' rest' h => by cases h; exact .inl hlow⟩
    · -- a high surrogate opens a pair only if a low one comes next
      rcases rest with _ | ⟨v, rest⟩
      · exact ⟨[], [u], rfl, fun u' rest' h => by cases h; exact .inr ⟨hhigh, by simp⟩⟩
      rcases hlow : isLow v with _ | _
      · refine ⟨[], u :: v :: rest, rfl, fun u' rest' h => ?_⟩
        cases h
        exact .inr ⟨hhigh, by simpa using hlow⟩
      · obtain ⟨s, rest', rfl, hrest⟩ := ih rest (by simp at hlen; omega)
        refine ⟨join u v :: s, rest', ?_, hrest⟩
        rw [encode_cons, encodeChar_join hhigh hlow]
        rfl

variable {units : List UInt16} {l : Lone}

lemma standsIn_append {s : List Char} {u : UInt16} {rest : List UInt16} (h : Unpaired u rest) :
    (⟨u, (encode s).length⟩ : Lone).StandsIn (encode s ++ u :: rest) where
  before := ⟨s, by simp⟩
  unit := by simp
  unpaired := by simpa using h

/-- **Decoding stops at a surrogate without its partner**, and it gives the only one that stands
behind well-formed units. -/
theorem decode_eq_error_iff : decode units = .error l ↔ l.StandsIn units := by
  constructor
  · intro h
    obtain ⟨s, rest, rfl, hrest⟩ := exists_encode units
    rw [decode, decodeFrom_encode_append, Nat.zero_add] at h
    rcases rest with _ | ⟨u, rest⟩
    · cases h
    · rw [decodeFrom_unpaired (hrest u rest rfl)] at h
      cases h
      exact standsIn_append (hrest u rest rfl)
  · rintro ⟨⟨s, hs⟩, hunit, hunpaired⟩
    obtain ⟨hlt, hget⟩ := List.getElem?_eq_some_iff.mp hunit
    have hlen : (encode s).length = l.index := by
      rw [hs, List.length_take]
      omega
    have hunits : units = encode s ++ l.unit :: units.drop (l.index + 1) := by
      rw [hs, ← hget, ← List.drop_eq_getElem_cons hlt, List.take_append_drop]
    rw [hunits, decode, decodeFrom_encode_append, decodeFrom_unpaired hunpaired, Nat.zero_add,
      hlen]
    rfl

/-- **Decoding inverts encoding.** -/
theorem decode_eq_ok_iff {s : List Char} : decode units = .ok s ↔ units = encode s := by
  constructor
  · intro h
    obtain ⟨s', rest, rfl, hrest⟩ := exists_encode units
    rcases rest with _ | ⟨u, rest⟩
    · rw [List.append_nil, decode_encode] at h
      rw [Except.ok.inj h, List.append_nil]
    · rw [decode_eq_error_iff.mpr (standsIn_append (hrest u rest rfl))] at h
      cases h
  · rintro rfl
    exact decode_encode s

/-- A pair takes two units; the low surrogate behind it has no partner. -/
example : decode [0x61, 0xD83D, 0xDE00, 0xDC00, 0xD800] = .error ⟨0xDC00, 3⟩ := by decide

end TextTypes.Text.Units

namespace TextTypes.TextType

open TextTypes.Text

/-- **Reading 16-bit units.** The units of a text are read as the text. All others are refused
for the first surrogate that has no partner and stands behind well-formed units, whatever else is
wrong with them. -/
theorem parseUnits_eq_parse_or_lone (t : TextType) (units : List UInt16) :
    (∀ s, Units.encode s = units → t.parseUnits (some units) = t.parse (some s)) ∧
      ((¬∃ s, Units.encode s = units) →
        ∃ l : Units.Lone, l.StandsIn units ∧
          (∀ l' : Units.Lone, l'.StandsIn units → l.index ≤ l'.index) ∧
          t.parseUnits (some units) = .error (.loneSurrogate l.unit.toNat l.index)) := by
  constructor
  · rintro s rfl
    rw [parseUnits, Units.decode_eq_ok_iff.mpr rfl]
  · intro hnone
    rcases hdecode : Units.decode units with l | s
    · refine ⟨l, Units.decode_eq_error_iff.mp hdecode, fun l' hl' => ?_, ?_⟩
      · rw [Units.decode_eq_error_iff.mpr hl'] at hdecode
        exact Nat.le_of_eq (congrArg Units.Lone.index (Except.error.inj hdecode).symm)
      · rw [parseUnits, hdecode]
    · exact absurd ⟨s, (Units.decode_eq_ok_iff.mp hdecode).symm⟩ hnone

end TextTypes.TextType
