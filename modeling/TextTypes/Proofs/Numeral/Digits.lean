import Mathlib.Data.Fintype.Card
import TextTypes.Numeral.Builder
import TextTypes.Proofs.IntMap.Frozen

/-!
The digits of a built numeral.

The build gives each character of the alphabet, and each of its forms, its place as value. No
character gets two values, so an alphabet that is taken has no more characters than there are
code points, and its places fit the values of the map.
-/

namespace TextTypes.Numeral.Builder

/-! ### Filing the digits -/

/-- The digits a map holds: each character with the values it was given, and no other. -/
structure Files (map : IntMap.Builder Int32) (digits : List (Char × Nat)) : Prop where
  wellFormed : map.WellFormed
  get?_iff : ∀ (c : Char) (v : Int32), map.get? (Int32.ofNat c.toNat) = some v ↔
    ∃ digit, (c, digit) ∈ digits ∧ v = Int32.ofNat digit

lemma files_empty : Files .empty [] where
  wellFormed := IntMap.Builder.wellFormed_withBucketCount 11
  get?_iff c v := by simp [IntMap.Builder.empty, IntMap.Builder.get?_withBucketCount]

/-- A character is given its digit unless it has another one. -/
lemma assign_eq_ok {map map' : IntMap.Builder Int32} {c : Char} {digit : Nat}
    (h : assign map c digit = .ok map') :
    map' = map.insert (Int32.ofNat c.toNat) (Int32.ofNat digit) ∧
      ∀ v, map.get? (Int32.ofNat c.toNat) = some v → v = Int32.ofNat digit := by
  unfold assign at h
  rcases hget : map.get? (Int32.ofNat c.toNat) with _ | other
  · simp only [hget, Except.ok.injEq] at h
    exact ⟨h.symm, by simp⟩
  · simp only [hget] at h
    by_cases hv : other = Int32.ofNat digit
    · rw [if_pos hv, Except.ok.injEq] at h
      exact ⟨by rw [← h, hv], by simp [hv]⟩
    · rw [if_neg hv] at h
      cases h

lemma Files.assign {map map' : IntMap.Builder Int32} {digits : List (Char × Nat)}
    (hf : Files map digits) {c : Char} {digit : Nat}
    (h : Builder.assign map c digit = .ok map') : Files map' (digits ++ [(c, digit)]) := by
  obtain ⟨rfl, hsame⟩ := assign_eq_ok h
  refine ⟨hf.wellFormed.insert _ _, fun d v => ?_⟩
  rw [IntMap.Builder.get?_insert hf.wellFormed]
  simp only [IntMap.ofNat_char_inj]
  by_cases hd : d = c
  · subst hd
    rw [if_pos rfl, Option.some.injEq]
    constructor
    · rintro rfl
      exact ⟨digit, by simp, rfl⟩
    · rintro ⟨other, hmem, rfl⟩
      rcases List.mem_append.mp hmem with hold | hnew
      · -- the character came before, with the same value
        exact (hsame _ ((hf.get?_iff d _).mpr ⟨other, hold, rfl⟩)).symm
      · simp only [List.mem_singleton, Prod.mk.injEq, true_and] at hnew
        rw [hnew]
  · rw [if_neg hd, hf.get?_iff]
    simp [hd]

/-- The characters that stand for the digits of an alphabet, each with the place it stands for. -/
def listing (b : Builder) (alphabet : List Char) : List (Char × Nat) :=
  alphabet.zipIdx.flatMap fun (c, digit) => (b.forms c).map (·, digit)

variable {b : Builder} {alphabet : List Char} {map : IntMap.Builder Int32}

lemma mem_listing_iff {c : Char} {digit : Nat} :
    (c, digit) ∈ b.listing alphabet ↔ ∃ a, alphabet[digit]? = some a ∧ c ∈ b.forms a := by
  simp only [listing, List.mem_flatMap, List.mem_map, Prod.mk.injEq, Prod.exists,
    List.mem_zipIdx_iff_getElem?]
  constructor
  · rintro ⟨a, i, ha, d, hd, rfl, rfl⟩
    exact ⟨a, ha, hd⟩
  · rintro ⟨a, ha, hc⟩
    exact ⟨a, digit, ha, c, hc, rfl, rfl⟩

lemma mem_forms (b : Builder) (c : Char) : c ∈ b.forms c := by
  unfold forms
  split <;> simp

lemma files_foldlM (digits : List (Char × Nat)) {map : IntMap.Builder Int32}
    (h : digits.foldlM (fun map (c, digit) => assign map c digit) .empty = .ok map) :
    Files map digits := by
  induction digits using List.reverseRecOn generalizing map with
  | nil =>
    obtain rfl : IntMap.Builder.empty = map := Except.ok.inj h
    exact files_empty
  | append_singleton digits e ih =>
    simp only [List.foldlM_append, List.foldlM_cons, List.foldlM_nil, bind_pure] at h
    rcases hfirst : digits.foldlM (fun map (c, digit) => assign map c digit) .empty with _ | before
    · rw [hfirst] at h
      cases h
    · rw [hfirst] at h
      exact (ih hfirst).assign h

/-- **The digit map files the listing of the alphabet.** -/
theorem files_digitMap (h : b.digitMap alphabet = .ok map) : Files map (b.listing alphabet) :=
  files_foldlM _ h

/-! ### The values of the digits -/

/-- Digits that are told apart are no more than there are code points: a character that came twice
among the first places would stand for two values. -/
lemma Files.count_le {digits : List (Char × Nat)} (hf : Files map digits) {count : Nat}
    (hcount : ∀ i < count, ∃ c, (c, i) ∈ digits) : count ≤ CodePoint.last + 1 := by
  by_contra hlong
  choose char hchar using fun i : Fin (CodePoint.last + 2) =>
    hcount i.val (Nat.lt_of_lt_of_le i.isLt (by omega))
  have hplace (i : Fin (CodePoint.last + 2)) : i.val < UInt32.size :=
    Nat.lt_trans i.isLt (by decide)
  have hget (i : Fin (CodePoint.last + 2)) :
      map.get? (Int32.ofNat (char i).toNat) = some (Int32.ofNat i.val) :=
    (hf.get?_iff _ _).mpr ⟨i.val, hchar i, rfl⟩
  let code (i : Fin (CodePoint.last + 2)) : Fin (CodePoint.last + 1) :=
    ⟨(char i).toNat, Nat.lt_succ_of_le (CodePoint.toNat_le_last _)⟩
  have hinj : Function.Injective code := by
    intro i j hij
    have hsame : (char i).toNat = (char j).toNat := Fin.mk.inj hij
    have hvalue := hget i
    rw [hsame, hget j, Option.some.injEq] at hvalue
    exact Fin.ext ((IntMap.ofNat_inj (hplace i) (hplace j)).mp hvalue.symm)
  have hcard := Fintype.card_le_of_injective code hinj
  simp at hcard

lemma length_le_of_digitMap (h : b.digitMap alphabet = .ok map) :
    alphabet.length ≤ CodePoint.last + 1 :=
  (files_digitMap h).count_le fun i hi =>
    ⟨alphabet[i], mem_listing_iff.mpr ⟨_, List.getElem?_eq_getElem hi, mem_forms b _⟩⟩

/-- What a successful build has put together. -/
lemma build_eq_ok {n : Numeral} (h : b.build = .ok n) :
    ∃ alphabet map ignored, b.alphabet = some alphabet ∧ b.boundsFit = true ∧
      b.digitMap alphabet = .ok map ∧
      n = ⟨b.target, map.freeze, alphabet.length, b.least, b.greatest, ignored, b.dashes⟩ := by
  simp only [build, digitsOf, bind, Except.bind, pure, Except.pure] at h
  rcases herror : b.error with _ | e
  swap
  · simp [herror, throw, throwThe, MonadExceptOf.throw] at h
  rcases halphabet : b.alphabet with _ | alphabet
  · simp [herror, halphabet, throw, throwThe, MonadExceptOf.throw] at h
  rcases hfit : b.boundsFit with _ | _
  · simp [herror, halphabet, hfit, throw, throwThe, MonadExceptOf.throw] at h
  rcases hmap : b.digitMap alphabet with _ | map
  · simp [herror, halphabet, hfit, hmap] at h
  rcases hignored : (b.ignored map.freeze).build with _ | ignored
  · simp [herror, halphabet, hfit, hmap, hignored] at h
  · simp only [herror, halphabet, hfit, hmap, hignored, if_true, Except.ok.injEq] at h
    exact ⟨alphabet, map, ignored, rfl, rfl, hmap, h.symm⟩

/-- **A character is a digit exactly when it is a form of a character of the alphabet, and its
value is the place of that character.** -/
theorem digit?_build {n : Numeral} (h : b.build = .ok n) (c : Char) (v : Int) :
    n.digit? c = some v ↔
      ∃ (alphabet : List Char) (i : Nat) (a : Char), b.alphabet = some alphabet ∧
        alphabet[i]? = some a ∧ c ∈ b.forms a ∧ v = i := by
  obtain ⟨alphabet, map, ignored, halphabet, -, hmap, rfl⟩ := build_eq_ok h
  have hfiles := files_digitMap hmap
  have hplace {i : Nat} {a : Char} (hi : alphabet[i]? = some a) : (Int32.ofNat i).toInt = i := by
    have hlt := (List.getElem?_eq_some_iff.mp hi).1
    have hlen := length_le_of_digitMap hmap
    have hlast : CodePoint.last + 1 ≤ 2 ^ 31 := by decide
    exact Int32.toInt_ofNat_of_lt (by omega)
  simp only [digit?, IntMap.get?_freeze hfiles.wellFormed, Option.map_eq_some_iff,
    hfiles.get?_iff, mem_listing_iff, halphabet, Option.some.injEq]
  constructor
  · rintro ⟨_, ⟨i, ⟨a, hi, hc⟩, rfl⟩, rfl⟩
    exact ⟨alphabet, i, a, rfl, hi, hc, hplace hi⟩
  · rintro ⟨_, i, a, rfl, hi, hc, rfl⟩
    exact ⟨_, ⟨i, ⟨a, hi, hc⟩, rfl⟩, hplace hi⟩

end TextTypes.Numeral.Builder
