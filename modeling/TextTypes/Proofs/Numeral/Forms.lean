import TextTypes.Proofs.CodeSet.Built
import TextTypes.Proofs.Numeral.Writing

/-!
Which characters stand for a digit when case does not matter.

A digit is read from its own character and from all characters of the lower and the upper case of
it. Where such an image is a single character, the two are equal up to case. Where it has several
characters each of them stands for the digit by itself, although it may be another letter.
-/

namespace TextTypes.Numeral

open TextTypes.Unicode

/-- Equal up to case: the lower or the upper case of both is the same text. -/
def SameLetter (a c : Char) : Prop :=
  Letters.lower a = Letters.lower c ∨ Letters.upper a = Letters.upper c

instance : DecidableRel SameLetter := fun a c =>
  inferInstanceAs (Decidable (Letters.lower a = Letters.lower c ∨ _))

/-- One of the several characters that are the lower or the upper case of another one. -/
def IsPart (a c : Char) : Prop :=
  c ∈ Letters.lower a ∧ 2 ≤ (Letters.lower a).length ∨
    c ∈ Letters.upper a ∧ 2 ≤ (Letters.upper a).length

namespace Builder

variable {b : Builder} {alphabet : List Char} {a a' c : Char}

/-! ### Forms of one character -/

lemma eq_singleton_or_part {image : List Char} (h : c ∈ image) :
    image = [c] ∨ c ∈ image ∧ 2 ≤ image.length := by
  rcases image with _ | ⟨d, _ | ⟨e, rest⟩⟩
  · cases h
  · exact .inl (by rw [List.mem_singleton.mp h])
  · exact .inr ⟨h, by simp⟩

/-- The ways in which a character is a form of another one. -/
lemma forms_cases (hcase : b.caseSensitive = false) (h : c ∈ b.forms a) :
    c = a ∨ Letters.lower a = [c] ∨ Letters.upper a = [c] ∨ IsPart a c := by
  rw [forms, hcase, if_neg Bool.false_ne_true, List.mem_cons, List.mem_append] at h
  rcases h with h | h | h
  · exact .inl h
  · rcases eq_singleton_or_part h with h | h
    · exact .inr (.inl h)
    · exact .inr (.inr (.inr (.inl h)))
  · rcases eq_singleton_or_part h with h | h
    · exact .inr (.inr (.inl h))
    · exact .inr (.inr (.inr (.inr h)))

lemma sameLetter_of_mem_forms (hcase : b.caseSensitive = false) (h : c ∈ b.forms a) :
    SameLetter c a ∨ IsPart a c := by
  rcases forms_cases hcase h with rfl | h | h | h
  · exact .inl (.inl rfl)
  · exact .inl (.inl ((Letters.lower_of_lower h).trans h.symm))
  · exact .inl (.inr ((Letters.upper_of_upper h).trans h.symm))
  · exact .inr h

lemma SameLetter.symm (h : SameLetter a c) : SameLetter c a := h.imp Eq.symm Eq.symm

/-- A form of two characters makes them equal up to case, unless it is a part of an image. -/
lemma sameLetter_of_mem_of_mem (hcase : b.caseSensitive = false) (h : c ∈ b.forms a)
    (h' : c ∈ b.forms a') : SameLetter a a' ∨ IsPart a c ∨ IsPart a' c := by
  have hfirst : c = a → SameLetter a a' ∨ IsPart a c ∨ IsPart a' c := by
    rintro rfl
    exact (sameLetter_of_mem_forms hcase h').imp_right .inr
  have hsecond : c = a' → SameLetter a a' ∨ IsPart a c ∨ IsPart a' c := by
    rintro rfl
    exact (sameLetter_of_mem_forms hcase h).imp SameLetter.symm .inl
  rcases forms_cases hcase h with hc | hlower | hupper | hpart
  · exact hfirst hc
  · rcases forms_cases hcase h' with hc | hlower' | hupper' | hpart
    · exact hsecond hc
    · exact .inl (.inl (hlower.trans hlower'.symm))
    · exact (Letters.eq_of_lower_of_upper hlower hupper').elim hfirst hsecond
    · exact .inr (.inr hpart)
  · rcases forms_cases hcase h' with hc | hlower' | hupper' | hpart
    · exact hsecond hc
    · exact (Letters.eq_of_lower_of_upper hlower' hupper).elim hsecond hfirst
    · exact .inl (.inr (hupper.trans hupper'.symm))
    · exact .inr (.inr hpart)
  · exact .inr (.inl hpart)

/-! ### A character with two digits -/

lemma assign_eq_error {map : IntMap.Builder Int32} {digit : Nat} {e : BuildError}
    (h : assign map c digit = .error e) :
    ∃ other, map.get? (Int32.ofNat c.toNat) = some other ∧ other ≠ Int32.ofNat digit ∧
      e = .duplicateDigit c.toNat other.toUInt32.toNat digit := by
  unfold assign at h
  rcases hget : map.get? (Int32.ofNat c.toNat) with _ | other
  · simp only [hget] at h
    cases h
  · simp only [hget] at h
    by_cases hv : other = Int32.ofNat digit
    · rw [if_pos hv] at h
      cases h
    · rw [if_neg hv] at h
      exact ⟨other, rfl, hv, (Except.error.inj h).symm⟩

/-- The filing stops at a character that has another digit from before. -/
lemma foldlM_eq_error {digits : List (Char × Nat)} {e : BuildError}
    (h : digits.foldlM (fun map (c, digit) => assign map c digit) .empty = .error e) :
    ∃ before map c i j rest, digits = before ++ (c, j) :: rest ∧ Files map before ∧
      (c, i) ∈ before ∧ Int32.ofNat i ≠ Int32.ofNat j ∧
      e = .duplicateDigit c.toNat (Int32.ofNat i).toUInt32.toNat j := by
  induction digits using List.reverseRecOn with
  | nil => cases h
  | append_singleton digits entry ih =>
    rcases hfirst : digits.foldlM (fun map (c, digit) => assign map c digit) .empty with e' | map
    · simp only [List.foldlM_append, hfirst] at h
      cases h
      obtain ⟨before, map, c, i, j, rest, rfl, hrest⟩ := ih hfirst
      exact ⟨before, map, c, i, j, rest ++ [entry], by simp, hrest⟩
    · simp only [List.foldlM_append, hfirst, List.foldlM_cons, List.foldlM_nil, bind_pure] at h
      have hfiles := files_foldlM digits hfirst
      obtain ⟨other, hget, hne, rfl⟩ := assign_eq_error h
      obtain ⟨i, hmem, rfl⟩ := (hfiles.get?_iff _ _).mp hget
      exact ⟨digits, map, entry.1, i, entry.2, [], rfl, hfiles, hmem, hne, rfl⟩

/-- The listing goes through the alphabet in its order. -/
lemma sorted_listing (b : Builder) (alphabet : List Char) :
    (b.listing alphabet).Pairwise fun x y => x.2 ≤ y.2 := by
  have hplaces : alphabet.zipIdx.Pairwise fun x y => x.2 ≤ y.2 := by
    have hmap : (alphabet.zipIdx.map Prod.snd).Pairwise (· ≤ ·) := by
      rw [List.zipIdx_map_snd]
      exact List.pairwise_le_range'
    exact List.pairwise_map.mp hmap
  refine List.pairwise_flatMap.mpr ⟨fun x _ => ?_, hplaces.imp fun {x y} hle => ?_⟩
  · exact List.pairwise_map.mpr (List.pairwise_of_forall fun _ _ => Nat.le_refl x.2)
  · rintro _ hx _ hy
    obtain ⟨_, -, rfl⟩ := List.mem_map.mp hx
    obtain ⟨_, -, rfl⟩ := List.mem_map.mp hy
    exact hle

/-- **The filing of an alphabet stops only at a form of two of its characters.** -/
theorem digitMap_eq_error {e : BuildError} (h : b.digitMap alphabet = .error e) :
    ∃ c i j a a', e = .duplicateDigit c.toNat i j ∧ i < j ∧ alphabet[i]? = some a ∧
      alphabet[j]? = some a' ∧ c ∈ b.forms a ∧ c ∈ b.forms a' := by
  obtain ⟨before, map, c, i, j, rest, hlisting, hfiles, hmem, hne, rfl⟩ := foldlM_eq_error h
  have hsorted := sorted_listing b alphabet
  replace hlisting : b.listing alphabet = before ++ (c, j) :: rest := hlisting
  rw [hlisting, List.pairwise_append, List.pairwise_cons] at hsorted
  obtain ⟨-, ⟨hrest, -⟩, hbefore⟩ := hsorted
  obtain ⟨a, ha, hc⟩ : ∃ a, alphabet[i]? = some a ∧ c ∈ b.forms a :=
    mem_listing_iff.mp (hlisting ▸ List.mem_append_left _ hmem)
  obtain ⟨a', ha', hc'⟩ : ∃ a, alphabet[j]? = some a ∧ c ∈ b.forms a :=
    mem_listing_iff.mp (hlisting ▸ List.mem_append_right _ List.mem_cons_self)
  have hle : i ≤ j := hbefore _ hmem _ List.mem_cons_self
  have hij : i ≠ j := fun heq => hne (by rw [heq])
  -- all earlier places were filed before, so their number fits
  have hcount : j ≤ CodePoint.last + 1 := hfiles.count_le fun k hk => by
    have hlt : k < alphabet.length := Nat.lt_trans hk (List.getElem?_eq_some_iff.mp ha').1
    have hlisted : (alphabet[k], k) ∈ b.listing alphabet :=
      mem_listing_iff.mpr ⟨_, List.getElem?_eq_getElem hlt, mem_forms b _⟩
    rw [hlisting, List.mem_append, List.mem_cons] at hlisted
    rcases hlisted with hlisted | hlisted | hlisted
    · exact ⟨_, hlisted⟩
    · exact absurd (congrArg Prod.snd hlisted) (Nat.ne_of_lt hk)
    · exact absurd (hrest _ hlisted) (Nat.not_le_of_lt hk)
  have hsize : CodePoint.last + 1 < UInt32.size := by decide
  refine ⟨c, i, j, a, a', ?_, by omega, ha, ha', hc, hc'⟩
  rw [IntMap.toNat_ofNat (by omega)]

/-! ### Builds -/

/-- The calls that configure the ignored characters. -/
def ignoredCalls (b : Builder) (digits : IntMap Int32) : List CodeSet.Builder.Call :=
  [.including (.chars b.separators)] ++
    (if b.dashes = .keep then []
      else [.including (.category .pd), .including (.chars (negativeSigns ++ ['\u00ad']))]) ++
    digits.entries.map fun e => .excluding (.codePoint e.1.toUInt32.toNat)

lemma ignored_eq (b : Builder) (digits : IntMap Int32) :
    b.ignored digits = CodeSet.Builder.ofCalls (b.ignoredCalls digits) := by
  unfold ignored ignoredCalls CodeSet.Builder.ofCalls
  rw [List.foldl_append, List.foldl_append, List.foldl_map]
  split <;> rfl

/-- Nothing but a range can be wrong with the ignored characters. -/
lemma build_ignored_error {digits : IntMap Int32} {e : BuildError}
    (h : (b.ignored digits).build = .error e) : ∃ lo hi, e = .invalidRange lo hi := by
  rw [ignored_eq] at h
  rcases hvalid : CodeSet.Builder.firstInvalid? (b.ignoredCalls digits) with _ | ⟨lo, hi⟩
  · have herror := CodeSet.Builder.error_ofCalls (b.ignoredCalls digits)
    rw [hvalid, Option.map_none] at herror
    rw [CodeSet.Builder.build, CodeSet.Builder.buildRanged_eq _ herror] at h
    cases h
  · rw [(CodeSet.Builder.build_of_invalid hvalid).2] at h
    exact ⟨lo, hi, (Except.error.inj h).symm⟩

lemma error_apply (call : Call) (h : ∀ e ∈ b.error, ∃ radix, e = .invalidRadix radix) :
    ∀ e ∈ (call.apply b).error, ∃ radix, e = .invalidRadix radix := by
  have hfail : ∀ radix, ∀ e ∈ (b.fail (.invalidRadix radix)).error,
      ∃ radix, e = .invalidRadix radix := by
    intro radix e he
    rcases herror : b.error with _ | e'
    · simp only [fail, herror] at he
      exact ⟨radix, (Option.some.inj he).symm⟩
    · simp only [fail, herror] at he
      exact h e (herror ▸ he)
  cases call with
  | base radix =>
    simp only [Call.apply, allowBase]
    split
    · exact h
    · exact hfail radix
  | alphabet digits =>
    simp only [Call.apply, allowAlphabet]
    split
    · exact hfail digits.length
    · exact h
  | _ => exact h

/-- The only error that a configuration remembers is a bad radix. -/
lemma error_ofCalls (target : IntegerType) (calls : List Call) :
    ∀ e ∈ (ofCalls target calls).error, ∃ radix, e = .invalidRadix radix := by
  induction calls using List.reverseRecOn with
  | nil => exact fun e he => by cases he
  | append_singleton calls call ih =>
    rw [ofCalls_concat]
    exact error_apply call ih

/-- A duplicate is reported by the filing of the alphabet. -/
lemma digitMap_of_build_error {cp i j : Nat} (halphabet : b.alphabet = some alphabet)
    (herror : ∀ e ∈ b.error, ∃ radix, e = .invalidRadix radix)
    (h : b.build = .error (.duplicateDigit cp i j)) :
    b.digitMap alphabet = .error (.duplicateDigit cp i j) := by
  simp only [build, digitsOf, bind, Except.bind, pure, Except.pure] at h
  rcases he : b.error with _ | e
  swap
  · obtain ⟨radix, rfl⟩ := herror e he
    simp [he, throw, throwThe, MonadExceptOf.throw] at h
  rcases hfit : b.boundsFit with _ | _
  · simp [he, halphabet, hfit, throw, throwThe, MonadExceptOf.throw] at h
  rcases hmap : b.digitMap alphabet with e | map
  · simp only [he, halphabet, hfit, hmap, if_true, Except.error.injEq] at h
    rw [h]
  · rcases hignored : (b.ignored map.freeze).build with e | ignored
    · obtain ⟨lo, hi, rfl⟩ := build_ignored_error hignored
      simp [he, halphabet, hfit, hmap, hignored] at h
    · simp [he, halphabet, hfit, hmap, hignored] at h

/-- The error of a build, and the digit that a build makes of a character. -/
def outcome (b : Builder) (c : Char) : BuildError ⊕ Option Int :=
  match b.build with
  | .error e => .inl e
  | .ok n => .inr (n.digit? c)

lemma build_of_outcome_inl {e : BuildError} (h : b.outcome c = .inl e) : b.build = .error e := by
  unfold outcome at h
  split at h
  next e' he => rw [he, Sum.inl.inj h]
  next => cases h

lemma build_of_outcome_inr {v : Option Int} (h : b.outcome c = .inr v) :
    ∃ n, b.build = .ok n ∧ n.digit? c = v := by
  unfold outcome at h
  split at h
  next => cases h
  next n hn => exact ⟨n, hn, Sum.inr.inj h⟩

/-- **What stands for a digit when case does not matter.** A character that is read as a digit is
equal up to case to the character of the alphabet at that place, or is one of several characters
that are its lower or upper case. A build reports a character with two digits only if the characters
of the two are equal up to case, or the reported one is a part of an image of one of them. -/
theorem digits_up_to_case (target : IntegerType) (calls : List Call) {alphabet : List Char}
    (halphabet : (ofCalls target calls).alphabet = some alphabet)
    (hcase : (ofCalls target calls).caseSensitive = false) :
    (∀ n, (ofCalls target calls).build = .ok n → ∀ c v, n.digit? c = some v →
        ∃ (i : Nat) (a : Char), alphabet[i]? = some a ∧ v = i ∧ (SameLetter c a ∨ IsPart a c)) ∧
      ∀ cp i j, (ofCalls target calls).build = .error (.duplicateDigit cp i j) →
        i < j ∧ ∃ a a' c, alphabet[i]? = some a ∧ alphabet[j]? = some a' ∧ c.toNat = cp ∧
          (SameLetter a a' ∨ IsPart a c ∨ IsPart a' c) := by
  refine ⟨fun n h c v hv => ?_, fun cp i j h => ?_⟩
  · obtain ⟨_, i, a, hsome, hi, hmem, rfl⟩ := (digit?_build h c v).mp hv
    obtain rfl := Option.some.inj (halphabet.symm.trans hsome)
    exact ⟨i, a, hi, rfl, sameLetter_of_mem_forms hcase hmem⟩
  · have hmap := digitMap_of_build_error halphabet (error_ofCalls target calls) h
    obtain ⟨c, i', j', a, a', heq, hlt, ha, ha', hc, hc'⟩ := digitMap_eq_error hmap
    obtain ⟨rfl, rfl, rfl⟩ := BuildError.duplicateDigit.inj heq
    exact ⟨hlt, a, a', c, ha, ha', rfl, sameLetter_of_mem_of_mem hcase hc hc'⟩

/-- A capital is read as the small letter of an alphabet, and one with a k and the Kelvin sign is
refused. -/
theorem digits_up_to_case_kelvin :
    (∃ n, (ofCalls .i32 [.alphabet ['x', 'k']]).build = .ok n ∧ n.digit? 'K' = some 1 ∧
        ∃ (i : Nat) (a : Char), ['x', 'k'][i]? = some a ∧ (1 : Int) = i ∧
          (SameLetter 'K' a ∨ IsPart a 'K')) ∧
      (ofCalls .i32 [.alphabet ['k', '\u212a']]).build = .error (.duplicateDigit 0x6B 0 1) ∧
      ∃ a a' c, ['k', '\u212a'][0]? = some a ∧ ['k', '\u212a'][1]? = some a' ∧ c.toNat = 0x6B ∧
        (SameLetter a a' ∨ IsPart a c ∨ IsPart a' c) := by
  obtain ⟨hdigits, -⟩ := digits_up_to_case .i32 [.alphabet ['x', 'k']] rfl rfl
  obtain ⟨-, hduplicates⟩ := digits_up_to_case .i32 [.alphabet ['k', '\u212a']] rfl rfl
  obtain ⟨n, hn, hdigit⟩ : ∃ n, (ofCalls .i32 [.alphabet ['x', 'k']]).build = .ok n ∧
      n.digit? 'K' = some 1 := build_of_outcome_inr (by decide +kernel)
  have hduplicate : (ofCalls .i32 [.alphabet ['k', '\u212a']]).build =
      .error (.duplicateDigit 0x6B 0 1) := build_of_outcome_inl (c := 'k') (by decide +kernel)
  exact ⟨⟨n, hn, hdigit, hdigits n hn 'K' 1 hdigit⟩, hduplicate,
    (hduplicates 0x6B 0 1 hduplicate).2⟩

/-- The letter S is one of two characters that are the upper case of ß, and is read as ß although
the two are not equal up to case; an alphabet with s and ß is refused. -/
theorem not_digits_up_to_case :
    (∃ n, (ofCalls .i32 [.alphabet ['a', 'ß']]).build = .ok n ∧ n.digit? 'S' = some 1) ∧
      ¬SameLetter 'S' 'ß' ∧
      (ofCalls .i32 [.alphabet ['s', 'ß']]).build = .error (.duplicateDigit 0x53 0 1) ∧
      ¬SameLetter 's' 'ß' :=
  ⟨build_of_outcome_inr (by decide +kernel), by decide +kernel,
    build_of_outcome_inl (c := 's') (by decide +kernel), by decide +kernel⟩

end Builder

end TextTypes.Numeral
