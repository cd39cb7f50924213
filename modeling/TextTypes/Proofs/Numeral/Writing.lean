import Mathlib.Data.Nat.Digits.Lemmas
import TextTypes.Proofs.Numeral.Reading
import TextTypes.Proofs.Unicode.Blank
import TextTypes.Proofs.Unicode.Mappings

/-!
Numbers written in an alphabet.

A number is written with its digits, the leading one first, and with a minus sign in front if it is
negative. A numeral that was built for the alphabet reads it back: every character of the alphabet
is a digit with its own place as value, and no case mapping makes a digit of the minus sign.
-/

namespace TextTypes.Numeral

open TextTypes.Unicode

/-- The digits of a number, the leading one first. Zero is written with one digit. -/
def leadingDigits (radix m : Nat) : List Nat := if m = 0 then [0] else (Nat.digits radix m).reverse

/-- A number written in the characters of an alphabet. -/
def written (alphabet : List Char) (v : Int) : List Char :=
  (if v < 0 then ['-'] else []) ++
    (leadingDigits alphabet.length v.natAbs).filterMap fun d => alphabet[d]?

/-- A character that is neither white space nor a sign. -/
structure IsPlain (c : Char) : Prop where
  visible : isBlank c = false
  not_positive : c ∉ positiveSigns
  not_negative : c ∉ negativeSigns

instance : DecidablePred IsPlain := fun c =>
  decidable_of_iff (isBlank c = false ∧ c ∉ positiveSigns ∧ c ∉ negativeSigns)
    ⟨fun h => ⟨h.1, h.2.1, h.2.2⟩, fun h => ⟨h.visible, h.not_positive, h.not_negative⟩⟩

/-! ### Digits -/

lemma leadingDigits_ne_nil (radix m : Nat) : leadingDigits radix m ≠ [] := by
  unfold leadingDigits
  split
  next => exact List.cons_ne_nil 0 []
  next hm => simpa [Nat.digits_eq_nil_iff_eq_zero] using hm

lemma lt_of_mem_leadingDigits {radix m d : Nat} (hradix : 2 ≤ radix) (hd : d ∈ leadingDigits radix m) :
    d < radix := by
  unfold leadingDigits at hd
  split at hd
  next =>
    rw [List.mem_singleton.mp hd]
    omega
  next => exact Nat.digits_lt_base hradix (List.mem_reverse.mp hd)

lemma ofDigits_leadingDigits (radix m : Nat) : Nat.ofDigits radix (leadingDigits radix m).reverse = m := by
  unfold leadingDigits
  split
  next hm => simp [hm]
  next => rw [List.reverse_reverse, Nat.ofDigits_digits]

/-- The marks of a written number. -/
def signed (radix : Nat) (v : Int) : List Mark :=
  (if v < 0 then [.sign true] else []) ++ (leadingDigits radix v.natAbs).map .digit

lemma digits_signed (radix : Nat) (v : Int) :
    Mark.digits (signed radix v) = leadingDigits radix v.natAbs := by
  have hsign : Mark.digits (if v < 0 then [.sign true] else []) = [] := by
    split <;> rfl
  have hdigits : ∀ ds : List Nat, Mark.digits (ds.map .digit) = ds := fun ds => by
    rw [Mark.digits, List.filterMap_map]
    exact List.filterMap_some
  rw [signed, Mark.digits_append, hsign, hdigits, List.nil_append]

lemma denoted_signed (radix : Nat) (v : Int) : Mark.denoted radix (signed radix v) = v := by
  have hmem : Mark.sign true ∈ signed radix v ↔ v < 0 := by
    unfold signed
    split <;> simp [*]
  rw [Mark.denoted, Mark.magnitude, digits_signed, ofDigits_leadingDigits]
  simp only [hmem]
  split <;> omega

/-! ### Case mappings and signs -/

/-- Whether no image of a table has a certain code point. -/
def avoids (n : Nat) (t : Letters.Table) : Bool :=
  t.special.all (fun e => !e.2.contains n) &&
    t.shifts.all fun s => Nat.blt n s.image || Nat.blt (s.image + (s.last - s.first)) n

lemma eq_of_mem_image {n m : Nat} {t : Letters.Table} (ht : avoids n t = true)
    (hn : n ∈ t.image m) : n = m := by
  simp only [avoids, Bool.and_eq_true, List.all_eq_true, Bool.or_eq_true, Nat.blt_eq] at ht
  obtain ⟨hspecial, hshifts⟩ := ht
  unfold Letters.Table.image at hn
  split at hn
  next entry hfind =>
    have hout := hspecial entry (List.mem_of_find?_eq_some hfind)
    simp [hn] at hout
  next =>
    split at hn
    next s hfind =>
      have hout := hshifts s (List.mem_of_find?_eq_some hfind)
      have hcovers := List.find?_some hfind
      simp only [Letters.Shift.covers, Bool.and_eq_true, decide_eq_true_eq] at hcovers
      rw [List.mem_singleton, Letters.Shift.apply] at hn
      omega
    next => exact List.mem_singleton.mp hn

lemma avoids_hyphen :
    avoids '-'.toNat Letters.lowerTable = true ∧ avoids '-'.toNat Letters.upperTable = true := by
  decide +kernel

/-- No other character has the hyphen for an image. -/
lemma eq_hyphen_of_mem_scalars {t : Letters.Table} (ht : avoids '-'.toNat t = true) {c : Char}
    (h : '-' ∈ CodePoint.scalars (t.image c.toNat)) : c = '-' := by
  obtain ⟨n, hn, hscalar⟩ := List.mem_filterMap.mp h
  rw [← CodePoint.toNat_of_scalar? hscalar] at hn
  exact Char.toNat_inj.mp (eq_of_mem_image ht hn).symm

namespace Builder

variable {b : Builder} {n : Numeral} {alphabet : List Char}

/-- The hyphen stands for a digit only if it is in the alphabet. -/
lemma eq_hyphen_of_mem_forms {c : Char} (h : '-' ∈ b.forms c) : c = '-' := by
  unfold forms at h
  split at h
  next => exact (List.mem_singleton.mp h).symm
  next =>
    rcases List.mem_cons.mp h with hc | h
    · exact hc.symm
    · rcases List.mem_append.mp h with h | h
      · rw [Letters.lower_eq] at h
        exact eq_hyphen_of_mem_scalars avoids_hyphen.1 h
      · rw [Letters.upper_eq] at h
        exact eq_hyphen_of_mem_scalars avoids_hyphen.2 h

/-! ### Configurations -/

inductive Call
  | base (radix : Nat)
  | alphabet (digits : List Char)
  | caseSensitive (on : Bool)
  | min (bound : Bound)
  | max (bound : Bound)
  | separator (c : Char)
  | dashes (p : DashPolicy)

def Call.apply (b : Builder) : Call → Builder
  | .base radix => b.allowBase radix
  | .alphabet digits => b.allowAlphabet digits
  | .caseSensitive on => b.withCaseSensitive on
  | .min bound => b.withMin bound
  | .max bound => b.withMax bound
  | .separator c => b.withSeparator c
  | .dashes p => b.withDashes p

/-- The builder for the numbers of a type after a sequence of calls. -/
def ofCalls (target : IntegerType) (calls : List Call) : Builder :=
  calls.foldl Call.apply { target }

lemma ofCalls_concat (target : IntegerType) (calls : List Call) (call : Call) :
    ofCalls target (calls ++ [call]) = call.apply (ofCalls target calls) := by
  simp [ofCalls]

/-- What a call keeps: the type stays the same, and no alphabet has fewer than two characters. -/
lemma apply_keeps (call : Call) (h : ∀ a ∈ b.alphabet, 2 ≤ a.length) :
    (call.apply b).target = b.target ∧ ∀ a ∈ (call.apply b).alphabet, 2 ≤ a.length := by
  cases call with
  | base radix =>
    simp only [Call.apply, allowBase]
    split
    next hradix =>
      refine ⟨rfl, ?_⟩
      rintro a ⟨⟩
      have hcount : standardDigits.length = 36 := by decide
      rw [List.length_take]
      omega
    next => exact ⟨rfl, h⟩
  | alphabet digits =>
    simp only [Call.apply, allowAlphabet]
    split
    next => exact ⟨rfl, h⟩
    next hlength =>
      refine ⟨rfl, ?_⟩
      rintro a ⟨⟩
      omega
  | caseSensitive on => exact ⟨rfl, h⟩
  | min bound => exact ⟨rfl, h⟩
  | max bound => exact ⟨rfl, h⟩
  | separator c => exact ⟨rfl, h⟩
  | dashes p => exact ⟨rfl, h⟩

lemma ofCalls_keeps (target : IntegerType) (calls : List Call) :
    (ofCalls target calls).target = target ∧
      ∀ a ∈ (ofCalls target calls).alphabet, 2 ≤ a.length := by
  induction calls using List.reverseRecOn with
  | nil => exact ⟨rfl, by rintro a ⟨⟩⟩
  | append_singleton calls call ih =>
    rw [ofCalls_concat]
    obtain ⟨htarget, halphabet⟩ := apply_keeps call ih.2
    exact ⟨htarget.trans ih.1, halphabet⟩

/-! ### Reading a written number -/

section Written

variable (h : b.build = .ok n) (halphabet : b.alphabet = some alphabet)

include h halphabet

lemma digit?_of_getElem? {d : Nat} {c : Char} (hc : alphabet[d]? = some c) :
    n.digit? c = some (d : Int) :=
  (digit?_build h c d).mpr ⟨alphabet, d, c, halphabet, hc, mem_forms b c, rfl⟩

lemma digit?_hyphen (hplain : ∀ c ∈ alphabet, IsPlain c) : n.digit? '-' = none := by
  rw [Option.eq_none_iff_forall_ne_some]
  intro v hv
  obtain ⟨_, i, c, hsome, hi, hmem, -⟩ := (digit?_build h '-' v).mp hv
  obtain rfl := Option.some.inj (halphabet.symm.trans hsome)
  obtain rfl := eq_hyphen_of_mem_forms hmem
  exact (hplain '-' (List.mem_of_getElem? hi)).not_negative (by decide)

/-- Characters of the alphabet are marked with their places. -/
lemma marks_digits {ds : List Nat} (hds : ∀ d ∈ ds, d < alphabet.length) (leading : Bool) :
    n.marks leading (ds.filterMap fun d => alphabet[d]?) = ds.map .digit := by
  induction ds generalizing leading with
  | nil => rfl
  | cons d rest ih =>
    obtain ⟨hd, hrest⟩ := List.forall_mem_cons.mp hds
    have hc : alphabet[d]? = some alphabet[d] := List.getElem?_eq_getElem hd
    have hmark : n.mark? leading alphabet[d] = some (.digit d) := by
      simp only [mark?, digit?_of_getElem? h halphabet hc, Int.toNat_natCast]
    rw [List.filterMap_cons_some hc, marks, hmark, List.map_cons]
    simp only [ih hrest]

/-- **A written number is marked by its sign and its digits.** -/
theorem marks_written (hplain : ∀ c ∈ alphabet, IsPlain c) (hradix : 2 ≤ alphabet.length)
    (hdashes : b.dashes ≠ .ignore) (v : Int) :
    n.marks true (written alphabet v) = signed alphabet.length v := by
  have hds : ∀ d ∈ leadingDigits alphabet.length v.natAbs, d < alphabet.length := fun d =>
    lt_of_mem_leadingDigits hradix
  have hpolicy : n.dashes = b.dashes := by
    obtain ⟨_, _, _, -, -, -, rfl⟩ := build_eq_ok h
    rfl
  have hsign : n.isSign '-' = true := by
    have hnot : (n.dashes != .ignore) = true := by simpa [hpolicy] using hdashes
    rw [isSign, hnot]
    decide
  have hmark : n.mark? true '-' = some (.sign true) := by
    rw [mark?_of_not_digit (digit?_hyphen h halphabet hplain), hsign]
    rfl
  unfold written signed
  split
  next =>
    rw [List.singleton_append, marks, hmark, List.singleton_append]
    simp only [marks_digits h halphabet hds]
  next => exact marks_digits h halphabet hds true

end Written

lemma visible_of_mem_written (hplain : ∀ c ∈ alphabet, IsPlain c) {v : Int} {c : Char}
    (hc : c ∈ written alphabet v) : isBlank c = false := by
  rcases List.mem_append.mp hc with hsign | hdigit
  · split at hsign
    next =>
      rw [List.mem_singleton.mp hsign]
      decide
    next => cases hsign
  · obtain ⟨d, -, hd⟩ := List.mem_filterMap.mp hdigit
    exact (hplain c (List.mem_of_getElem? hd)).visible

lemma length_written (hradix : 2 ≤ alphabet.length) (v : Int) :
    (written alphabet v).length = (signed alphabet.length v).length := by
  have hdigits : ((leadingDigits alphabet.length v.natAbs).filterMap fun d => alphabet[d]?).length =
      (leadingDigits alphabet.length v.natAbs).length := by
    rw [List.length_filterMap_eq_countP, List.countP_eq_length]
    intro d hd
    simpa using lt_of_mem_leadingDigits hradix hd
  unfold written signed
  rw [List.length_append, List.length_append, hdigits, List.length_map]
  split <;> rfl

lemma isPlain_of_mem_standardDigits : ∀ c ∈ standardDigits, IsPlain c := by
  have hall : standardDigits.all (fun c => decide (IsPlain c)) = true := by decide
  exact fun c hc => of_decide_eq_true (List.all_eq_true.mp hall c hc)

/-- **A number that is written in the alphabet is read back**, whatever the case mode, the
separators and the bounds it lies within, unless dashes are ignored. The alphabet has the standard
digits, or any characters that are neither white space nor signs. -/
theorem parse_written {target : IntegerType} (htarget : target ∈ IntegerType.all)
    (calls : List Call) (h : (ofCalls target calls).build = .ok n)
    (halphabet : (ofCalls target calls).alphabet = some alphabet)
    (hplain : (∃ radix, alphabet = standardDigits.take radix) ∨ ∀ c ∈ alphabet, IsPlain c)
    (hdashes : (ofCalls target calls).dashes ≠ .ignore) {v : Int}
    (hleast : (ofCalls target calls).least.isAbove v = false)
    (hgreatest : (ofCalls target calls).greatest.isBelow v = false) :
    n.parse (some (written alphabet v)) = .ok (some v) := by
  obtain ⟨hsame, hlengths⟩ := ofCalls_keeps target calls
  have hradix : 2 ≤ alphabet.length := hlengths alphabet halphabet
  replace hplain : ∀ c ∈ alphabet, IsPlain c := by
    rcases hplain with ⟨radix, rfl⟩ | hplain
    · exact fun c hc => isPlain_of_mem_standardDigits c (List.mem_of_mem_take hc)
    · exact hplain
  have hn := wellFormed_build (by rwa [hsame]) h
  obtain ⟨hmin, hmax, hlength⟩ : n.min = (ofCalls target calls).least ∧
      n.max = (ofCalls target calls).greatest ∧ n.radix = alphabet.length := by
    obtain ⟨_, _, _, hsome, -, -, rfl⟩ := build_eq_ok h
    obtain rfl := Option.some.inj (halphabet.symm.trans hsome)
    exact ⟨rfl, rfl, rfl⟩
  -- the text is nothing but a sign and digits
  have hvisible : ∀ c ∈ written alphabet v, isBlank c = false := fun c hc =>
    visible_of_mem_written hplain hc
  have htrim : trim (written alphabet v) = written alphabet v :=
    trim_eq_self (fun c hc => hvisible c (List.mem_of_mem_head? hc))
      fun c hc => hvisible c (List.mem_of_mem_getLast? hc)
  have hmarks := marks_written h halphabet hplain hradix hdashes v
  have hlegal : n.illegal? (written alphabet v) = none := by
    rw [illegal?, hmarks, ← length_written hradix]
    exact List.getElem?_eq_none (Nat.le_refl _)
  have hdigits : Mark.digits (signed alphabet.length v) ≠ [] := by
    rw [digits_signed]
    exact leadingDigits_ne_nil _ _
  have hne : (written alphabet v).all isBlank = false := by
    rw [← Bool.not_eq_true, List.all_eq_true]
    intro hblank
    have hnil : written alphabet v = [] := List.eq_nil_iff_forall_not_mem.mpr fun c hc => by
      simpa [hvisible c hc] using hblank c hc
    have hzero := length_written hradix v
    rw [hnil, List.length_nil, eq_comm, List.length_eq_zero_iff] at hzero
    exact hdigits (by rw [hzero]; rfl)
  rw [parse_eq hn hne]
  simp only [htrim, hlegal, hmarks, hlength, hdigits, denoted_signed, hmin, hmax, hleast, hgreatest,
    if_false, Bool.false_eq_true]

/-- The least number of 8 bits, in an alphabet of two letters. -/
theorem parse_written_least :
    ∃ n, (ofCalls .i8 [.alphabet ['o', 'I'], .dashes .ignoreInside, .separator ' ']).build = .ok n ∧
      written ['o', 'I'] (-128) = "-Iooooooo".toList ∧
      n.parse (some "-Iooooooo".toList) = .ok (some (-128)) := by
  have hsome : (ofCalls .i8 [.alphabet ['o', 'I'], .dashes .ignoreInside,
      .separator ' ']).build.toOption.isSome = true := by decide +kernel
  have hwritten : written ['o', 'I'] (-128) = "-Iooooooo".toList := by
    simp [written, leadingDigits]
  rcases h : (ofCalls .i8 [.alphabet ['o', 'I'], .dashes .ignoreInside, .separator ' ']).build with
    _ | n
  · rw [h] at hsome
    cases hsome
  · refine ⟨n, rfl, hwritten, ?_⟩
    rw [← hwritten]
    have hplain : ∀ c ∈ ['o', 'I'], IsPlain c := by
      simp only [List.forall_mem_cons]
      exact ⟨by decide, by decide, nofun⟩
    exact parse_written (by decide) _ h rfl (.inr hplain) (by decide) (by decide) (by decide)

end Builder

end TextTypes.Numeral
