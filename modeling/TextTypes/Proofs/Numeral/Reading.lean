import TextTypes.Proofs.Numeral.Digits
import TextTypes.Proofs.Numeral.Marks

/-!
A numeral is read as what it denotes.

The run keeps the number in 64 bits. Where it leaves them the run gives up, and the whole number
violates the bound that is reported; a number that stays inside is held against the bounds at the
end.
-/

namespace TextTypes.Numeral

open TextTypes.Unicode

variable (n : Numeral)

/-! ### Reading one character -/

/-- The state after some characters. -/
def after (ms : List Mark) : State where
  negative := .sign true ∈ ms
  leading := Mark.leading ms
  count := (Mark.digits ms).length
  value := Mark.denoted n.radix ms

/-- The error for a number past the 64 bits. -/
def outside (v : Int) : ParseError := if v < 0 then .belowMin n.min else .aboveMax n.max

/-- What a built numeral can rely on. -/
structure WellFormed : Prop where
  digit_range : ∀ c v, n.digit? c = some v → 0 ≤ v ∧ v < n.radix
  target : n.target ∈ IntegerType.all
  min_holds : n.target.holds n.min.value
  max_holds : n.target.holds n.max.value

variable {n} {ms : List Mark} {c : Char} {index : Nat}

/-- A character that is not a digit is a sign, on one side or the other, or it is ignored. -/
lemma mark?_of_not_digit (hd : n.digit? c = none) (leading : Bool) :
    n.mark? leading c =
      if leading && n.isSign c then some (.sign (negativeSigns.contains c))
      else if n.ignored.containsChar c then some .ignored
      else none := by
  have hsides : positiveSigns.contains c = true → negativeSigns.contains c = false := by
    intro hp
    have hcases : c = '+' ∨ c = '\uff0b' := by simpa [positiveSigns] using hp
    rcases hcases with rfl | rfl <;> decide
  unfold mark? isSign
  simp only [hd]
  rcases hp : positiveSigns.contains c with _ | _
  · rcases negativeSigns.contains c with _ | _ <;> simp
  · simp only [hsides hp, Bool.and_true, Bool.true_or, Bool.false_and, Bool.and_false]
    split <;> simp

lemma step_digit {v : Nat} (hd : n.digit? c = some (v : Int)) :
    n.step (n.after ms) index c =
      if IntegerType.i64.holds (Mark.denoted n.radix (ms ++ [.digit v])) then
        .ok (n.after (ms ++ [.digit v]))
      else .error (n.outside (Mark.denoted n.radix (ms ++ [.digit v]))) := by
  have hvalue : n.append (n.after ms) v = Mark.denoted n.radix (ms ++ [.digit v]) := by
    simp [append, after, Mark.denoted_concat_digit]
  have hafter : { n.after ms with
        leading := false, count := (n.after ms).count + 1,
        value := Mark.denoted n.radix (ms ++ [.digit v]) } = n.after (ms ++ [.digit v]) := by
    have hone : Mark.digits [.digit v] = [v] := rfl
    simp [after, Mark.leading_concat, Mark.digits_append, hone]
  simp only [step, hd, hvalue, hafter]
  by_cases hholds : IntegerType.i64.holds (Mark.denoted n.radix (ms ++ [.digit v])) = true
  · simp only [hholds, if_true]
  · have hside : (Mark.denoted n.radix (ms ++ [.digit v]) < 0) ↔
        (n.after ms).negative = true := by
      rw [Mark.neg_iff hholds]
      simp [after]
    simp only [hholds, outside, hside, Bool.false_eq_true, if_false]
    split <;> rfl

lemma step_sign (hd : n.digit? c = none) (hl : Mark.leading ms = true) (hs : n.isSign c = true)
    {negative : Bool} (hneg : negativeSigns.contains c = negative) :
    n.step (n.after ms) index c = .ok (n.after (ms ++ [.sign negative])) := by
  have hnone : Mark.digits [.sign negative] = [] := rfl
  have hsign := Mark.sign_notMem_of_leading hl
  have hleading : (n.after ms).leading = true := hl
  simp only [step, hd, hleading, hs, hneg, Bool.and_self, if_true]
  simp [after, Mark.leading_concat, Mark.digits_append, hnone, Mark.denoted_concat_sign hl,
    Mark.denoted_of_leading hl, hsign]

lemma step_ignored (hd : n.digit? c = none) (hs : (Mark.leading ms && n.isSign c) = false)
    (hi : n.ignored.containsChar c = true) :
    n.step (n.after ms) index c = .ok (n.after (ms ++ [.ignored])) := by
  have hnone : Mark.digits [.ignored] = [] := rfl
  have hleading : (n.after ms).leading = Mark.leading ms := rfl
  simp only [step, hd, hleading, hs, hi, Bool.false_eq_true, if_false, if_true]
  simp [after, Mark.leading_concat, Mark.digits_append, hnone, Mark.denoted_concat_ignored]

/-- **One character is read as its mark says**, and the reading ends where the number leaves the
64 bits or the character has no mark. -/
theorem step_after (hn : n.WellFormed)
    (hold : IntegerType.i64.holds (Mark.denoted n.radix ms) = true) :
    n.step (n.after ms) index c =
      match n.mark? (Mark.leading ms) c with
      | some m =>
        if IntegerType.i64.holds (Mark.denoted n.radix (ms ++ [m])) then .ok (n.after (ms ++ [m]))
        else .error (n.outside (Mark.denoted n.radix (ms ++ [m])))
      | none => .error (.invalid (.of c) c.toNat index) := by
  rcases hd : n.digit? c with _ | v
  · rw [mark?_of_not_digit hd]
    rcases hs : Mark.leading ms && n.isSign c with _ | _
    · rcases hi : n.ignored.containsChar c with _ | _
      · have hleading : (n.after ms).leading = Mark.leading ms := rfl
        simp only [step, hd, hleading, hs, hi, Bool.false_eq_true, if_false]
      · simp only [Bool.false_eq_true, if_false, if_true, Mark.denoted_concat_ignored, hold]
        exact step_ignored hd hs hi
    · obtain ⟨hl, hsign⟩ := Bool.and_eq_true_iff.mp hs
      have hzero : IntegerType.i64.holds 0 = true := by decide
      simp only [if_true, Mark.denoted_concat_sign hl, hzero]
      exact step_sign hd hl hsign rfl
  · obtain ⟨value, rfl⟩ := Int.eq_ofNat_of_zero_le (hn.digit_range c v hd).1
    simp only [mark?, hd, Int.toNat_natCast]
    exact step_digit hd

/-! ### Reading a text -/

lemma sign_notMem_marks (s : List Char) (negative : Bool) : .sign negative ∉ n.marks false s := by
  induction s with
  | nil => simp [marks]
  | cons c rest ih =>
    rw [marks]
    split
    · next m hm =>
      have hne : .sign negative ≠ m := by
        rintro rfl
        unfold mark? at hm
        split at hm <;> simp at hm
      simpa [hne] using ih
    · simp

/-- Only a digit leads out of the 64 bits, and a numeral with digits has a radix. -/
lemma eq_digit_of_not_holds (hn : n.WellFormed)
    (hold : IntegerType.i64.holds (Mark.denoted n.radix ms) = true) {m : Mark}
    (hm : n.mark? (Mark.leading ms) c = some m)
    (hout : ¬IntegerType.i64.holds (Mark.denoted n.radix (ms ++ [m])) = true) :
    ∃ v, m = .digit v ∧ 0 < n.radix := by
  rcases hd : n.digit? c with _ | v
  · rw [mark?_of_not_digit hd] at hm
    by_cases hs : (Mark.leading ms && n.isSign c) = true
    · obtain ⟨hl, -⟩ := Bool.and_eq_true_iff.mp hs
      rw [if_pos hs, Option.some.injEq] at hm
      rw [← hm, Mark.denoted_concat_sign hl] at hout
      exact absurd (by decide) hout
    · rw [if_neg hs] at hm
      split at hm
      · rw [← Option.some.inj hm, Mark.denoted_concat_ignored] at hout
        exact absurd hold hout
      · cases hm
  · have hrange := hn.digit_range c v hd
    simp only [mark?, hd, Option.some.injEq] at hm
    exact ⟨_, hm.symm, by omega⟩

/-- **A run reads a text as its marks say.** It ends at the first illegal character, or earlier
where the number leaves the 64 bits; then the whole number is outside of them as well, on the
same side. -/
theorem run_after (hn : n.WellFormed) (s : List Char) (index : Nat)
    (hold : IntegerType.i64.holds (Mark.denoted n.radix ms) = true) :
    n.run (n.after ms) index s =
      let all := ms ++ n.marks (Mark.leading ms) s
      if IntegerType.i64.holds (Mark.denoted n.radix all) then
        match s[(n.marks (Mark.leading ms) s).length]? with
        | some c =>
          .error (.invalid (.of c) c.toNat (index + (n.marks (Mark.leading ms) s).length))
        | none => .ok (n.after all)
      else .error (n.outside (Mark.denoted n.radix all)) := by
  induction s generalizing ms index with
  | nil => simp [marks, run, hold]
  | cons c rest ih =>
    rw [run, step_after hn hold, marks]
    rcases hm : n.mark? (Mark.leading ms) c with _ | m
    · simp [hold]
    have hleading := Mark.leading_concat ms m
    have hall (more : List Mark) : ms ++ [m] ++ more = ms ++ m :: more := by simp
    have hindex (k : Nat) : index + 1 + k = index + (k + 1) := by omega
    by_cases hnext : IntegerType.i64.holds (Mark.denoted n.radix (ms ++ [m])) = true
    · simp only [hnext, if_true]
      rw [ih _ hnext, ← hleading]
      simp only [hall, hindex, List.length_cons, List.getElem?_cons_succ]
    · -- only a digit can leave the 64 bits, and no sign follows a digit
      obtain ⟨v, rfl, hradix⟩ := eq_digit_of_not_holds hn hold hm hnext
      have hsign := sign_notMem_marks (n := n) rest
      have hout := Mark.not_holds_append hradix hsign hnext
      have hside : Mark.denoted n.radix (ms ++ [.digit v] ++ n.marks false rest) < 0 ↔
          Mark.denoted n.radix (ms ++ [.digit v]) < 0 := by
        rw [Mark.neg_iff hout, Mark.neg_iff hnext]
        simp [hsign]
      have hfalse : (Mark.leading ms && decide (Mark.digit v = .ignored)) = false := by simp
      rw [hall] at hout hside
      simp only [hnext, hfalse, hout, outside, hside, Bool.false_eq_true, if_false]

/-! ### The bounds -/

lemma i64_of_target {t : IntegerType} (ht : t ∈ IntegerType.all) :
    -2 ^ 63 ≤ t.min ∧ t.max < 2 ^ 63 := by
  have hall : ∀ t ∈ IntegerType.all, -2 ^ 63 ≤ t.min ∧ t.max < 2 ^ 63 := by decide
  exact hall t ht

/-- A number past the 64 bits violates the bound on its side, and the least value is held against
it first. -/
lemma check_of_not_holds (hn : n.WellFormed) {v : Int}
    (h : ¬IntegerType.i64.holds v = true) : n.check v = .error (n.outside v) := by
  obtain ⟨hlow, hhigh⟩ := i64_of_target hn.target
  have hmin := hn.min_holds
  have hmax := hn.max_holds
  rw [holds_i64_iff] at h
  simp only [IntegerType.holds, Bool.and_eq_true, decide_eq_true_eq] at hmin hmax
  unfold check outside
  by_cases hneg : v < 0
  · have habove : n.min.isAbove v = true := by
      unfold Bound.isAbove
      cases hb : n.min <;> simp only [hb, Bound.value] at hmin <;> simp <;> omega
    rw [if_pos habove, if_pos hneg]
  · have habove : ¬n.min.isAbove v = true := by
      unfold Bound.isAbove
      cases hb : n.min <;> simp only [hb, Bound.value] at hmin <;> simp <;> omega
    have hbelow : n.max.isBelow v = true := by
      unfold Bound.isBelow
      cases hb : n.max <;> simp only [hb, Bound.value] at hmax <;> simp <;> omega
    rw [if_neg habove, if_pos hbelow, if_neg hneg]

/-- A number between the bounds is a value of the type. -/
lemma holds_of_check (hn : n.WellFormed) {v w : Int} (h : n.check v = .ok w) :
    n.target.holds w = true := by
  have hmin := hn.min_holds
  have hmax := hn.max_holds
  simp only [IntegerType.holds, Bool.and_eq_true, decide_eq_true_eq] at hmin hmax ⊢
  unfold check at h
  split at h
  · cases h
  split at h
  · cases h
  next habove hbelow =>
  obtain rfl : v = w := Except.ok.inj h
  have hlow : n.min.value ≤ v := by
    unfold Bound.isAbove at habove
    cases hb : n.min <;> simp [hb, Bound.value] at habove ⊢ <;> omega
  have hhigh : v ≤ n.max.value := by
    unfold Bound.isBelow at hbelow
    cases hb : n.max <;> simp [hb, Bound.value] at hbelow ⊢ <;> omega
  omega

/-- **A text is read up to its first illegal character, and the number that it denotes is held
against the bounds**, unless no digit was read. -/
theorem read_eq (hn : n.WellFormed) (s : List Char) :
    n.read s =
      let ms := n.marks true (trim s)
      let d := Mark.denoted n.radix ms
      match n.illegal? (trim s) with
      | some c =>
        if IntegerType.i64.holds d then
          .error (.invalid (.of c) c.toNat (margin s + ms.length))
        else n.check d
      | none => if Mark.digits ms = [] then .error (.tooShort 1 0) else n.check d := by
  have hstart : ({} : State) = n.after [] := rfl
  have hzero : IntegerType.i64.holds 0 = true := by decide
  have hnothing : Mark.denoted n.radix [] = 0 := rfl
  have hleading : Mark.leading [] = true := rfl
  unfold read illegal?
  rw [hstart, run_after hn (trim s) (margin s) (by rw [hnothing, hzero]), hleading,
    List.nil_append]
  by_cases hold : IntegerType.i64.holds (Mark.denoted n.radix (n.marks true (trim s))) = true
  · simp only [hold, if_true]
    rcases (trim s)[(n.marks true (trim s)).length]? with _ | c
    · have hcount : (n.after (n.marks true (trim s))).count = 0 ↔
          Mark.digits (n.marks true (trim s)) = [] := List.length_eq_zero_iff
      show (do if (n.after (n.marks true (trim s))).count = 0 then throw (.tooShort 1 0)
               n.check (n.after (n.marks true (trim s))).value : Except ParseError Int) = _
      simp only [hcount]
      split <;> rfl
    · rfl
  · have hdigits : Mark.digits (n.marks true (trim s)) ≠ [] := by
      intro hnil
      rw [Mark.denoted_of_digits hnil, hzero] at hold
      exact hold rfl
    simp only [hold, hdigits, check_of_not_holds hn hold, Bool.false_eq_true, if_false]
    rcases (trim s)[(n.marks true (trim s)).length]? with _ | c <;> rfl

/-- Only absent and blank input has no number. -/
lemma parse_eq_none_iff (n : Numeral) (input : Option (List Char)) :
    n.parse input = .ok none ↔ ∀ s ∈ input, s.all isBlank = true := by
  rcases input with _ | s
  · simp [parse]
  have hsome : (∀ t ∈ some s, t.all isBlank = true) ↔ s.all isBlank = true := by
    constructor
    · exact fun h => h s rfl
    · rintro h _ ⟨⟩
      exact h
  rw [hsome, parse]
  rcases s.all isBlank with _ | _
  · cases n.read s <;> simp [Except.map]
  · simp

lemma parse_of_not_blank {s : List Char} (hs : s.all isBlank = false) :
    n.parse (some s) = (n.read s).map some := by
  simp only [parse, hs, Bool.false_eq_true, if_false]

/-- The outcome of a text that is not blank, by what it denotes. -/
lemma parse_eq (hn : n.WellFormed) {s : List Char} (hs : s.all isBlank = false) :
    n.parse (some s) =
      let ms := n.marks true (trim s)
      let d := Mark.denoted n.radix ms
      match n.illegal? (trim s) with
      | some c =>
        if IntegerType.i64.holds d then
          .error (.invalid (.of c) c.toNat (margin s + ms.length))
        else if d < 0 then .error (.belowMin n.min)
        else .error (.aboveMax n.max)
      | none =>
        if Mark.digits ms = [] then .error (.tooShort 1 0)
        else if n.min.isAbove d then .error (.belowMin n.min)
        else if n.max.isBelow d then .error (.aboveMax n.max)
        else .ok (some d) := by
  rw [parse_of_not_blank hs, read_eq hn]
  simp only
  rcases n.illegal? (trim s) with _ | c
  · simp only [check]
    split_ifs <;> rfl
  · by_cases hold : IntegerType.i64.holds (Mark.denoted n.radix (n.marks true (trim s))) = true
    · simp only [hold, if_true]
      rfl
    · simp only [hold, check_of_not_holds hn hold, outside, Bool.false_eq_true, if_false]
      split <;> rfl

/-- A number that is read is a value of the type. -/
lemma holds_of_parse (hn : n.WellFormed) {input : Option (List Char)} {v : Int}
    (h : n.parse input = .ok (some v)) : n.target.holds v = true := by
  rcases input with _ | s
  · cases h
  rcases hs : s.all isBlank with _ | _
  swap
  · rw [(parse_eq_none_iff n (some s)).mpr (by rintro _ ⟨⟩; exact hs)] at h
    cases h
  rw [parse_of_not_blank hs] at h
  rcases hread : n.read s with _ | w
  · rw [hread] at h
    cases h
  obtain rfl : w = v := by simpa [hread, Except.map] using h
  -- the last thing a reading does is to hold the number against the bounds
  rw [read_eq hn] at hread
  simp only at hread
  split at hread <;> split at hread
  · cases hread
  · exact holds_of_check hn hread
  · cases hread
  · exact holds_of_check hn hread

/-! ### Built numerals -/

namespace Builder

variable {b : Builder}

lemma wellFormed_build (ht : b.target ∈ IntegerType.all) (h : b.build = .ok n) :
    n.WellFormed := by
  obtain ⟨alphabet, map, ignored, halphabet, hfit, -, hn⟩ := build_eq_ok h
  simp only [boundsFit, Bool.and_eq_true] at hfit
  refine ⟨fun c v hv => ?_, ?_, ?_, ?_⟩
  · obtain ⟨_, i, a, hsome, hi, -, rfl⟩ := (digit?_build h c v).mp hv
    have hlt := (List.getElem?_eq_some_iff.mp hi).1
    obtain rfl := Option.some.inj (halphabet.symm.trans hsome)
    simp only [hn]
    omega
  · rw [hn]
    exact ht
  · rw [hn]
    exact hfit.1.1
  · rw [hn]
    exact hfit.1.2

/-- **A built numeral accepts exactly the texts that denote a number within its bounds, and
answers with that number.** -/
theorem parse_build (ht : b.target ∈ IntegerType.all) (h : b.build = .ok n) :
    (∀ input, n.parse input = .ok none ↔ ∀ s ∈ input, s.all isBlank = true) ∧
      (∀ input v, n.parse input = .ok (some v) → b.target.holds v = true) ∧
      ∀ s : List Char, s.all isBlank = false →
        let ms := n.marks true (trim s)
        let d := Mark.denoted n.radix ms
        (∀ v, n.parse (some s) = .ok (some v) ↔
          n.illegal? (trim s) = none ∧ Mark.digits ms ≠ [] ∧
            b.least.isAbove d = false ∧ b.greatest.isBelow d = false ∧ v = d) ∧
        n.parse (some s) =
          match n.illegal? (trim s) with
          | some c =>
            if IntegerType.i64.holds d then
              .error (.invalid (.of c) c.toNat (margin s + ms.length))
            else if d < 0 then .error (.belowMin b.least)
            else .error (.aboveMax b.greatest)
          | none =>
            if Mark.digits ms = [] then .error (.tooShort 1 0)
            else if b.least.isAbove d then .error (.belowMin b.least)
            else if b.greatest.isBelow d then .error (.aboveMax b.greatest)
            else .ok (some d) := by
  have hn := wellFormed_build ht h
  obtain ⟨hmin, hmax, htarget⟩ : n.min = b.least ∧ n.max = b.greatest ∧ n.target = b.target := by
    obtain ⟨_, _, _, -, -, -, rfl⟩ := build_eq_ok h
    exact ⟨rfl, rfl, rfl⟩
  refine ⟨parse_eq_none_iff n, fun input v hv => htarget ▸ holds_of_parse hn hv, ?_⟩
  intro s hs ms d
  have heq := parse_eq hn hs
  simp only [hmin, hmax] at heq
  refine ⟨fun v => ?_, heq⟩
  rw [heq]
  rcases n.illegal? (trim s) with _ | c
  · simp only [true_and]
    split
    · next hnil => simp [ms, hnil]
    split
    · next habove => simp [d, ms, habove]
    split
    · next hbelow => simp [d, ms, hbelow]
    next hdigits habove hbelow =>
    simp [d, ms, hdigits, habove, hbelow, eq_comm]
  · simp only [reduceCtorEq, false_and, iff_false]
    split
    · simp
    split <;> simp

/-- Hexadecimal numbers of 64 bits, in capitals. -/
def hexadecimal : Builder := (({ target := .i64 } : Builder).allowBase 16).withCaseSensitive true

/-- The least number, and a number just past the greatest. -/
theorem parse_build_hexadecimal :
    ∃ n, hexadecimal.build = .ok n ∧
      n.parse (some "-8000000000000000".toList) = .ok (some (-2 ^ 63)) ∧
      n.parse (some "8000000000000000".toList) = .error (.aboveMax (.inclusive (2 ^ 63 - 1))) := by
  let digits : List Mark := .digit 8 :: List.replicate 15 (.digit 0)
  have hmarks : hexadecimal.build.toOption.map (fun n =>
      (n.radix, ["-8000000000000000", "8000000000000000"].map fun s =>
        (n.marks true (trim s.toList), n.illegal? (trim s.toList)))) =
      some (16, [(.sign true :: digits, none), (digits, none)]) := by decide +kernel
  rcases h : hexadecimal.build with _ | n
  · rw [h] at hmarks
    cases hmarks
  simp only [h, Except.toOption, Option.map_some, List.map_cons, List.map_nil, Option.some.injEq,
    Prod.mk.injEq, List.cons.injEq, and_true] at hmarks
  obtain ⟨hradix, ⟨hleast, hlegal⟩, hpast, hlegal'⟩ := hmarks
  obtain ⟨-, -, htexts⟩ := parse_build (by decide) h
  refine ⟨n, rfl, ?_, ?_⟩
  · refine ((htexts "-8000000000000000".toList (by decide)).1 _).mpr ⟨hlegal, ?_⟩
    rw [hradix, hleast]
    decide
  · refine (htexts "8000000000000000".toList (by decide)).2.trans ?_
    rw [hradix, hpast, hlegal']
    decide

end Builder

end TextTypes.Numeral
