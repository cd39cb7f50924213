import Mathlib.Data.Nat.Bitwise
import Mathlib.Tactic.Common
import TextTypes.Unicode.Letters

/-!
Single images.

Where a case mapping has one character for an image, it keeps that character. And no character is
the only image of other characters under both mappings: what a small letter is made of is not made
of a capital. The code points of the tables are collected into numbers, bit by bit, and the numbers
have no bit in common.
-/

namespace TextTypes.Unicode.Letters

/-! ### Sets of numbers -/

/-- The number with a bit for each of some numbers. -/
def bits (ns : List Nat) : Nat := ns.foldr (fun n m => Nat.lor (Nat.shiftLeft 1 n) m) 0

lemma testBit_bits (ns : List Nat) (n : Nat) : (bits ns).testBit n = decide (n ∈ ns) := by
  induction ns with
  | nil => simp [bits]
  | cons m ns ih =>
    have hcons : bits (m :: ns) = 1 <<< m ||| bits ns := rfl
    rw [hcons, Nat.testBit_lor, ih, Nat.one_shiftLeft, Nat.testBit_two_pow]
    simp [eq_comm]

/-- Whether two lists of numbers have none in common. -/
def disjoint (ns ms : List Nat) : Bool := Nat.beq (Nat.land (bits ns) (bits ms)) 0

lemma notMem_of_disjoint {ns ms : List Nat} (h : disjoint ns ms = true) {n : Nat} (hn : n ∈ ns) :
    n ∉ ms := by
  intro hm
  have hzero : bits ns &&& bits ms = 0 := Nat.eq_of_beq_eq_true h
  have hbit := congrArg (Nat.testBit · n) hzero
  simp [testBit_bits, hn, hm] at hbit

/-! ### Tables -/

namespace Table

/-- The code points that a table moves. -/
def sources (t : Table) : List Nat :=
  t.special.map Prod.fst ++
    t.shifts.flatMap fun s => List.range' s.first ((s.last - s.first) / s.step + 1) s.step

/-- The images of the shifted runs of a table. -/
def targets (t : Table) : List Nat :=
  t.shifts.flatMap fun s => List.range' s.image ((s.last - s.first) / s.step + 1) s.step

/-- Whether no image of a shifted run is moved, and every other image has more characters than
one. -/
structure Settled (t : Table) : Prop where
  fixed : disjoint t.targets t.sources = true
  long : (t.special.all fun e =>
    Nat.ble 2 e.2.length && e.2.all fun n => (CodePoint.scalar? n).isSome) = true

variable {t : Table} {n : Nat}

/-- The place of a code point in a shifted run. -/
lemma exists_place {s : Shift} (h : s.covers n = true) :
    ∃ i < (s.last - s.first) / s.step + 1, n = s.first + s.step * i ∧
      s.apply n = s.image + s.step * i := by
  simp only [Shift.covers, Bool.and_eq_true, decide_eq_true_eq, beq_iff_eq] at h
  obtain ⟨⟨hfirst, hlast⟩, hstep⟩ := h
  have hmul : s.step * ((n - s.first) / s.step) = n - s.first :=
    Nat.mul_div_cancel' (Nat.dvd_of_mod_eq_zero hstep)
  have hle : (n - s.first) / s.step ≤ (s.last - s.first) / s.step :=
    Nat.div_le_div_right (Nat.sub_le_sub_right hlast s.first)
  refine ⟨(n - s.first) / s.step, Nat.lt_succ_of_le hle, ?_, ?_⟩
  · omega
  · rw [Shift.apply, hmul]

lemma mem_sources {s : Shift} (hs : s ∈ t.shifts) (h : s.covers n = true) : n ∈ t.sources := by
  obtain ⟨i, hi, hn, -⟩ := exists_place h
  exact List.mem_append_right _ (List.mem_flatMap.mpr ⟨s, hs, List.mem_range'.mpr ⟨i, hi, hn⟩⟩)

lemma apply_mem_targets {s : Shift} (hs : s ∈ t.shifts) (h : s.covers n = true) :
    s.apply n ∈ t.targets := by
  obtain ⟨i, hi, -, himage⟩ := exists_place h
  exact List.mem_flatMap.mpr ⟨s, hs, List.mem_range'.mpr ⟨i, hi, himage⟩⟩

lemma image_of_notMem (h : n ∉ t.sources) : t.image n = [n] := by
  unfold image
  split
  next e hfind =>
    have hkey : e.1 = n := beq_iff_eq.mp (List.find?_some hfind :)
    refine absurd (List.mem_append_left _ (List.mem_map.mpr ⟨e, ?_, hkey⟩)) h
    exact List.mem_of_find?_eq_some hfind
  next =>
    split
    next s hfind =>
      have hcovers : s.covers n = true := (List.find?_some hfind :)
      exact absurd (mem_sources (List.mem_of_find?_eq_some hfind) hcovers) h
    next => rfl

lemma length_scalars {ns : List Nat} (h : ∀ m ∈ ns, (CodePoint.scalar? m).isSome = true) :
    (CodePoint.scalars ns).length = ns.length := by
  rw [CodePoint.scalars, List.length_filterMap_eq_countP, List.countP_eq_length]
  exact h

lemma scalars_singleton {c : Char} (h : CodePoint.scalars [n] = [c]) : c.toNat = n := by
  rcases hn : CodePoint.scalar? n with _ | d
  · simp [CodePoint.scalars, hn] at h
  · obtain rfl : d = c := by simpa [CodePoint.scalars, hn] using h
    exact CodePoint.toNat_of_scalar? hn

/-- A single image is the character itself or the image of a shifted run. -/
lemma Settled.eq_or_mem_targets (ht : t.Settled) {c d : Char}
    (h : CodePoint.scalars (t.image c.toNat) = [d]) : d = c ∨ d.toNat ∈ t.targets := by
  unfold image at h
  split at h
  next e hfind =>
    have hlong := List.all_eq_true.mp ht.long e (List.mem_of_find?_eq_some hfind)
    simp only [Bool.and_eq_true, Nat.ble_eq, List.all_eq_true] at hlong
    have hlength := length_scalars hlong.2
    rw [h, List.length_singleton] at hlength
    omega
  next =>
    split at h
    next s hfind =>
      have hcovers : s.covers c.toNat = true := (List.find?_some hfind :)
      rw [scalars_singleton h]
      exact .inr (apply_mem_targets (List.mem_of_find?_eq_some hfind) hcovers)
    next => exact .inl (Char.toNat_inj.mp (scalars_singleton h))

/-- **A single image has itself for an image.** -/
theorem Settled.image_image (ht : t.Settled) {c d : Char}
    (h : CodePoint.scalars (t.image c.toNat) = [d]) :
    CodePoint.scalars (t.image d.toNat) = [d] := by
  rcases ht.eq_or_mem_targets h with rfl | hmem
  · exact h
  · rw [image_of_notMem (notMem_of_disjoint ht.fixed hmem), CodePoint.scalars_toNat]

end Table

lemma settled_upperTable : upperTable.Settled := ⟨by decide +kernel, by decide +kernel⟩

lemma settled_lowerTable : lowerTable.Settled := ⟨by decide +kernel, by decide +kernel⟩

lemma disjoint_targets : disjoint lowerTable.targets upperTable.targets = true := by
  decide +kernel

/-! ### The mappings -/

/-- Whether a table moves characters below 0x80 as `f` does. -/
structure Table.Extends (t : Table) (f : Char → Char) : Prop where
  fixed : disjoint ((List.range 0x80).filter fun n => Nat.beq (f (Char.ofNat n)).toNat n)
    t.sources = true
  moved : ((List.range 0x80).all fun n => Nat.beq (f (Char.ofNat n)).toNat n ||
    t.image n == [(f (Char.ofNat n)).toNat]) = true

lemma extends_upperTable : upperTable.Extends Char.toUpper := ⟨by decide +kernel, by decide +kernel⟩

lemma extends_lowerTable : lowerTable.Extends Char.toLower := ⟨by decide +kernel, by decide +kernel⟩

lemma Table.Extends.scalars_image {t : Table} {f : Char → Char} (h : t.Extends f) {c : Char}
    (hc : c.toNat < 0x80) : CodePoint.scalars (t.image c.toNat) = [f c] := by
  have hmem : c.toNat ∈ List.range 0x80 := List.mem_range.mpr hc
  have himage : t.image c.toNat = [(f c).toNat] := by
    by_cases hsame : (f c).toNat = c.toNat
    · rw [hsame]
      refine Table.image_of_notMem (notMem_of_disjoint h.fixed (List.mem_filter.mpr ⟨hmem, ?_⟩))
      rw [Char.ofNat_toNat, hsame, Nat.beq_refl]
    · have hmoved := List.all_eq_true.mp h.moved c.toNat hmem
      rw [Char.ofNat_toNat, Bool.or_eq_true, Nat.beq_eq, beq_iff_eq] at hmoved
      exact hmoved.resolve_left hsame
  rw [himage, CodePoint.scalars_toNat]

lemma upper_eq (c : Char) : upper c = CodePoint.scalars (upperTable.image c.toNat) := by
  unfold upper
  split
  next hc => exact (extends_upperTable.scalars_image hc).symm
  next => rfl

lemma lower_eq (c : Char) : lower c = CodePoint.scalars (lowerTable.image c.toNat) := by
  unfold lower
  split
  next hc => exact (extends_lowerTable.scalars_image hc).symm
  next => rfl

variable {a b c : Char}

/-- **A single upper-case image is upper case.** -/
theorem upper_of_upper (h : upper a = [c]) : upper c = [c] := by
  rw [upper_eq] at h ⊢
  exact settled_upperTable.image_image h

/-- **A single lower-case image is lower case.** -/
theorem lower_of_lower (h : lower a = [c]) : lower c = [c] := by
  rw [lower_eq] at h ⊢
  exact settled_lowerTable.image_image h

/-- **No character is made by both mappings** of other characters. -/
theorem eq_of_lower_of_upper (hlower : lower a = [c]) (hupper : upper b = [c]) :
    c = a ∨ c = b := by
  rw [lower_eq] at hlower
  rw [upper_eq] at hupper
  rcases settled_lowerTable.eq_or_mem_targets hlower with hc | hlow
  · exact .inl hc
  · rcases settled_upperTable.eq_or_mem_targets hupper with hc | hup
    · exact .inr hc
    · exact absurd hup (notMem_of_disjoint disjoint_targets hlow)

end TextTypes.Unicode.Letters
