import TextTypes.Proofs.Unicode.Mappings
import TextTypes.Proofs.Unicode.Normal

/-!
Case mappings and white space.

No case mapping moves white space, makes white space of anything else or makes a character vanish.
The tables are checked row by row: a shifted run lies between white space, and so does its image.
-/

namespace TextTypes.Unicode

/-- Whether all numbers from `first` to `last` lie in one stretch of characters without white
space. -/
def clear (first last : Nat) : Bool :=
  (Nat.ble 0xA1 first && Nat.ble last 0x167F) || (Nat.ble 0x21 first && Nat.ble last 0x7E) ||
    (Nat.ble 0x1681 first && Nat.ble last 0x1FFF) ||
    (Nat.ble 0x2060 first && Nat.ble last 0x2FFF) ||
    (Nat.ble 0x3001 first && Nat.ble last 0xD7FF) ||
    (Nat.ble 0xE000 first && Nat.ble last 0x10FFFF)

lemma nonblank_of_clear {first last n : Nat} (h : clear first last = true) (hfirst : first ≤ n)
    (hlast : n ≤ last) : nonblank n = true := by
  simp only [clear, nonblank, Bool.or_eq_true, Bool.and_eq_true, Nat.ble_eq] at h ⊢
  omega

lemma isBlank_of_nonblank {c : Char} (h : nonblank c.toNat = true) : isBlank c = false := by
  obtain ⟨d, hd, hblank⟩ := exists_scalar?_of_nonblank h
  rw [CodePoint.scalar?_toNat] at hd
  obtain rfl := Option.some.inj hd
  exact hblank

namespace Letters

/-- What a mapping may make of a character: the character itself or, where it is no white space,
other characters that are none either. -/
def SparesBlank (c : Char) (image : List Char) : Prop :=
  image = [c] ∨ isBlank c = false ∧ image ≠ [] ∧ ∀ d ∈ image, isBlank d = false

namespace SparesBlank

variable {c : Char} {image : List Char}

lemma eq_singleton (h : SparesBlank c image) (hc : isBlank c = true) : image = [c] := by
  rcases h with h | ⟨hblank, -⟩
  · exact h
  · rw [hc] at hblank
    cases hblank

lemma ne_nil (h : SparesBlank c image) : image ≠ [] := by
  rcases h with rfl | ⟨-, h, -⟩
  · exact List.cons_ne_nil c []
  · exact h

lemma isBlank_eq (h : SparesBlank c image) {d : Char} (hd : d ∈ image) :
    isBlank d = isBlank c := by
  rcases h with rfl | ⟨hblank, -, h⟩
  · rw [List.mem_singleton.mp hd]
  · rw [h d hd, hblank]

end SparesBlank

/-- Visible code points make a visible image. -/
lemma sparesBlank_scalars {c : Char} {ns : List Nat} (hc : isBlank c = false) (hne : ns ≠ [])
    (h : ∀ n ∈ ns, nonblank n = true) : SparesBlank c (CodePoint.scalars ns) := by
  refine .inr ⟨hc, ?_, fun d hd => ?_⟩
  · obtain ⟨n, hn⟩ := List.exists_mem_of_ne_nil ns hne
    obtain ⟨d, hd, -⟩ := exists_mem_scalars hn (h n hn)
    exact List.ne_nil_of_mem hd
  · obtain ⟨n, hn, hscalar⟩ := List.mem_filterMap.mp hd
    obtain ⟨e, he, hblank⟩ := exists_scalar?_of_nonblank (h n hn)
    rw [hscalar] at he
    obtain rfl := Option.some.inj he
    exact hblank

/-! ### The tables -/

/-- Whether the rows of a table, and their images, keep clear of white space. -/
def Table.isClear (t : Table) : Bool :=
  t.special.all (fun e => nonblank e.1 && !e.2.isEmpty && e.2.all nonblank) &&
    t.shifts.all fun s => clear s.first s.last && clear s.image (s.image + (s.last - s.first))

lemma isClear_upperTable : upperTable.isClear = true := by decide +kernel

lemma isClear_lowerTable : lowerTable.isClear = true := by decide +kernel

lemma Table.sparesBlank {t : Table} (ht : t.isClear = true) (c : Char) :
    SparesBlank c (CodePoint.scalars (t.image c.toNat)) := by
  simp only [isClear, Bool.and_eq_true, List.all_eq_true] at ht
  obtain ⟨hspecial, hshifts⟩ := ht
  unfold image
  split
  next entry hfind =>
    obtain ⟨⟨hsource, hne⟩, himage⟩ := hspecial entry (List.mem_of_find?_eq_some hfind)
    have hfound := List.find?_some hfind
    rw [beq_iff_eq.mp hfound] at hsource
    exact sparesBlank_scalars (isBlank_of_nonblank hsource) (by simpa using hne) himage
  next =>
    split
    next s hshift =>
      obtain ⟨hsource, himage⟩ := hshifts s (List.mem_of_find?_eq_some hshift)
      have hcovers := List.find?_some hshift
      simp only [Shift.covers, Bool.and_eq_true, decide_eq_true_eq] at hcovers
      have hc := nonblank_of_clear hsource hcovers.1.1 hcovers.1.2
      refine sparesBlank_scalars (isBlank_of_nonblank hc) (List.cons_ne_nil _ _) fun n hn => ?_
      rw [List.mem_singleton.mp hn, Shift.apply]
      exact nonblank_of_clear himage (by omega) (by omega)
    next =>
      exact .inl (CodePoint.scalars_toNat c)

/-! ### The mappings -/

lemma sparesBlank_upper (c : Char) : SparesBlank c (upper c) := by
  rw [upper_eq]
  exact Table.sparesBlank isClear_upperTable c

lemma sparesBlank_lower (c : Char) : SparesBlank c (lower c) := by
  rw [lower_eq]
  exact Table.sparesBlank isClear_lowerTable c

lemma clear_digraphs : ∀ e ∈ digraphs, clear e.1 e.2.1 = true ∧ nonblank e.2.2 = true := by decide

lemma sparesBlank_title (c : Char) : SparesBlank c (title c) := by
  unfold title
  split
  next first last form hfind =>
    obtain ⟨hsource, himage⟩ := clear_digraphs _ (List.mem_of_find?_eq_some hfind)
    have hcovers := List.find?_some hfind
    simp only [Bool.and_eq_true, decide_eq_true_eq] at hcovers
    refine sparesBlank_scalars (isBlank_of_nonblank (nonblank_of_clear hsource hcovers.1 hcovers.2))
      (List.cons_ne_nil _ _) fun n hn => ?_
    rwa [List.mem_singleton.mp hn]
  · have hupper := sparesBlank_upper c
    rcases hu : upper c with _ | ⟨u, rest⟩
    · exact absurd hu hupper.ne_nil
    · rw [hu] at hupper
      rcases hupper with h | ⟨hc, -, hvisible⟩
      · obtain ⟨rfl, rfl⟩ := List.cons.inj h
        exact .inl rfl
      · refine .inr ⟨hc, List.cons_ne_nil _ _, List.forall_mem_cons.mpr ⟨?_, fun d hd => ?_⟩⟩
        · exact hvisible u List.mem_cons_self
        · obtain ⟨e, he, hlower⟩ := List.mem_flatMap.mp hd
          rw [(sparesBlank_lower e).isBlank_eq hlower]
          exact hvisible e (List.mem_cons_of_mem u he)

end TextTypes.Unicode.Letters
