import TextTypes.Proofs.Range.Words

/-!
Vectors of words.

The words of a tier in any order, overlapping and repeated, as they are before they are compacted.
A word fits its tier if its range is not empty and does not go beyond the tier's last code point; it
may start before the tier does. Such vectors are lists of spans, packed.
-/

namespace TextTypes.Range

lemma Span.bounds_injective : Function.Injective Span.bounds := fun _ _ h =>
  ext_bounds (congrArg Prod.fst h) (congrArg Prod.snd h)

/-- No span goes beyond the tier. -/
def Tier.Bounds (t : Tier) (spans : List Span) : Prop := ∀ s ∈ spans, s.hi ≤ t.last

namespace Word

variable {t : Tier} {w : Word t} {ws : List (Word t)} {s : Span} {spans : List Span} {cp : Nat}

/-- A range that fits the tier. -/
def Fits (w : Word t) : Prop := w.lo ≤ w.hi ∧ w.hi ≤ t.last

/-- Packs a range that fits the tier, and no other one. -/
def ofBounds? (lo hi : Nat) : Option (Word t) :=
  if h : lo ≤ hi ∧ hi ≤ t.last then some (pack t ⟨lo, hi, h.1⟩) else none

/-- What the ranges of the words cover. -/
def Covers (ws : List (Word t)) (cp : Nat) : Prop := ∃ w ∈ ws, w.lo ≤ cp ∧ cp ≤ w.hi

lemma ofBounds?_eq {lo hi : Nat} (h : s.hi ≤ t.last) (hlo : s.lo = lo) (hhi : s.hi = hi) :
    ofBounds? lo hi = some (pack t s) := by
  subst hlo hhi
  exact dif_pos ⟨s.lo_le_hi, h⟩

lemma fits_pack (h : s.hi ≤ t.last) : Fits (pack t s) := by
  rw [Fits, lo_pack h, hi_pack h]
  exact ⟨s.lo_le_hi, h⟩

/-- A word is packed from its bounds. -/
lemma pack_bounds (h : w.Fits) : pack t ⟨w.lo, w.hi, h.1⟩ = w := by
  refine BitVec.eq_of_toNat_eq ?_
  rw [toNat_pack h.2]
  exact Nat.div_add_mod' w.toNat _

/-! ### The spans of a vector -/

lemma exists_spans (h : ∀ w ∈ ws, w.Fits) : ∃ spans, t.Bounds spans ∧ spans.map (pack t) = ws := by
  induction ws with
  | nil => exact ⟨[], by simp [Tier.Bounds], rfl⟩
  | cons w ws ih =>
    obtain ⟨hw, hws⟩ := List.forall_mem_cons.mp h
    obtain ⟨spans, hbounds, rfl⟩ := ih hws
    refine ⟨⟨w.lo, w.hi, hw.1⟩ :: spans, List.forall_mem_cons.mpr ⟨hw.2, hbounds⟩, ?_⟩
    rw [List.map_cons, pack_bounds hw]

section Bounds

variable (h : t.Bounds spans)

include h

lemma fits_of_mem_map : ∀ w ∈ spans.map (pack t), Fits w :=
  List.forall_mem_map.mpr fun s hs => fits_pack (h s hs)

lemma covers_map : Covers (spans.map (pack t)) cp ↔ Spans.Covers spans cp := by
  simp only [Covers, Spans.Covers, List.mem_map, exists_exists_and_eq_and, Span.mem_def]
  refine exists_congr fun s => and_congr_right fun hs => ?_
  rw [lo_pack (h s hs), hi_pack (h s hs)]

end Bounds

/-- Words start where something is covered, so no earlier than words that cover as much. -/
lemma first_le {ws' : List (Word t)} (hfits : ∀ w ∈ ws', Fits w)
    (hcovers : ∀ cp, Covers ws' cp → Covers ws cp) (hfirst : ∀ w ∈ ws, t.first ≤ w.lo) :
    ∀ w ∈ ws', t.first ≤ w.lo := fun w hw => by
  obtain ⟨v, hv, hlo, -⟩ := hcovers w.lo ⟨w, hw, Nat.le_refl _, (hfits w hw).1⟩
  exact Nat.le_trans (hfirst v hv) hlo

/-- The spans of a vector are known from the bounds that its words hold. -/
lemma eq_of_map_bounds {ts : List Span} (h : t.Bounds spans)
    (hts : ts.map Span.bounds = (spans.map (pack t)).map (unpack t)) : ts = spans := by
  rw [map_unpack_pack h] at hts
  exact List.map_injective_iff.mpr Span.bounds_injective hts

end Word

end TextTypes.Range
