import Mathlib.Data.Set.Card
import Mathlib.Order.Interval.Finset.Nat
import TextTypes.Proofs.Range.Vectors

/-!
Compacting a vector in place.

The words are sorted as numbers. One cursor reads them one after the other, a second one stands at
the word written last: a word that is read is merged into that one, or written behind it. What
lies between the cursors has been read and is written over or cut off. The words that are kept are
those of the compact spans, so they depend on nothing but what is covered.
-/

namespace TextTypes.Range

namespace Spans

variable {spans : List Span} {s : Span}

lemma setOf_covers_cons :
    {cp | Covers (s :: spans) cp} = ↑(Finset.Icc s.lo s.hi) ∪ {cp | Covers spans cp} := by
  ext cp
  simp [Span.mem_def]

lemma finite_covers (spans : List Span) : {cp | Covers spans cp}.Finite := by
  induction spans with
  | nil => simp
  | cons s spans ih =>
    rw [setOf_covers_cons]
    exact (Finset.finite_toSet _).union ih

/-- **Spans that do not overlap cover as many code points as they are long together.** -/
theorem ncard_covers (h : Ascending spans) : {cp | Covers spans cp}.ncard = size spans := by
  induction spans with
  | nil => simp
  | cons s spans ih =>
    have hdisjoint : Disjoint (↑(Finset.Icc s.lo s.hi) : Set Nat) {cp | Covers spans cp} := by
      rw [Set.disjoint_left]
      rintro cp hcp ⟨u, hu, hmem⟩
      have hlt : s.hi < u.lo := List.rel_of_pairwise_cons h hu
      have hle := (Finset.mem_Icc.mp hcp).2
      have hlo := hmem.1
      omega
    rw [setOf_covers_cons, Set.ncard_union_eq hdisjoint (Finset.finite_toSet _) (finite_covers _),
      Set.ncard_coe_finset, Nat.card_Icc, ih h.of_cons, size_cons, Span.size]
    have := s.lo_le_hi
    omega

end Spans

/-- A vector of words and the place of the word that was written last. -/
structure Merge (t : Tier) where
  write : Nat := 0
  words : List (Word t)

/-- The number after `n`, of those that have 32 bits. -/
def saturatingSucc (n : Nat) : Nat := min (n + 1) (2 ^ 32 - 1)

namespace Merge

variable {t : Tier}

/-- Reads the word at a place. -/
def read? (m : Merge t) (place : Nat) : Option (Merge t) := do
  let current ← m.words[m.write]?
  let next ← m.words[place]?
  if next.lo ≤ saturatingSucc current.hi then
    if current.hi < next.hi then do
      let merged ← Word.ofBounds? current.lo next.hi
      return ⟨m.write, m.words.set m.write merged⟩
    else return m
  else return ⟨m.write + 1, m.words.set (m.write + 1) next⟩

/-- The spans that are done, the one that was written last, those that have been read since, and
those that have not been read. -/
def holding (t : Tier) (done : List Span) (s : Span) (past rest : List Span) : Merge t :=
  ⟨done.length, (done ++ s :: (past ++ rest)).map (pack t)⟩

variable {done past rest : List Span} {s u : Span}

lemma holding_write :
    (holding t done s past rest).words[(holding t done s past rest).write]? = some (pack t s) := by
  simp [holding]

lemma holding_place : (holding t done s past (u :: rest)).words[done.length + 1 + past.length]? =
    some (pack t u) := by
  rw [holding, List.getElem?_map, List.getElem?_append_right (by omega),
    show done.length + 1 + past.length - done.length = past.length + 1 by omega,
    List.getElem?_cons_succ, List.getElem?_append_right (Nat.le_refl _), Nat.sub_self]
  rfl

lemma saturatingSucc_hi (h : s.hi ≤ t.last) : saturatingSucc s.hi = s.hi + 1 := by
  have hlast := t.last_succ_lt
  unfold saturatingSucc
  omega

section Read

variable (hs : s.hi ≤ t.last) (hu : u.hi ≤ t.last)

include hs hu

/-- What touches the span that was written last is merged into it, and left where it is. -/
lemma read?_of_touches (hle : s.lo ≤ u.lo) (htouch : u.lo ≤ s.hi + 1) :
    (holding t done s past (u :: rest)).read? (done.length + 1 + past.length) =
      some (holding t done (s.join u) (past ++ [u]) rest) := by
  have hlo : (s.join u).lo = s.lo := Nat.min_eq_left hle
  rw [read?, holding_write, holding_place]
  simp only [Option.bind_eq_bind, Option.bind_some, Word.lo_pack hs, Word.hi_pack hs,
    Word.lo_pack hu, Word.hi_pack hu, saturatingSucc_hi hs]
  rw [if_pos htouch]
  by_cases hbehind : s.hi < u.hi
  · have hhi : (s.join u).hi = u.hi := Nat.max_eq_right (Nat.le_of_lt hbehind)
    rw [if_pos hbehind, Word.ofBounds?_eq (hhi ▸ hu) hlo hhi]
    simp [holding]
  · have hsame : s.join u = s := Span.ext_bounds hlo (Nat.max_eq_left (Nat.le_of_not_lt hbehind))
    rw [if_neg hbehind, hsame]
    simp [holding]

/-- What lies behind a gap is written behind, over the first of the spans that have been read. -/
lemma exists_read?_of_gap (done past rest : List Span) (hgap : ¬u.lo ≤ s.hi + 1) :
    ∃ past', past'.length = past.length ∧
      (holding t done s past (u :: rest)).read? (done.length + 1 + past.length) =
        some (holding t (done ++ [s]) u past' rest) := by
  rw [read?, holding_write, holding_place]
  simp only [Option.bind_eq_bind, Option.bind_some, Word.lo_pack hs, Word.hi_pack hs,
    Word.lo_pack hu, Word.hi_pack hu, saturatingSucc_hi hs]
  rw [if_neg hgap]
  -- with nothing merged since, the span is written over itself
  cases past with
  | nil => exact ⟨[], rfl, by simp [holding]⟩
  | cons v past => exact ⟨past ++ [u], by simp, by simp [holding]⟩

end Read

/-- **The whole run** writes the merged spans to the front. -/
theorem exists_foldlM_read? (done past : List Span) (hbounds : t.Bounds (s :: rest))
    (hsorted : Spans.Sorted (s :: rest)) :
    ∃ m, (List.range' (done.length + 1 + past.length) rest.length).foldlM read?
        (holding t done s past rest) = some m ∧
      m.words.take (m.write + 1) = (done ++ Spans.absorb s rest).map (pack t) := by
  -- every read moves the first of `rest` to `past` or takes its place in `done`
  induction rest generalizing done s past with
  | nil =>
    refine ⟨holding t done s past [], rfl, ?_⟩
    simp [holding, Spans.absorb, List.take_append]
  | cons u rest ih =>
    obtain ⟨hs, hu, hrest⟩ : s.hi ≤ t.last ∧ u.hi ≤ t.last ∧ t.Bounds rest := by
      simpa [Tier.Bounds] using hbounds
    rw [List.length_cons, List.range'_succ, List.foldlM_cons, Spans.absorb]
    by_cases htouch : u.lo ≤ s.hi + 1
    · have hjoin : t.Bounds (s.join u :: rest) :=
        List.forall_mem_cons.mpr ⟨Nat.max_le.mpr ⟨hs, hu⟩, hrest⟩
      rw [read?_of_touches hs hu (List.rel_of_pairwise_cons hsorted List.mem_cons_self) htouch,
        if_pos htouch]
      simpa [Nat.add_assoc] using ih done (past ++ [u]) hjoin (Spans.sorted_join hsorted)
    · obtain ⟨past', hlength, hread⟩ := exists_read?_of_gap hs hu done past rest htouch
      have hlater := ih (done ++ [s]) past' (List.forall_mem_cons.mpr ⟨hu, hrest⟩) hsorted.of_cons
      rw [hread, if_neg htouch]
      simpa [hlength, Nat.add_right_comm] using hlater

end Merge

/-- Adds up numbers within 32 bits. -/
def sum? (ns : List Nat) : Option Nat :=
  ns.foldlM (fun total n => if total + n < 2 ^ 32 then some (total + n) else none) 0

lemma foldlM_sum? {ns : List Nat} {total : Nat} (h : total + ns.sum < 2 ^ 32) :
    ns.foldlM (fun total n => if total + n < 2 ^ 32 then some (total + n) else none) total =
      some (total + ns.sum) := by
  induction ns generalizing total with
  | nil => rfl
  | cons n ns ih =>
    rw [List.sum_cons] at h ⊢
    rw [List.foldlM_cons, if_pos (by omega)]
    show List.foldlM _ (total + n) ns = _
    rw [ih (by omega), Nat.add_assoc]

namespace Word

variable {t : Tier}

def size (w : Word t) : Nat := w.hi - w.lo + 1

/-- Sorts a vector, merges it and cuts off what is left behind, with the sizes of the ranges that
are kept added up. -/
def compactInPlace? (ws : List (Word t)) : Option (List (Word t) × Nat) :=
  if ws.isEmpty then some ([], 0)
  else do
    let m ← (List.range' 1 (ws.length - 1)).foldlM Merge.read? ⟨0, ws.mergeSort le⟩
    let kept := m.words.take (m.write + 1)
    let total ← sum? (kept.map size)
    return (kept, total)

section Bounds

variable {spans : List Span}

lemma bounds_compact (h : t.Bounds spans) : t.Bounds (Spans.compact spans) := fun s hs => by
  obtain ⟨u, hu, -, hhi⟩ := (Spans.covers_compact spans).mp ⟨s, hs, s.hi_mem⟩
  exact Nat.le_trans hhi (h u hu)

/-- As many code points as there are up to the tier's last one fit 32 bits. -/
lemma size_compact_lt (h : t.Bounds spans) : Spans.size (Spans.compact spans) < 2 ^ 32 := by
  have hsubset : {cp | Spans.Covers (Spans.compact spans) cp} ⊆ ↑(Finset.Iic t.last) := by
    rintro cp ⟨s, hs, -, hhi⟩
    exact Finset.mem_Iic.mpr (Nat.le_trans hhi (bounds_compact h s hs))
  have hcard := Set.ncard_le_ncard hsubset (Finset.finite_toSet _)
  rw [Spans.ncard_covers (Spans.gapped_compact spans).ascending, Set.ncard_coe_finset,
    Nat.card_Iic] at hcard
  exact Nat.lt_of_le_of_lt hcard t.last_succ_lt

lemma sum_map_size (h : t.Bounds spans) :
    ((spans.map (pack t)).map size).sum = Spans.size spans := by
  rw [Spans.size, ← List.sum_eq_foldr, List.map_map]
  refine congrArg List.sum (List.map_congr_left fun s hs => ?_)
  rw [Function.comp_apply, size, lo_pack (h s hs), hi_pack (h s hs), Span.size]

lemma compactInPlace?_map (h : t.Bounds spans) :
    compactInPlace? (spans.map (pack t)) =
      some ((Spans.compact spans).map (pack t), {cp | Spans.Covers spans cp}.ncard) := by
  have hcovers : {cp | Spans.Covers (Spans.compact spans) cp} = {cp | Spans.Covers spans cp} :=
    Set.ext fun cp => Spans.covers_compact spans
  have hsum := sum_map_size (bounds_compact h)
  have hsize := size_compact_lt h
  rw [← hcovers, Spans.ncard_covers (Spans.gapped_compact spans).ascending, ← hsum]
  rw [← hsum] at hsize
  obtain ⟨sorted, hperm, hsorted, hwords⟩ := exists_sorted h
  have hbounds : t.Bounds sorted := fun s hs => h s (hperm.mem_iff.mp hs)
  rw [← Spans.coalesce_eq_compact hperm hsorted] at hsize ⊢
  rw [compactInPlace?, hwords, List.length_map, ← hperm.length_eq, List.isEmpty_map,
    ← hperm.isEmpty_eq]
  cases sorted with
  | nil => rfl
  | cons s rest =>
    obtain ⟨m, hrun, htake⟩ := Merge.exists_foldlM_read? [] [] hbounds hsorted
    change (List.range' 1 rest.length).foldlM Merge.read? ⟨0, (s :: rest).map (pack t)⟩ = _ at hrun
    change m.words.take (m.write + 1) = (Spans.coalesce (s :: rest)).map (pack t) at htake
    rw [List.isEmpty_cons, if_neg Bool.false_ne_true, List.length_cons, Nat.add_sub_cancel, hrun]
    simp only [Option.bind_eq_bind, Option.bind_some, htake, sum?]
    rw [foldlM_sum? (by rwa [Nat.zero_add]), Nat.zero_add]
    rfl

lemma pairwise_map_of_gapped (h : t.Bounds spans) (hgapped : Spans.Gapped spans) :
    (spans.map (pack t)).Pairwise fun v w : Word t => v.hi + 1 < w.lo := by
  refine List.pairwise_map.mpr (hgapped.imp_of_mem fun {s u} hs hu hlt => ?_)
  rwa [hi_pack (h s hs), lo_pack (h u hu)]

end Bounds

/-- **A compaction in place** never fails, whatever the order, the overlaps and the repetitions in
the vector. It leaves ranges of the tier in ascending order with a gap between any two, covers what
was covered, and returns the number of the code points that are. So it makes the same of all
vectors that cover the same, and leaves the ranges of the compact spans. -/
theorem covers_compactInPlace? {ws : List (Word t)} (hws : ∀ w ∈ ws, Fits w) :
    ∃ ws', compactInPlace? ws = some (ws', {cp | Covers ws cp}.ncard) ∧ (∀ w ∈ ws', Fits w) ∧
      (ws'.Pairwise fun v w => v.hi + 1 < w.lo) ∧
      (∀ cp, Covers ws' cp ↔ Covers ws cp) ∧
      ((∀ w ∈ ws, t.first ≤ w.lo) → ∀ w ∈ ws', t.first ≤ w.lo) ∧
      (∀ vs : List (Word t), (∀ w ∈ vs, Fits w) → (∀ cp, Covers vs cp ↔ Covers ws cp) →
        compactInPlace? vs = compactInPlace? ws) ∧
      ∀ spans : List Span, spans.map Span.bounds = ws.map (unpack t) →
        ws'.map (unpack t) = (Spans.compact spans).map Span.bounds := by
  obtain ⟨spans, hspans, rfl⟩ := exists_spans hws
  have hcompact := bounds_compact hspans
  have hcovers : ∀ cp, Covers ((Spans.compact spans).map (pack t)) cp ↔
      Covers (spans.map (pack t)) cp := fun cp => by
    rw [covers_map hcompact, covers_map hspans, Spans.covers_compact]
  refine ⟨(Spans.compact spans).map (pack t), ?_, fits_of_mem_map hcompact,
    pairwise_map_of_gapped hcompact (Spans.gapped_compact spans), hcovers,
    first_le (fits_of_mem_map hcompact) fun cp => (hcovers cp).mp, fun vs hvs hsame => ?_,
    fun spans' hspans' => ?_⟩
  · rw [compactInPlace?_map hspans]
    simp only [covers_map hspans]
  · obtain ⟨others, hothers, rfl⟩ := exists_spans hvs
    have hext : ∀ cp, Spans.Covers others cp ↔ Spans.Covers spans cp := fun cp => by
      rw [← covers_map hothers, hsame, covers_map hspans]
    rw [compactInPlace?_map hothers, compactInPlace?_map hspans]
    simp only [hext]
    rw [Spans.gapped_ext (Spans.gapped_compact others) (Spans.gapped_compact spans) fun cp => by
      rw [Spans.covers_compact, hext, Spans.covers_compact]]
  · rw [eq_of_map_bounds hspans hspans', map_unpack_pack hcompact]

/-- Letters in no order, with a range inside another, one that touches it, one with the same start
and the tier's last code point. -/
def scattered : List Span :=
  [⟨0x61, 0x7A, by decide⟩, ⟨0xF1, 0xFF, by decide⟩, ⟨0x41, 0x5A, by decide⟩, Span.single 0x5B,
    ⟨0x45, 0x50, by decide⟩, ⟨0x41, 0x42, by decide⟩, ⟨0xFF, 0xFF, by decide⟩]

/-- The range of U+0041 takes in three others, and the last one meets no overflow. -/
theorem covers_compactInPlace?_scattered :
    ∃ ws', compactInPlace? (scattered.map (pack .single)) = some (ws', 68) ∧
      ws'.map (unpack .single) = [(0x41, 0x5B), (0x61, 0x7A), (0xF1, 0xFF)] := by
  have hbounds : Tier.single.Bounds scattered := by
    unfold Tier.Bounds
    decide
  obtain ⟨ws', hrun, -, -, -, -, -, hspans⟩ := covers_compactInPlace? (fits_of_mem_map hbounds)
  have hsize : {cp | Covers (scattered.map (pack .single)) cp}.ncard = 68 := by
    have hcompact : {cp | Covers (scattered.map (pack .single)) cp} =
        {cp | Spans.Covers (Spans.compact scattered) cp} :=
      Set.ext fun cp => (covers_map hbounds).trans (Spans.covers_compact scattered).symm
    rw [hcompact, Spans.ncard_covers (Spans.gapped_compact scattered).ascending]
    decide
  rw [hsize] at hrun
  refine ⟨ws', hrun, ?_⟩
  rw [hspans scattered (map_unpack_pack hbounds).symm]
  decide

end Word

end TextTypes.Range
