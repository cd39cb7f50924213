import TextTypes.Proofs.Range.Vectors
import TextTypes.Proofs.Rounds

/-!
Removing a range from a vector in place.

The vector is walked by index while it shrinks and grows. A word inside the range gives its place
to the last word, and that one is looked at next. Where the range lies inside a word, the part
behind it goes to the end of the vector, where it will be found to lie apart. So the walk takes at
most two rounds for each word. Up to their order it leaves the words that a removal leaves.
-/

namespace TextTypes.Range

/-- Takes out the entry at a place and puts the last one there. -/
def swapRemove {α : Type} (xs : List α) (i : Nat) : List α :=
  match xs.getLast? with
  | none => []
  | some last => (xs.set i last).dropLast

lemma exists_swapRemove {α : Type} (done todo : List α) (x : α) :
    ∃ todo', todo'.Perm todo ∧ swapRemove (done ++ x :: todo) done.length = done ++ todo' := by
  rcases List.eq_nil_or_concat' todo with rfl | ⟨init, last, rfl⟩
  · exact ⟨[], .refl _, by simp [swapRemove]⟩
  · refine ⟨last :: init, (List.perm_append_singleton last init).symm, ?_⟩
    have hlast : (done ++ x :: (init ++ [last])).getLast? = some last := by
      rw [← List.cons_append, ← List.append_assoc, List.getLast?_concat]
    rw [swapRemove, hlast]
    simp only [List.set_append_right _ _ (Nat.le_refl _), Nat.sub_self, List.set_cons_zero]
    rw [← List.cons_append, ← List.append_assoc, List.dropLast_concat]

lemma map_swapRemove {α β : Type} (f : α → β) (xs : List α) (i : Nat) :
    swapRemove (xs.map f) i = (swapRemove xs i).map f := by
  unfold swapRemove
  rw [List.getLast?_map]
  cases xs.getLast? with
  | none => rfl
  | some last => simp [List.map_set, List.map_dropLast]

/-- A vector of words and the place of the word that is looked at next. -/
structure Removal (t : Tier) where
  idx : Nat := 0
  words : List (Word t)

namespace Removal

variable {t : Tier}

/-- Looks at one word. -/
def round? (lo hi : Nat) (r : Removal t) : Option (Removal t) := do
  let w ← r.words[r.idx]?
  if hi < w.lo ∨ w.hi < lo then return ⟨r.idx + 1, r.words⟩
  else if lo ≤ w.lo ∧ w.hi ≤ hi then return ⟨r.idx, swapRemove r.words r.idx⟩
  else if w.lo < lo ∧ hi < w.hi then do
    let front ← Word.ofBounds? w.lo (lo - 1)
    let back ← Word.ofBounds? (hi + 1) w.hi
    return ⟨r.idx + 1, r.words.set r.idx front ++ [back]⟩
  else if lo ≤ w.lo then do
    let back ← Word.ofBounds? (hi + 1) w.hi
    return ⟨r.idx + 1, r.words.set r.idx back⟩
  else do
    let front ← Word.ofBounds? w.lo (lo - 1)
    return ⟨r.idx + 1, r.words.set r.idx front⟩

def loop (t : Tier) (lo hi : Nat) : Loop (Removal t) where
  stops r := r.words.length ≤ r.idx
  round? := round? lo hi

/-- The spans that have been looked at, and those that have not. -/
def between (t : Tier) (done todo : List Span) : Removal t :=
  ⟨done.length, (done ++ todo).map (pack t)⟩

/-- How many rounds the spans take that have not been looked at. -/
def rounds (cut : Span) (todo : List Span) : Nat :=
  (todo.map fun s => max 1 (Span.minus cut s).length).sum

variable {cut s : Span} {done todo spans : List Span}

lemma rounds_cons :
    rounds cut (s :: todo) = max 1 (Span.minus cut s).length + rounds cut todo := by
  simp [rounds]

lemma rounds_perm {todo' : List Span} (h : todo'.Perm todo) : rounds cut todo' = rounds cut todo :=
  (h.map _).sum_nat

lemma rounds_le (cut : Span) (todo : List Span) : rounds cut todo ≤ 2 * todo.length := by
  induction todo with
  | nil => exact Nat.le_refl _
  | cons s todo ih =>
    have hs : (Span.minus cut s).length ≤ 2 := by
      have hleaves := Span.leaves_minus cut s
      generalize Span.minus cut s = pieces at hleaves ⊢
      cases hleaves <;> simp
    rw [rounds_cons, List.length_cons]
    omega

/-- From the spans before a round to those after it. -/
structure Advances (t : Tier) (cut : Span) (done todo done' todo' : List Span) : Prop where
  bounds : t.Bounds (done' ++ todo')
  /-- The whole removal leaves the same spans. -/
  perm : (done' ++ todo'.flatMap (Span.minus cut)).Perm (done ++ todo.flatMap (Span.minus cut))
  rounds_lt : rounds cut todo' < rounds cut todo

section Advances

variable (h : t.Bounds (done ++ s :: todo))

include h

lemma advances_nil (hminus : Span.minus cut s = []) {todo' : List Span} (hperm : todo'.Perm todo) :
    Advances t cut done (s :: todo) done todo' where
  bounds u hu := by
    rw [(hperm.append_left done).mem_iff] at hu
    exact h u (by simp at hu ⊢; tauto)
  perm := by
    rw [List.flatMap_cons, hminus]
    exact (hperm.flatMap_right _).append_left done
  rounds_lt := by
    rw [rounds_perm hperm, rounds_cons]
    omega

lemma advances_singleton {v : Span} (hminus : Span.minus cut s = [v]) (hv : v.hi ≤ t.last) :
    Advances t cut done (s :: todo) (done ++ [v]) todo where
  bounds u hu := by
    simp only [List.append_assoc, List.mem_append, List.mem_singleton] at hu
    rcases hu with hu | rfl | hu
    · exact h u (by simp [hu])
    · exact hv
    · exact h u (by simp [hu])
  perm := by rw [List.flatMap_cons, hminus, List.append_assoc]
  rounds_lt := by
    rw [rounds_cons]
    omega

/-- The part behind the range goes to the end, where the removal leaves it alone. -/
lemma advances_pair {front back : Span} (hminus : Span.minus cut s = [front, back])
    (hfront : front.hi ≤ t.last) (hback : back.hi ≤ t.last)
    (happart : Span.minus cut back = [back]) :
    Advances t cut done (s :: todo) (done ++ [front]) (todo ++ [back]) where
  bounds u hu := by
    simp only [List.append_assoc, List.mem_append, List.mem_singleton] at hu
    rcases hu with hu | rfl | hu | rfl
    · exact h u (by simp [hu])
    · exact hfront
    · exact h u (by simp [hu])
    · exact hback
  perm := by
    rw [List.flatMap_append, List.flatMap_singleton, happart, List.flatMap_cons, hminus,
      List.append_assoc]
    exact ((List.perm_append_singleton back _).cons front).append_left done
  rounds_lt := by
    rw [rounds_perm (List.perm_append_singleton back todo), rounds_cons, rounds_cons, happart,
      hminus]
    simp

end Advances

/-- A span that has been looked at takes the place of the old one. -/
lemma between_set (done todo : List Span) (s v : Span) :
    (⟨done.length + 1, (between t done (s :: todo)).words.set done.length (pack t v)⟩ :
      Removal t) = between t (done ++ [v]) todo := by
  simp [between]

/-- **One round** looks at one span, and never packs outside the tier. -/
theorem exists_round? (h : t.Bounds (done ++ s :: todo)) (cut : Span) :
    ∃ done' todo', Advances t cut done (s :: todo) done' todo' ∧
      round? cut.lo cut.hi (between t done (s :: todo)) = some (between t done' todo') := by
  have hs : s.hi ≤ t.last := h s (by simp)
  have hle := s.lo_le_hi
  have hcut := cut.lo_le_hi
  have hlook : (between t done (s :: todo)).words[(between t done (s :: todo)).idx]? =
      some (pack t s) := by
    simp [between]
  simp only [round?, hlook, Option.bind_eq_bind, Option.bind_some, Word.lo_pack hs,
    Word.hi_pack hs]
  have hleaves := Span.leaves_minus cut s
  generalize hminus : Span.minus cut s = pieces at hleaves
  cases hleaves with
  | apart hapart =>
    rw [if_pos hapart]
    refine ⟨done ++ [s], todo, advances_singleton h hminus hs, ?_⟩
    simp [between]
  | nothing hin =>
    obtain ⟨todo', hperm, hswap⟩ := exists_swapRemove done todo s
    rw [if_neg (by omega), if_pos hin]
    refine ⟨done, todo', advances_nil h hminus hperm, ?_⟩
    show some (⟨done.length, swapRemove ((done ++ s :: todo).map (pack t)) done.length⟩ :
      Removal t) = _
    rw [map_swapRemove, hswap]
    rfl
  | @ends front back hin hfront hback =>
    have hfits : front.hi ≤ t.last ∧ back.hi ≤ t.last := by omega
    -- this is why the part at the end of the vector is only passed over later
    have happart : Span.minus cut back = [back] := Span.minus_of_apart (.inl (by omega))
    rw [if_neg (by omega), if_neg (by omega), if_pos hin,
      Word.ofBounds?_eq hfits.1 hfront.1 hfront.2, Word.ofBounds?_eq hfits.2 hback.1 hback.2]
    refine ⟨done ++ [front], todo ++ [back],
      advances_pair h hminus hfits.1 hfits.2 happart, ?_⟩
    simp [between]
  | @back back hin hback =>
    have hfits : back.hi ≤ t.last := by omega
    rw [if_neg (by omega), if_neg (by omega), if_neg (by omega), if_pos hin.1,
      Word.ofBounds?_eq hfits hback.1 hback.2]
    exact ⟨done ++ [back], todo, advances_singleton h hminus hfits,
      congrArg some (between_set done todo s back)⟩
  | @front front hin hfront =>
    have hfits : front.hi ≤ t.last := by omega
    rw [if_neg (by omega), if_neg (by omega), if_neg (by omega), if_neg (by omega),
      Word.ofBounds?_eq hfits hfront.1 hfront.2]
    exact ⟨done ++ [front], todo, advances_singleton h hminus hfits,
      congrArg some (between_set done todo s front)⟩

lemma stops_between {lo hi : Nat} :
    (loop t lo hi).stops (between t done todo) = true ↔ todo = [] := by
  show decide (((done ++ todo).map (pack t)).length ≤ done.length) = true ↔ _
  rw [decide_eq_true_iff, List.length_map, List.length_append, ← List.length_eq_zero_iff]
  omega

/-- A state from which `n` rounds lead to what a removal leaves. -/
def Leads (t : Tier) (cut : Span) (spans : List Span) (n : Nat) (r : Removal t) : Prop :=
  ∃ done todo, r = between t done todo ∧ t.Bounds (done ++ todo) ∧
    (done ++ todo.flatMap (Span.minus cut)).Perm (Spans.remove cut spans) ∧ n = rounds cut todo

lemma Leads.round {n : Nat} {r : Removal t} (h : Leads t cut spans n r)
    (hgo : (loop t cut.lo cut.hi).stops r = false) :
    ∃ r', (loop t cut.lo cut.hi).round? r = some r' ∧ ∃ m < n, Leads t cut spans m r' := by
  obtain ⟨done, todo, rfl, hbounds, hperm, rfl⟩ := h
  cases todo with
  | nil =>
    rw [stops_between.mpr rfl] at hgo
    cases hgo
  | cons s todo =>
    obtain ⟨done', todo', hadvances, hr⟩ := exists_round? hbounds cut
    exact ⟨_, hr, _, hadvances.rounds_lt, done', todo', rfl, hadvances.bounds,
      hadvances.perm.trans hperm, rfl⟩

/-- **The walk** ends within two rounds for each span and leaves what a removal leaves. -/
theorem exists_run? (h : t.Bounds spans) (cut : Span) :
    ∃ ts, ts.Perm (Spans.remove cut spans) ∧ t.Bounds ts ∧
      ((loop t cut.lo cut.hi).run? (2 * spans.length) (between t [] spans)).map words =
        some (ts.map (pack t)) := by
  have hstart : Leads t cut spans (rounds cut spans) (between t [] spans) :=
    ⟨[], spans, rfl, h, .refl _, rfl⟩
  obtain ⟨r, hrun, hstops, -, done, todo, rfl, hbounds, hperm, -⟩ :=
    Loop.exists_run? (fun _ _ => Leads.round) hstart (rounds_le cut spans)
  obtain rfl := stops_between.mp hstops
  rw [List.append_nil] at hbounds
  refine ⟨done, by simpa using hperm, hbounds, ?_⟩
  rw [hrun]
  simp [between]

end Removal

namespace Word

variable {t : Tier}

/-- What the walk makes of a vector, if it ends within two rounds for each word. -/
def remove? (lo hi : Nat) (ws : List (Word t)) : Option (List (Word t)) :=
  ((Removal.loop t lo hi).run? (2 * ws.length) ⟨0, ws⟩).map Removal.words

lemma exists_remove?_map {spans : List Span} (h : t.Bounds spans) (cut : Span) :
    ∃ ts, ts.Perm (Spans.remove cut spans) ∧ t.Bounds ts ∧
      remove? cut.lo cut.hi (spans.map (pack t)) = some (ts.map (pack t)) := by
  obtain ⟨ts, hperm, hbounds, hrun⟩ := Removal.exists_run? h cut
  refine ⟨ts, hperm, hbounds, ?_⟩
  rw [remove?, List.length_map]
  exact hrun

/-- **A removal in place** ends, whatever the order, the overlaps and the repetitions in the
vector. The words it leaves fit the tier and cover what was covered outside the range; up to their
order their ranges are those that a removal from the spans leaves. -/
theorem covers_remove? {ws : List (Word t)} (hws : ∀ w ∈ ws, Fits w) {lo hi : Nat}
    (hle : lo ≤ hi) :
    ∃ ws', remove? lo hi ws = some ws' ∧ (∀ w ∈ ws', Fits w) ∧
      (∀ cp, Covers ws' cp ↔ Covers ws cp ∧ ¬(lo ≤ cp ∧ cp ≤ hi)) ∧
      ((∀ w ∈ ws, t.first ≤ w.lo) → ∀ w ∈ ws', t.first ≤ w.lo) ∧
      ∀ spans : List Span, spans.map Span.bounds = ws.map (unpack t) →
        (ws'.map (unpack t)).Perm ((Spans.remove ⟨lo, hi, hle⟩ spans).map Span.bounds) := by
  obtain ⟨spans, hspans, rfl⟩ := exists_spans hws
  obtain ⟨ts, hperm, hts, hremove⟩ := exists_remove?_map hspans ⟨lo, hi, hle⟩
  have hcovers : ∀ cp, Covers (ts.map (pack t)) cp ↔
      Covers (spans.map (pack t)) cp ∧ ¬(lo ≤ cp ∧ cp ≤ hi) := fun cp => by
    rw [covers_map hts, covers_map hspans, Spans.covers_perm hperm, Spans.covers_remove]
    rfl
  refine ⟨ts.map (pack t), hremove, fits_of_mem_map hts, hcovers,
    first_le (fits_of_mem_map hts) fun cp hcp => ((hcovers cp).mp hcp).1, fun spans' hspans' => ?_⟩
  rw [eq_of_map_bounds hspans hspans', map_unpack_pack hts]
  exact hperm.map _

/-- Ranges around U+0015 and U+0016: one twice, one inside, one that starts there and one apart. -/
def tangled : List Span :=
  [⟨0x10, 0x20, by decide⟩, ⟨0x15, 0x16, by decide⟩, ⟨0x10, 0x20, by decide⟩,
    ⟨0x15, 0x18, by decide⟩, ⟨0x70, 0x80, by decide⟩]

/-- What is behind the range in the first word goes to the end and comes from there to the place of
the second word. -/
theorem covers_remove?_tangled :
    ∃ ws', remove? 0x15 0x16 (tangled.map (pack .single)) = some ws' ∧
      ws'.map BitVec.toNat = [0x1014, 0x1720, 0x1014, 0x1718, 0x7080, 0x1720] ∧
      Covers ws' 0x18 ∧ ¬Covers ws' 0x16 := by
  have hbounds : Tier.single.Bounds tangled := by
    unfold Tier.Bounds
    decide
  have hwords : (remove? 0x15 0x16 (tangled.map (pack .single))).map (List.map BitVec.toNat) =
      some [0x1014, 0x1720, 0x1014, 0x1718, 0x7080, 0x1720] := by decide +kernel
  obtain ⟨ws', hremove, -, hcovers, -⟩ :=
    covers_remove? (fits_of_mem_map hbounds) (show 0x15 ≤ 0x16 by decide)
  rw [hremove, Option.map_some, Option.some.injEq] at hwords
  have hcover : Covers (tangled.map (pack .single)) 0x18 :=
    (covers_map hbounds).mpr ⟨⟨0x10, 0x20, by decide⟩, List.mem_cons_self, by decide, by decide⟩
  exact ⟨ws', hremove, hwords, (hcovers 0x18).mpr ⟨hcover, by decide⟩,
    fun h => ((hcovers 0x16).mp h).2 (by decide)⟩

end Word

end TextTypes.Range
