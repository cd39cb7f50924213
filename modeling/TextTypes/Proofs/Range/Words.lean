import Mathlib.Algebra.GroupWithZero.Nat
import Mathlib.Logic.Function.Basic
import TextTypes.Proofs.Range.Tiers

/-!
Ranges in words.

Here every step is checked: a range that is not one of its tier cannot be packed, and a split that
runs out of tiers fails. Tables with the right ranges in every tier never meet such a failure. What
is done to their words is what is done to their spans.
-/

namespace TextTypes.Range

/-- Both bounds of a range in one word. -/
abbrev Word (t : Tier) := BitVec (2 * t.width)

/-- Packs a range of the tier, and no other one. -/
def pack? (t : Tier) (lo hi : Nat) : Option (Word t) :=
  if h : t.first ≤ lo ∧ lo ≤ hi ∧ hi ≤ t.last then some (pack t ⟨lo, hi, h.2.1⟩) else none

namespace Tier

/-- A tier holds the spans between its first and its last code point. -/
def Holds (t : Tier) (s : Span) : Prop := t.first ≤ s.lo ∧ s.hi ≤ t.last

variable {t u : Tier} {s : Span} {cp : Nat}

lemma last_lt_two_pow (t : Tier) : t.last < 2 ^ t.width := by cases t <;> decide

lemma last_succ_lt (t : Tier) : t.last + 1 < 2 ^ 32 := by cases t <;> decide

/-- Of two tiers, one ends before the other begins. -/
lemma last_lt_first (t u : Tier) : u.last ≤ t.last ∨ t.last < u.first := by
  cases t <;> cases u <;> decide

lemma last_lt_first_of_ne (h : t ≠ u) : t.last < u.first ∨ u.last < t.first := by
  revert h
  cases t <;> cases u <;> decide

lemma mem_of (h : cp ≤ CodePoint.last) : (Tier.of cp).first ≤ cp ∧ cp ≤ (Tier.of cp).last :=
  bounds_iff.mpr ⟨h, rfl⟩

/-- A range that ends in another tier goes beyond the one it starts in. -/
lemma last_lt_of_ne {lo hi : Nat} (h : lo ≤ hi ∧ hi ≤ CodePoint.last)
    (hne : Tier.of lo ≠ Tier.of hi) : lo ≤ (Tier.of lo).last ∧ (Tier.of lo).last < hi := by
  obtain ⟨hfirst, hlast⟩ := mem_of (Nat.le_trans h.1 h.2)
  refine ⟨hlast, Nat.lt_of_not_le fun hle => hne ?_⟩
  exact (bounds_iff.mp ⟨Nat.le_trans hfirst h.1, hle⟩).2.symm

lemma clip_self (h : t.Holds s) : t.clip s = some s :=
  Span.ofBounds?_eq_some.mpr ⟨(Nat.max_eq_left h.1).symm, (Nat.min_eq_left h.2).symm⟩

lemma clip_eq_none (h : s.hi < t.first ∨ t.last < s.lo) : t.clip s = none := by
  unfold clip Span.clip Span.ofBounds?
  exact dif_neg (by have := s.lo_le_hi; omega)

lemma clip_of_ne (h : t.Holds s) (hne : t ≠ u) : u.clip s = none := by
  have hs := s.lo_le_hi
  obtain ⟨hfirst, hlast⟩ := h
  refine clip_eq_none ?_
  rcases last_lt_first_of_ne hne with hlt | hlt <;> omega

/-- A span split behind the end of a tier has the same parts. -/
lemma filterMap_clip_split {front back : Span} (hlo : front.lo = s.lo) (hhi : back.hi = s.hi)
    (hend : front.hi = t.last) (hstart : back.lo = t.last + 1) :
    [front, back].filterMap u.clip = [s].filterMap u.clip := by
  have hfront := front.lo_le_hi
  have hback := back.lo_le_hi
  rcases last_lt_first t u with hu | hu
  · have hnone : u.clip back = none := clip_eq_none (.inr (by omega))
    have hsome : u.clip front = u.clip s := by
      unfold clip Span.clip
      rw [hlo, Nat.min_eq_right (by omega), Nat.min_eq_right (by omega)]
    simp only [List.filterMap_cons, List.filterMap_nil, hnone, hsome]
  · have hnone : u.clip front = none := clip_eq_none (.inl (by omega))
    have hsome : u.clip back = u.clip s := by
      unfold clip Span.clip
      rw [hhi, Nat.max_eq_right (by omega), Nat.max_eq_right (by omega)]
    simp only [List.filterMap_cons, List.filterMap_nil, hnone, hsome]

end Tier

/-- Where every step succeeds, all of them do. -/
lemma mapM_eq_some {α β : Type} {f : α → Option β} {g : α → β} {l : List α}
    (h : ∀ a ∈ l, f a = some (g a)) : l.mapM f = some (l.map g) := by
  induction l with
  | nil => rfl
  | cons a rest ih =>
    obtain ⟨ha, hrest⟩ := List.forall_mem_cons.mp h
    rw [List.mapM_cons, ha, ih hrest]
    rfl

/-! ### One word -/

section Packing

variable {t : Tier} {s : Span} {lo hi : Nat}

lemma toNat_pack (h : s.hi ≤ t.last) : (pack t s).toNat = s.lo * 2 ^ t.width + s.hi := by
  have hs := s.lo_le_hi
  have hhi : s.hi < 2 ^ t.width := Nat.lt_of_le_of_lt h t.last_lt_two_pow
  have hlo : s.lo + 1 ≤ 2 ^ t.width := by omega
  have hword : s.lo * 2 ^ t.width + s.hi < 2 ^ (2 * t.width) := calc
    s.lo * 2 ^ t.width + s.hi < (s.lo + 1) * 2 ^ t.width := by
      rw [Nat.add_mul, Nat.one_mul]
      exact Nat.add_lt_add_left hhi _
    _ ≤ 2 ^ t.width * 2 ^ t.width := Nat.mul_le_mul_right _ hlo
    _ = 2 ^ (2 * t.width) := by rw [← Nat.pow_add, ← Nat.two_mul]
  show (s.lo * 2 ^ t.width + s.hi % 2 ^ t.width) % 2 ^ (2 * t.width) = _
  rw [Nat.mod_eq_of_lt hhi, Nat.mod_eq_of_lt hword]

lemma unpack_pack (h : s.hi ≤ t.last) : unpack t (pack t s) = (s.lo, s.hi) := by
  have hhi : s.hi < 2 ^ t.width := Nat.lt_of_le_of_lt h t.last_lt_two_pow
  show ((pack t s).toNat / 2 ^ t.width, (pack t s).toNat % 2 ^ t.width) = _
  rw [toNat_pack h, Nat.mul_comm, Nat.mul_add_div (Nat.two_pow_pos _), Nat.mul_add_mod,
    Nat.div_eq_of_lt hhi, Nat.mod_eq_of_lt hhi, Nat.add_zero]

lemma pack?_eq (h : t.Holds s) (hlo : s.lo = lo) (hhi : s.hi = hi) :
    pack? t lo hi = some (pack t s) := by
  subst hlo hhi
  exact dif_pos ⟨h.1, s.lo_le_hi, h.2⟩

/-- **What is packed can be unpacked.** -/
theorem unpack_of_pack? {w : Word t} (h : pack? t lo hi = some w) : unpack t w = (lo, hi) := by
  unfold pack? at h
  split at h
  next hin =>
    obtain rfl := Option.some.inj h
    exact unpack_pack (s := ⟨lo, hi, hin.2.1⟩) hin.2.2
  · cases h

end Packing

namespace Word

variable {t : Tier}

def lo (w : Word t) : Nat := (unpack t w).1

def hi (w : Word t) : Nat := (unpack t w).2

/-- What a removal leaves of a word. -/
def cut? (lo hi : Nat) (w : Word t) : Option (List (Word t)) :=
  if hi < w.lo ∨ w.hi < lo then some [w]
  else if lo ≤ w.lo ∧ w.hi ≤ hi then some []
  else if w.lo < lo ∧ hi < w.hi then do
    let front ← pack? t w.lo (lo - 1)
    let back ← pack? t (hi + 1) w.hi
    return [front, back]
  else if lo ≤ w.lo then do
    let back ← pack? t (hi + 1) w.hi
    return [back]
  else do
    let front ← pack? t w.lo (lo - 1)
    return [front]

/-- Merges a word with the words after it as long as they overlap or touch. -/
def absorb? (w : Word t) : List (Word t) → Option (List (Word t))
  | [] => some [w]
  | v :: rest =>
    if v.lo ≤ w.hi + 1 then
      if w.hi < v.hi then (pack? t w.lo v.hi).bind (absorb? · rest) else absorb? w rest
    else (absorb? v rest).map (w :: ·)

def le (v w : Word t) : Bool := v.toNat ≤ w.toNat

/-- Sorts the words as numbers and merges them. -/
def compact? (ws : List (Word t)) : Option (List (Word t)) :=
  match ws.mergeSort le with
  | [] => some []
  | w :: rest => absorb? w rest

section Spans

variable {s : Span} {spans : List Span}

lemma lo_pack (h : s.hi ≤ t.last) : lo (pack t s) = s.lo := congrArg Prod.fst (unpack_pack h)

lemma hi_pack (h : s.hi ≤ t.last) : hi (pack t s) = s.hi := congrArg Prod.snd (unpack_pack h)

/-- **A removal never packs outside the tier**, whatever the tier of the range it removes. -/
theorem cut?_pack (h : t.Holds s) (cut : Span) :
    cut? cut.lo cut.hi (pack t s) = some ((Span.minus cut s).map (pack t)) := by
  have hs := s.lo_le_hi
  have hcut := cut.lo_le_hi
  obtain ⟨hfirst, hlast⟩ := h
  have hleaves := Span.leaves_minus cut s
  unfold cut?
  rw [lo_pack hlast, hi_pack hlast]
  generalize Span.minus cut s = pieces at hleaves ⊢
  cases hleaves with
  | apart hapart =>
    rw [if_pos hapart]
    rfl
  | nothing hin =>
    rw [if_neg (by omega), if_pos hin]
    rfl
  | ends hin hfront hback =>
    rw [if_neg (by omega), if_neg (by omega), if_pos hin,
      pack?_eq ⟨by omega, by omega⟩ hfront.1 hfront.2,
      pack?_eq ⟨by omega, by omega⟩ hback.1 hback.2]
    rfl
  | back hin hback =>
    rw [if_neg (by omega), if_neg (by omega), if_neg (by omega), if_pos hin.1,
      pack?_eq ⟨by omega, by omega⟩ hback.1 hback.2]
    rfl
  | front hin hfront =>
    rw [if_neg (by omega), if_neg (by omega), if_neg (by omega), if_neg (by omega),
      pack?_eq ⟨by omega, by omega⟩ hfront.1 hfront.2]
    rfl

/-- In sorted spans, a merge keeps the start of the first. -/
lemma absorb?_map (hs : t.Holds s) (hspans : ∀ u ∈ spans, t.Holds u)
    (hsorted : Spans.Sorted (s :: spans)) :
    absorb? (pack t s) (spans.map (pack t)) = some ((Spans.absorb s spans).map (pack t)) := by
  induction spans generalizing s with
  | nil => rfl
  | cons u rest ih =>
    obtain ⟨hu, hrest⟩ := List.forall_mem_cons.mp hspans
    have hle : s.lo ≤ u.lo := List.rel_of_pairwise_cons hsorted List.mem_cons_self
    have hlo : (s.join u).lo = s.lo := Nat.min_eq_left hle
    rw [List.map_cons, absorb?, Spans.absorb, lo_pack hu.2, hi_pack hs.2, lo_pack hs.2,
      hi_pack hu.2]
    by_cases htouch : u.lo ≤ s.hi + 1
    · rw [if_pos htouch, if_pos htouch]
      by_cases hbehind : s.hi < u.hi
      · have hhi : (s.join u).hi = u.hi := Nat.max_eq_right (Nat.le_of_lt hbehind)
        have hjoin : t.Holds (s.join u) := ⟨hlo ▸ hs.1, hhi ▸ hu.2⟩
        rw [if_pos hbehind, pack?_eq hjoin hlo hhi, Option.bind_some]
        exact ih hjoin hrest (Spans.sorted_join hsorted)
      · have hsame : s.join u = s :=
          Span.ext_bounds hlo (Nat.max_eq_left (Nat.le_of_not_lt hbehind))
        rw [if_neg hbehind, hsame]
        exact ih hs hrest (hsame ▸ Spans.sorted_join hsorted)
    · rw [if_neg htouch, if_neg htouch, ih hu hrest hsorted.of_cons]
      rfl

/-- As numbers, words sort by the starts of their ranges. -/
lemma lo_le_of_le {u : Span} (hs : s.hi ≤ t.last) (hu : u.hi ≤ t.last)
    (h : le (pack t s) (pack t u) = true) : s.lo ≤ u.lo := by
  rw [← lo_pack hs, ← lo_pack hu]
  exact Nat.div_le_div_right (of_decide_eq_true h)

lemma exists_sorted (h : ∀ s ∈ spans, s.hi ≤ t.last) :
    ∃ sorted : List Span, sorted.Perm spans ∧ Spans.Sorted sorted ∧
      (spans.map (pack t)).mergeSort le = sorted.map (pack t) := by
  have hperm := List.mergeSort_perm spans fun s u => le (pack t s) (pack t u)
  have hlast : ∀ s ∈ spans.mergeSort fun s u => le (pack t s) (pack t u), s.hi ≤ t.last :=
    fun s hs => h s (hperm.mem_iff.mp hs)
  have hpairwise : (spans.mergeSort fun s u => le (pack t s) (pack t u)).Pairwise
      fun s u => le (pack t s) (pack t u) = true :=
    List.pairwise_mergeSort (by grind [le]) (by grind [le]) spans
  refine ⟨_, hperm, hpairwise.imp_of_mem fun hs hu => lo_le_of_le (hlast _ hs) (hlast _ hu), ?_⟩
  rw [List.map_mergeSort]
  exact fun _ _ _ _ => rfl

/-- **Sorting and merging words** does not pack outside the tier, and has the result that it has for
spans. -/
theorem compact?_map (h : ∀ s ∈ spans, t.Holds s) :
    compact? (spans.map (pack t)) = some ((Spans.compact spans).map (pack t)) := by
  obtain ⟨sorted, hperm, hsorted, hwords⟩ := exists_sorted fun s hs => (h s hs).2
  have hholds : ∀ s ∈ sorted, t.Holds s := fun s hs => h s (hperm.mem_iff.mp hs)
  rw [compact?, hwords, ← Spans.coalesce_eq_compact hperm hsorted]
  cases sorted with
  | nil => rfl
  | cons s rest =>
    obtain ⟨hs, hrest⟩ := List.forall_mem_cons.mp hholds
    exact absorb?_map hs hrest hsorted

end Spans

end Word

/-! ### Tables of words -/

def Span.bounds (s : Span) : Nat × Nat := (s.lo, s.hi)

lemma map_unpack_pack {t : Tier} {spans : List Span} (h : ∀ s ∈ spans, s.hi ≤ t.last) :
    (spans.map (pack t)).map (unpack t) = spans.map Span.bounds := by
  rw [List.map_map]
  exact List.map_congr_left fun s hs => unpack_pack (h s hs)

/-- The words of every tier. -/
abbrev Words := (t : Tier) → List (Word t)

namespace Words

def empty : Words := fun _ => []

def ofTiered (r : Tiered) : Words := fun t => (r.part t).map (pack t)

/-- Every word has a range of its tier. -/
def Within (ws : Words) : Prop := ∀ t, ∀ w ∈ ws t, t.first ≤ w.lo ∧ w.lo ≤ w.hi ∧ w.hi ≤ t.last

/-- Packs a range into a tier. -/
def put? (ws : Words) (t : Tier) (lo hi : Nat) : Option Words :=
  (pack? t lo hi).map fun w => Function.update ws t (ws t ++ [w])

/-- Adds a range of the code space, split behind the end of a tier. Behind the last tier there is
nothing to split. -/
def add? (ws : Words) (lo hi : Nat) : Option Words :=
  if h : lo ≤ hi ∧ hi ≤ CodePoint.last then
    if hne : Tier.of lo = Tier.of hi then ws.put? (Tier.of lo) lo hi
    else if Tier.of lo = .triple then none
    else do
      let front ← ws.add? lo (Tier.of lo).last
      front.add? ((Tier.of lo).last + 1) hi
  else none
termination_by hi - lo
decreasing_by
  all_goals
    have := Tier.last_lt_of_ne h hne
    omega

/-- Does the same to every tier. -/
def eachTier? (ws : Words) (f : ∀ t, List (Word t) → Option (List (Word t))) : Option Words := do
  let single ← f .single (ws .single)
  let double ← f .double (ws .double)
  let triple ← f .triple (ws .triple)
  return fun
    | .single => single
    | .double => double
    | .triple => triple

def remove? (ws : Words) (lo hi : Nat) : Option Words :=
  ws.eachTier? fun _ part => (part.mapM (Word.cut? lo hi)).map List.flatten

def compact? (ws : Words) : Option Words := ws.eachTier? fun _ => Word.compact?

/-- The ranges that the words hold, tier by tier. -/
def bounds (ws : Words) : List (Nat × Nat) :=
  (ws .single).map (unpack .single) ++ (ws .double).map (unpack .double) ++
    (ws .triple).map (unpack .triple)

/-- The code points that the words cover. -/
def codePoints (ws : Words) : List Nat :=
  ws.bounds.flatMap fun (lo, hi) => List.range' lo (hi + 1 - lo)

def addAll? (ws : Words) (ranges : List (Nat × Nat)) : Option Words :=
  ranges.foldlM (fun ws r => ws.add? r.1 r.2) ws

def removeAll? (ws : Words) (ranges : List (Nat × Nat)) : Option Words :=
  ranges.foldlM (fun ws r => ws.remove? r.1 r.2) ws

variable {r : Tiered} {t : Tier} {s : Span}

/-! ### What checked steps do -/

lemma ofTiered_empty : ofTiered {} = empty := by
  funext t
  rw [ofTiered, Tiered.part_empty]
  rfl

lemma ofTiered_add (r : Tiered) (s : Span) (t : Tier) :
    ofTiered (r.add s) t = ofTiered r t ++ ([s].filterMap t.clip).map (pack t) := by
  rw [ofTiered, Tiered.add, Tiered.part_addAll, List.map_append]
  rfl

lemma put?_ofTiered (r : Tiered) (h : t.Holds s) :
    (ofTiered r).put? t s.lo s.hi = some (ofTiered (r.add s)) := by
  rw [put?, pack?_eq h rfl rfl]
  refine congrArg some (funext fun u => ?_)
  show Function.update (ofTiered r) t (ofTiered r t ++ [pack t s]) u = _
  rw [ofTiered_add, List.filterMap_cons]
  by_cases hu : u = t
  · subst hu
    rw [Function.update_self, Tier.clip_self h]
    rfl
  · rw [Function.update_of_ne hu, Tier.clip_of_ne h (Ne.symm hu)]
    exact (List.append_nil _).symm

lemma add_add_split {front back : Span} (hlo : front.lo = s.lo) (hhi : back.hi = s.hi)
    (hend : front.hi = t.last) (hstart : back.lo = t.last + 1) :
    (r.add front).add back = r.add s := by
  refine Tiered.ext_part fun u => ?_
  simp only [Tiered.add, Tiered.part_addAll]
  rw [← Tier.filterMap_clip_split hlo hhi hend hstart, List.append_assoc,
    ← List.filterMap_append]
  rfl

/-- **An addition packs inside the tiers only**, and always finds a tier. -/
theorem add?_ofTiered (r : Tiered) (h : s.hi ≤ CodePoint.last) :
    (ofTiered r).add? s.lo s.hi = some (ofTiered (r.add s)) := by
  induction hn : s.hi - s.lo using Nat.strong_induction_on generalizing r s with
  | _ n ih =>
    subst hn
    have hvalid : s.lo ≤ s.hi ∧ s.hi ≤ CodePoint.last := ⟨s.lo_le_hi, h⟩
    rw [add?, dif_pos hvalid]
    by_cases hsame : Tier.of s.lo = Tier.of s.hi
    · rw [dif_pos hsame]
      refine put?_ofTiered r ⟨(Tier.mem_of (Nat.le_trans s.lo_le_hi h)).1, ?_⟩
      rw [hsame]
      exact (Tier.mem_of h).2
    · obtain ⟨hlo, hhi⟩ := Tier.last_lt_of_ne hvalid hsame
      have htriple : Tier.of s.lo ≠ .triple := fun htriple => by
        rw [htriple] at hhi
        exact absurd h (Nat.not_le.mpr hhi)
      have hfront := ih ((Tier.of s.lo).last - s.lo) (by omega) (s := ⟨s.lo, _, hlo⟩) r
        (by simp only; omega) rfl
      have hback := ih (s.hi - ((Tier.of s.lo).last + 1)) (by omega) (s := ⟨_, s.hi, hhi⟩)
        (r.add ⟨s.lo, _, hlo⟩) h rfl
      have hsplit : (r.add ⟨s.lo, _, hlo⟩).add ⟨_, s.hi, hhi⟩ = r.add s :=
        add_add_split rfl rfl rfl rfl
      rw [dif_neg hsame, if_neg htriple, hfront, ← hsplit]
      exact hback

/-! ### Filed tables -/

lemma eachTier?_ofTiered {f : ∀ t, List (Word t) → Option (List (Word t))} {r' : Tiered}
    (hf : ∀ t, f t (ofTiered r t) = some (ofTiered r' t)) :
    (ofTiered r).eachTier? f = some (ofTiered r') := by
  rw [eachTier?, hf, hf, hf]
  refine congrArg some (funext fun t => ?_)
  cases t <;> rfl

section Filed

variable (h : r.Filed)

include h

lemma holds_of_filed {s : Span} (hs : s ∈ r.part t) : t.Holds s :=
  ⟨(Tier.bounds_iff.mpr (h t s.lo ⟨s, hs, s.lo_mem⟩)).1,
    (Tier.bounds_iff.mpr (h t s.hi ⟨s, hs, s.hi_mem⟩)).2⟩

lemma within_ofTiered : (ofTiered r).Within := by
  intro t w hw
  obtain ⟨s, hs, rfl⟩ := List.mem_map.mp hw
  have hholds := holds_of_filed h hs
  rw [Word.lo_pack hholds.2, Word.hi_pack hholds.2]
  exact ⟨hholds.1, s.lo_le_hi, hholds.2⟩

theorem remove?_ofTiered (cut : Span) :
    (ofTiered r).remove? cut.lo cut.hi = some (ofTiered (r.remove cut)) := by
  refine eachTier?_ofTiered fun t => ?_
  have hcut : ((r.part t).map (pack t)).mapM (Word.cut? cut.lo cut.hi) =
      some ((r.part t).map fun s => (Span.minus cut s).map (pack t)) := by
    rw [List.mapM_map]
    exact mapM_eq_some fun s hs => Word.cut?_pack (holds_of_filed h hs) cut
  rw [ofTiered, hcut, ofTiered, Tiered.part_remove, Spans.remove, List.map_flatMap,
    List.flatMap_def]
  rfl

theorem compact?_ofTiered : (ofTiered r).compact? = some (ofTiered r.compact) := by
  refine eachTier?_ofTiered fun t => ?_
  rw [ofTiered, Word.compact?_map (fun s hs => holds_of_filed h hs), ofTiered,
    Tiered.part_compact]

lemma bounds_ofTiered : (ofTiered r).bounds = r.toList.map Span.bounds := by
  have hpart : ∀ t, (ofTiered r t).map (unpack t) = (r.part t).map Span.bounds := fun t =>
    map_unpack_pack fun s hs => (holds_of_filed h hs).2
  rw [bounds, hpart, hpart, hpart, Tiered.toList, List.map_append, List.map_append]
  rfl

lemma mem_codePoints_ofTiered {cp : Nat} : cp ∈ (ofTiered r).codePoints ↔ r.Covers cp := by
  rw [codePoints, bounds_ofTiered h, List.flatMap_map, List.mem_flatMap, ← Tiered.covers_toList]
  refine exists_congr fun s => and_congr_right fun _ => ?_
  have hs := s.lo_le_hi
  rw [Span.mem_def]
  simp only [Span.bounds, List.mem_range'_1]
  omega

lemma removeAll?_ofTiered (cuts : List Span) :
    (ofTiered r).removeAll? (cuts.map Span.bounds) = some (ofTiered (r.removeAll cuts)) := by
  unfold removeAll? Tiered.removeAll
  induction cuts generalizing r with
  | nil => rfl
  | cons cut cuts ih =>
    rw [List.map_cons, List.foldlM_cons]
    show ((ofTiered r).remove? cut.lo cut.hi).bind _ = _
    rw [remove?_ofTiered h]
    exact ih (h.remove cut)

end Filed

lemma addAll?_ofTiered (r : Tiered) {spans : List Span} (h : ∀ s ∈ spans, s.hi ≤ CodePoint.last) :
    (ofTiered r).addAll? (spans.map Span.bounds) = some (ofTiered (r.addAll spans)) := by
  unfold addAll?
  induction spans generalizing r with
  | nil =>
    rw [Tiered.addAll_nil]
    rfl
  | cons s rest ih =>
    obtain ⟨hs, hrest⟩ := List.forall_mem_cons.mp h
    rw [List.map_cons, List.foldlM_cons]
    show ((ofTiered r).add? s.lo s.hi).bind _ = _
    rw [add?_ofTiered r hs, ← List.singleton_append, ← Tiered.addAll_addAll]
    exact ih _ hrest

end Words

end TextTypes.Range
