import TextTypes.CodeSet.Block
import TextTypes.Proofs.Range.Spans

/-!
Blocks hold what the spans cover.

The parts of ascending spans come in the order of their stretches, so that neighbours of one
stretch make up one block: no stretch has two blocks, and the pieces of a block ascend.
-/

namespace TextTypes.CodeSet.Block

open TextTypes.Range

/-! ### The parts of spans -/

/-- A part of an earlier stretch, or an earlier part of the same one. -/
def Before (part part' : Nat × Span) : Prop :=
  part.1 < part'.1 ∨ part.1 = part'.1 ∧ part.2.hi < part'.2.lo

lemma mem_piecesOf {s p : Span} {key : Nat} :
    (key, p) ∈ piecesOf s ↔
      key * 256 + p.lo = max s.lo (key * 256) ∧ key * 256 + p.hi = min s.hi (key * 256 + 255) := by
  have hp := p.lo_le_hi
  have hs := s.lo_le_hi
  unfold piecesOf keyOf
  rw [List.mem_filterMap]
  constructor
  · rintro ⟨key', -, hpart⟩
    obtain ⟨part, hclip, hp⟩ := Option.bind_eq_some_iff.mp hpart
    obtain ⟨p', hbounds, heq⟩ := Option.map_eq_some_iff.mp hp
    obtain ⟨rfl, rfl⟩ := Prod.mk.inj heq
    rw [Span.clip, Span.ofBounds?_eq_some] at hclip
    rw [Span.ofBounds?_eq_some] at hbounds
    have := part.lo_le_hi
    omega
  · rintro ⟨hlo, hhi⟩
    refine ⟨key, List.mem_range'_1.mpr (by omega), ?_⟩
    have hclip : s.clip (key * 256) (key * 256 + 255) =
        some ⟨key * 256 + p.lo, key * 256 + p.hi, by omega⟩ :=
      Span.ofBounds?_eq_some.mpr ⟨hlo, hhi⟩
    have hbounds : Span.ofBounds? (key * 256 + p.lo - key * 256) (key * 256 + p.hi - key * 256) =
        some p :=
      Span.ofBounds?_eq_some.mpr ⟨by omega, by omega⟩
    rw [hclip, Option.bind_some, hbounds]
    rfl

/-- The part of a stretch has the code points of the span in the stretch. -/
lemma exists_mem_piecesOf {s : Span} {key offset : Nat} :
    (∃ p, (key, p) ∈ piecesOf s ∧ offset ∈ p) ↔ offset < 256 ∧ key * 256 + offset ∈ s := by
  simp only [mem_piecesOf, Span.mem_def]
  constructor
  · rintro ⟨p, ⟨hlo, hhi⟩, hmem⟩
    omega
  · rintro ⟨hlt, hlo, hhi⟩
    refine ⟨⟨max s.lo (key * 256) - key * 256, min s.hi (key * 256 + 255) - key * 256, by omega⟩,
      ⟨?_, ?_⟩, ?_⟩ <;> simp only <;> omega

lemma pairwise_piecesOf (s : Span) : (piecesOf s).Pairwise Before := by
  refine List.Pairwise.filterMap _ (fun key key' hlt part hpart part' hpart' => .inl ?_)
    List.pairwise_lt_range'
  obtain ⟨_, _, hp⟩ := Option.bind_eq_some_iff.mp hpart
  obtain ⟨_, _, rfl⟩ := Option.map_eq_some_iff.mp hp
  obtain ⟨_, _, hp'⟩ := Option.bind_eq_some_iff.mp hpart'
  obtain ⟨_, _, rfl⟩ := Option.map_eq_some_iff.mp hp'
  exact hlt

lemma pairwise_parts {spans : List Span} (h : Spans.Ascending spans) :
    (spans.flatMap piecesOf).Pairwise Before := by
  refine List.pairwise_flatMap.mpr ⟨fun s _ => pairwise_piecesOf s, h.imp fun {s t} hlt => ?_⟩
  rintro ⟨key, p⟩ hp ⟨key', p'⟩ hp'
  rw [mem_piecesOf] at hp hp'
  have := p.lo_le_hi
  have := p'.lo_le_hi
  unfold Before
  simp only
  omega

/-! ### Grouping -/

/-- The parts by stretch: every stretch once, in ascending order. -/
structure Grouped (parts : List (Nat × Span)) (groups : List (Nat × List Span)) : Prop where
  mem_iff : ∀ key p, (∃ ps, (key, ps) ∈ groups ∧ p ∈ ps) ↔ (key, p) ∈ parts
  keys : groups.Pairwise fun b c => b.1 < c.1
  ascending : ∀ b ∈ groups, Spans.Ascending b.2
  ne_nil : ∀ b ∈ groups, b.2 ≠ []

variable {parts : List (Nat × Span)} {groups : List (Nat × List Span)} {part : Nat × Span}

lemma Grouped.before (h : Grouped parts groups) (hpart : ∀ q ∈ parts, Before part q)
    {b : Nat × List Span} (hb : b ∈ groups) {p : Span} (hp : p ∈ b.2) : Before part (b.1, p) :=
  hpart _ ((h.mem_iff b.1 p).mp ⟨b.2, hb, hp⟩)

lemma Grouped.key_le (h : Grouped parts groups) (hpart : ∀ q ∈ parts, Before part q)
    {b : Nat × List Span} (hb : b ∈ groups) : part.1 ≤ b.1 := by
  obtain ⟨p, hp⟩ := List.exists_mem_of_ne_nil _ (h.ne_nil b hb)
  rcases h.before hpart hb hp with hlt | ⟨heq, -⟩
  · exact Nat.le_of_lt hlt
  · exact Nat.le_of_eq heq

lemma push_of_eq {b : Nat × List Span} (h : b.1 = part.1) :
    push part (b :: groups) = (b.1, part.2 :: b.2) :: groups := if_pos h

lemma push_of_ne {b : Nat × List Span} (h : b.1 ≠ part.1) :
    push part (b :: groups) = (part.1, [part.2]) :: b :: groups := if_neg h

lemma exists_mem_cons {b : Nat × List Span} {key : Nat} {p : Span} :
    (∃ ps, (key, ps) ∈ b :: groups ∧ p ∈ ps) ↔
      key = b.1 ∧ p ∈ b.2 ∨ ∃ ps, (key, ps) ∈ groups ∧ p ∈ ps := by
  obtain ⟨k, ps⟩ := b
  simp only [List.mem_cons, Prod.mk.injEq, or_and_right, exists_or, and_assoc, exists_and_left,
    exists_eq_left]

lemma exists_mem_push {key : Nat} {p : Span} :
    (∃ ps, (key, ps) ∈ push part groups ∧ p ∈ ps) ↔
      (key, p) = part ∨ ∃ ps, (key, ps) ∈ groups ∧ p ∈ ps := by
  have hpart : (key, p) = part ↔ key = part.1 ∧ p = part.2 := Prod.ext_iff
  cases groups with
  | nil =>
    rw [push, exists_mem_cons, List.mem_singleton, hpart]
  | cons b rest =>
    by_cases hkey : b.1 = part.1
    · rw [push_of_eq hkey, exists_mem_cons, exists_mem_cons, List.mem_cons, hpart, ← hkey,
        and_or_left, or_assoc]
    · rw [push_of_ne hkey, exists_mem_cons, List.mem_singleton, hpart]

/-- A part before all others opens a group or joins the first one. -/
lemma Grouped.push (h : Grouped parts groups) (hpart : ∀ q ∈ parts, Before part q) :
    Grouped (part :: parts) (push part groups) := by
  have hmem : ∀ key p, (∃ ps, (key, ps) ∈ Block.push part groups ∧ p ∈ ps) ↔
      (key, p) ∈ part :: parts := fun key p => by
    rw [exists_mem_push, h.mem_iff, List.mem_cons]
  cases groups with
  | nil =>
    exact ⟨hmem, List.pairwise_singleton _ _,
      List.forall_mem_singleton.mpr (List.pairwise_singleton _ _),
      List.forall_mem_singleton.mpr (List.cons_ne_nil _ _)⟩
  | cons b rest =>
    have hb : b ∈ b :: rest := List.mem_cons_self
    obtain ⟨hlt, hrest⟩ := List.pairwise_cons.mp h.keys
    obtain ⟨hascending, hascending'⟩ := List.forall_mem_cons.mp h.ascending
    by_cases hkey : b.1 = part.1
    · rw [push_of_eq hkey] at hmem ⊢
      have hpieces : Spans.Ascending (part.2 :: b.2) := by
        refine List.pairwise_cons.mpr ⟨fun p hp => ?_, hascending⟩
        rcases h.before hpart hb hp with hlt | ⟨-, hlt⟩
        · exact absurd hkey (Nat.ne_of_gt hlt)
        · exact hlt
      exact ⟨hmem, List.pairwise_cons.mpr ⟨hlt, hrest⟩,
        List.forall_mem_cons.mpr ⟨hpieces, hascending'⟩,
        List.forall_mem_cons.mpr ⟨List.cons_ne_nil _ _, (List.forall_mem_cons.mp h.ne_nil).2⟩⟩
    · rw [push_of_ne hkey] at hmem ⊢
      have hfirst : part.1 < b.1 :=
        Nat.lt_of_le_of_ne (h.key_le hpart hb) (Ne.symm hkey)
      have hkeys : ∀ c ∈ b :: rest, part.1 < c.1 :=
        List.forall_mem_cons.mpr ⟨hfirst, fun c hc => Nat.lt_trans hfirst (hlt c hc)⟩
      exact ⟨hmem, List.pairwise_cons.mpr ⟨hkeys, h.keys⟩,
        List.forall_mem_cons.mpr ⟨List.pairwise_singleton _ _, h.ascending⟩,
        List.forall_mem_cons.mpr ⟨List.cons_ne_nil _ _, h.ne_nil⟩⟩

lemma grouped_foldr (h : parts.Pairwise Before) : Grouped parts (parts.foldr push []) := by
  induction parts with
  | nil => exact ⟨fun key p => by simp, List.Pairwise.nil, by simp, by simp⟩
  | cons part parts ih =>
    obtain ⟨hpart, hparts⟩ := List.pairwise_cons.mp h
    exact (ih hparts).push hpart

/-! ### The blocks of ascending spans -/

/-- Keys that ascend are distinct. -/
lemma find?_key_eq_some {blocks : List Block} (h : blocks.Pairwise fun b c => b.key < c.key)
    {key : Nat} {b : Block} :
    blocks.find? (·.key == key) = some b ↔ b ∈ blocks ∧ b.key = key := by
  induction blocks with
  | nil => simp
  | cons c blocks ih =>
    obtain ⟨hlt, hrest⟩ := List.pairwise_cons.mp h
    rw [List.find?_cons, List.mem_cons]
    by_cases hkey : c.key = key
    · rw [beq_iff_eq.mpr hkey, Option.some.injEq]
      constructor
      · rintro rfl
        exact ⟨.inl rfl, hkey⟩
      · rintro ⟨rfl | hb, hb'⟩
        · rfl
        · exact absurd (hlt b hb) (by omega)
    · rw [beq_eq_false_iff_ne.mpr hkey, ih hrest]
      constructor
      · exact fun ⟨hb, hb'⟩ => ⟨.inr hb, hb'⟩
      · rintro ⟨rfl | hb, hb'⟩
        · exact absurd hb' hkey
        · exact ⟨hb, hb'⟩

section OfSpans

variable {spans : List Span} (h : Spans.Ascending spans)

include h

lemma grouped_parts :
    Grouped (spans.flatMap piecesOf) ((spans.flatMap piecesOf).foldr push []) :=
  grouped_foldr (pairwise_parts h)

lemma keys_ofSpans : (ofSpans spans).Pairwise fun b c => b.key < c.key :=
  List.pairwise_map.mpr (grouped_parts h).keys

lemma ascending_pieces {b : Block} (hb : b ∈ ofSpans spans) :
    Spans.Ascending b.pieces.toList := by
  obtain ⟨g, hg, rfl⟩ := List.mem_map.mp hb
  exact (grouped_parts h).ascending g hg

/-- No block is empty. -/
lemma exists_covers_of_mem {b : Block} (hb : b ∈ ofSpans spans) :
    ∃ offset, Spans.Covers b.pieces.toList offset := by
  obtain ⟨g, hg, rfl⟩ := List.mem_map.mp hb
  obtain ⟨p, hp⟩ := List.exists_mem_of_ne_nil _ ((grouped_parts h).ne_nil g hg)
  exact ⟨p.lo, p, hp, p.lo_mem⟩

/-- **The blocks cover what the spans cover**, stretch by stretch. -/
theorem exists_covers_ofSpans {key offset : Nat} :
    (∃ b ∈ ofSpans spans, b.key = key ∧ Spans.Covers b.pieces.toList offset) ↔
      offset < 256 ∧ Spans.Covers spans (key * 256 + offset) := by
  have hparts : (∃ b ∈ ofSpans spans, b.key = key ∧ Spans.Covers b.pieces.toList offset) ↔
      ∃ p, (key, p) ∈ spans.flatMap piecesOf ∧ offset ∈ p := by
    simp only [← (grouped_parts h).mem_iff]
    constructor
    · rintro ⟨b, hb, rfl, p, hp, hoffset⟩
      obtain ⟨g, hg, rfl⟩ := List.mem_map.mp hb
      exact ⟨p, ⟨g.2, hg, hp⟩, hoffset⟩
    · rintro ⟨p, ⟨ps, hg, hp⟩, hoffset⟩
      exact ⟨⟨key, ps.toArray⟩, List.mem_map.mpr ⟨_, hg, rfl⟩, rfl, p, hp, hoffset⟩
  rw [hparts]
  constructor
  · rintro ⟨p, hp, hoffset⟩
    obtain ⟨s, hs, hp⟩ := List.mem_flatMap.mp hp
    obtain ⟨hlt, hmem⟩ := exists_mem_piecesOf.mp ⟨p, hp, hoffset⟩
    exact ⟨hlt, s, hs, hmem⟩
  · rintro ⟨hlt, s, hs, hmem⟩
    obtain ⟨p, hp, hoffset⟩ := exists_mem_piecesOf.mpr ⟨hlt, hmem⟩
    exact ⟨p, List.mem_flatMap.mpr ⟨s, hs, hp⟩, hoffset⟩

/-- The same for a code point, which has one stretch and one place in it. -/
lemma exists_covers_iff {cp : Nat} :
    (∃ b ∈ ofSpans spans, b.key = keyOf cp ∧ Spans.Covers b.pieces.toList (offsetOf cp)) ↔
      Spans.Covers spans cp := by
  have hcp : keyOf cp * 256 + offsetOf cp = cp := by
    unfold keyOf offsetOf
    omega
  rw [exists_covers_ofSpans h, hcp]
  exact and_iff_right (Nat.mod_lt cp (by decide))

lemma covers_spans_iff {b : Block} (hb : b ∈ ofSpans spans) {cp : Nat} :
    Spans.Covers b.spans cp ↔
      b.key = keyOf cp ∧ Spans.Covers b.pieces.toList (offsetOf cp) := by
  have hlt : ∀ p ∈ b.pieces.toList, p.hi < 256 := fun p hp =>
    ((exists_covers_ofSpans h).mp ⟨b, hb, rfl, p, hp, p.hi_mem⟩).1
  unfold Block.spans Spans.Covers keyOf offsetOf
  simp only [List.mem_map]
  constructor
  · rintro ⟨s, ⟨p, hp, rfl⟩, hlo, hhi⟩
    have := hlt p hp
    simp only at hlo hhi
    exact ⟨by omega, p, hp, by omega, by omega⟩
  · rintro ⟨hkey, p, hp, hlo, hhi⟩
    refine ⟨_, ⟨p, hp, rfl⟩, ?_, ?_⟩ <;> simp only <;> omega

end OfSpans

end TextTypes.CodeSet.Block
