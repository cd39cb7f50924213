import TextTypes.CodeSet.Layout
import TextTypes.Proofs.Buckets
import TextTypes.Proofs.CodeSet.Blocks
import TextTypes.Proofs.Range.Tiers

/-!
Every layout stores the same spans.

Whether the spans go to tiers, to shared buckets or to slots of their own, the layout contains
the code points they cover and gives the spans back.
-/

namespace TextTypes.CodeSet

open TextTypes.Range TextTypes.Buckets

/-- A bisection of ascending spans decides whether they cover a code point. -/
lemma covers_iff {spans : List Span} (h : Spans.Ascending spans) {cp : Nat} :
    covers spans.toArray cp = true ↔ Spans.Covers spans cp := by
  have hsided : Bisect.Sided (Span.side cp) spans.toArray.toList :=
    Spans.sided_of_ascending (f := id) (l := spans) (by rwa [List.map_id]) cp
  rw [covers, Bisect.isSome_find?_iff hsided]
  simp only [Span.side_eq_iff]
  rfl

lemma covers_pieces_iff {b : Block} (h : Spans.Ascending b.pieces.toList) {offset : Nat} :
    covers b.pieces offset = true ↔ Spans.Covers b.pieces.toList offset := by
  have hcovers : covers b.pieces.toList.toArray offset = true ↔ _ := covers_iff h
  rwa [Array.toArray_toList] at hcovers

namespace Layout

/-- The layouts of given spans. -/
inductive Stores (spans : List Span) : Layout → Prop
  | ranged : Stores spans (.ranged (.ofTiered (Tiered.addAll {} spans).compact))
  | hashed (n : Nat) : Stores spans (.hash (Block.ofSpans spans) n)
  | optimal {n : Nat} {l : Layout} (h : place? (Block.ofSpans spans) n = some l) : Stores spans l

/-- Spans that a layout can store: a normal form inside the code space. -/
structure Storable (spans : List Span) : Prop where
  gapped : Spans.Gapped spans
  le_last : ∀ cp, Spans.Covers spans cp → cp ≤ CodePoint.last

variable {spans : List Span} {cp : Nat}

/-! ### Tiers -/

lemma contains_ofTiered (r : Tiered) (cp : Nat) :
    (Tiers.ofTiered r).contains cp = covers (r.part (Tier.of cp)).toArray cp := by
  unfold Tiers.contains
  cases Tier.of cp <;> rfl

lemma spans_ofTiered (r : Tiered) : (Tiers.ofTiered r).spans = r.toList := rfl

lemma ascending_part_compact (r : Tiered) (t : Tier) : Spans.Ascending (r.compact.part t) := by
  rw [Tiered.part_compact]
  exact (Spans.gapped_compact _).ascending

lemma filed_addAll (spans : List Span) : (Tiered.addAll {} spans).Filed :=
  Tiered.filed_empty.addAll spans

lemma covers_addAll (h : Storable spans) :
    (Tiered.addAll {} spans).Covers cp ↔ Spans.Covers spans cp := by
  rw [Tiered.covers_addAll]
  constructor
  · rintro (hempty | ⟨hcover, -⟩)
    · exact absurd hempty Tiered.not_covers_empty
    · exact hcover
  · exact fun hcover => .inr ⟨hcover, h.le_last cp hcover⟩

lemma contains_compact {r : Tiered} (h : r.Filed) :
    (Tiers.ofTiered r.compact).contains cp = true ↔ r.Covers cp := by
  rw [contains_ofTiered, covers_iff (ascending_part_compact r _), h.compact.covers_part,
    Tiered.covers_compact]
  exact and_iff_left rfl

lemma sorted_compact {r : Tiered} (h : r.Filed) :
    Spans.Sorted (Tiers.ofTiered r.compact).spans :=
  (h.compact.ascending_toList (ascending_part_compact r)).sorted

lemma covers_spans_compact {r : Tiered} :
    Spans.Covers (Tiers.ofTiered r.compact).spans cp ↔ r.Covers cp := by
  rw [spans_ofTiered, Tiered.covers_toList, Tiered.covers_compact]

/-- Compact tiers are the ranged layout of the spans they cover. -/
lemma exists_stores_compact {r : Tiered} (h : r.Filed) :
    ∃ spans, Storable spans ∧ Stores spans (.ranged (.ofTiered r.compact)) ∧
      ∀ cp, Spans.Covers spans cp ↔ r.Covers cp := by
  have hsorted := sorted_compact h
  obtain ⟨spans, heq⟩ : ∃ spans, spans = Spans.coalesce (Tiers.ofTiered r.compact).spans :=
    ⟨_, rfl⟩
  have hcovers : ∀ cp, Spans.Covers spans cp ↔ r.Covers cp := fun cp => by
    rw [heq, Spans.covers_coalesce hsorted, covers_spans_compact]
  have hstorable : Storable spans :=
    ⟨heq ▸ Spans.gapped_coalesce hsorted, fun cp hcover => h.le_last ((hcovers cp).mp hcover)⟩
  have hcompact : r.compact = (Tiered.addAll {} spans).compact :=
    Tiered.compact_ext h (filed_addAll spans) fun cp => by
      rw [covers_addAll hstorable, hcovers]
  refine ⟨spans, hstorable, ?_, hcovers⟩
  rw [hcompact]
  exact .ranged

/-! ### Blocks -/

/-- A look-up that finds the block of a stretch if there is one decides what the spans cover. -/
lemma covers_of_lookup (h : Storable spans) (found : Option Block) :
    (∀ b, found = some b ↔ b ∈ Block.ofSpans spans ∧ b.key = keyOf cp) →
      ((match found with
        | some b => covers b.pieces (offsetOf cp)
        | none => false) = true ↔ Spans.Covers spans cp) := by
  intro hfound
  have hascending := h.gapped.ascending
  rw [← Block.exists_covers_iff hascending]
  rcases found with _ | b
  · refine ⟨fun hfalse => (by cases hfalse), ?_⟩
    rintro ⟨b, hmem, hkey, -⟩
    cases (hfound b).mpr ⟨hmem, hkey⟩
  · obtain ⟨hmem, hkey⟩ := (hfound b).mp rfl
    simp only [covers_pieces_iff (Block.ascending_pieces hascending hmem)]
    refine ⟨fun hcover => ⟨b, hmem, hkey, hcover⟩, ?_⟩
    rintro ⟨c, hc, hkey', hcover⟩
    rw [Option.some.inj ((hfound c).mpr ⟨hc, hkey'⟩)]
    exact hcover

/-- Blocks in any order cover what the spans cover. -/
lemma covers_blocks (h : Storable spans) {blocks : List Block}
    (hblocks : ∀ b, b ∈ blocks ↔ b ∈ Block.ofSpans spans) :
    Spans.Covers (blocks.flatMap Block.spans) cp ↔ Spans.Covers spans cp := by
  have hascending := h.gapped.ascending
  rw [Spans.covers_flatMap, ← Block.exists_covers_iff hascending]
  simp only [hblocks]
  constructor
  · rintro ⟨b, hb, hcover⟩
    exact ⟨b, hb, (Block.covers_spans_iff hascending hb).mp hcover⟩
  · rintro ⟨b, hb, hcover⟩
    exact ⟨b, hb, (Block.covers_spans_iff hascending hb).mpr hcover⟩

/-- The bucket of a stretch holds its block. -/
lemma find?_bucket (h : Storable spans) (n : Nat) (b : Block) :
    ((fill Block.key (max n 1) (Block.ofSpans spans))[keyOf cp % max n 1]?.getD []).find?
        (·.key == keyOf cp) = some b ↔ b ∈ Block.ofSpans spans ∧ b.key = keyOf cp := by
  have hkeys := Block.keys_ofSpans h.gapped.ascending
  have hbucket : bucketAt (fill Block.key (max n 1) (Block.ofSpans spans))
      (keyOf cp % max n 1) = _ :=
    bucketAt_fill (by omega) _ _
  unfold bucketAt at hbucket
  rw [hbucket, Block.find?_key_eq_some (hkeys.filter _), List.mem_filter]
  rw [decide_eq_true_eq]
  constructor
  · rintro ⟨⟨hmem, -⟩, hkey⟩
    exact ⟨hmem, hkey⟩
  · rintro ⟨hmem, hkey⟩
    exact ⟨⟨hmem, by rw [hkey]⟩, hkey⟩

lemma mem_buckets (n : Nat) (b : Block) :
    b ∈ (fill Block.key (max n 1) (Block.ofSpans spans)).toList.flatten ↔
      b ∈ Block.ofSpans spans :=
  (flatten_fill_perm (by omega) _).mem_iff

/-- A block that goes into a free slot pushes none out. -/
lemma getElem?_set_free {slots : Array (Option Block)} {i : Nat} (h : slots[i]? = some none)
    (b : Block) {j : Nat} {c : Block} :
    (slots.setIfInBounds i (some b))[j]? = some (some c) ↔
      slots[j]? = some (some c) ∨ c = b ∧ i = j := by
  obtain ⟨hlt, -⟩ := Array.getElem?_eq_some_iff.mp h
  rw [Array.getElem?_setIfInBounds]
  by_cases hij : i = j
  · subst hij
    rw [if_pos rfl, if_pos hlt, h]
    simp [eq_comm]
  · simp [hij]

/-- Every block has its own slot, and the other slots are as they were. -/
lemma placeAll_eq_some {blocks : List Block} {slots slots' : Array (Option Block)}
    (h : placeAll blocks slots = some slots') :
    slots'.size = slots.size ∧ ∀ i b, slots'[i]? = some (some b) ↔
      slots[i]? = some (some b) ∨ b ∈ blocks ∧ b.key % slots.size = i := by
  induction blocks generalizing slots with
  | nil =>
    cases h
    simp
  | cons c blocks ih =>
    unfold placeAll at h
    rcases hfree : slots[c.key % slots.size]? with _ | _ | d
    · rw [hfree] at h
      cases h
    · rw [hfree] at h
      obtain ⟨hsize, hslots⟩ := ih h
      rw [Array.size_setIfInBounds] at hsize hslots
      refine ⟨hsize, fun i b => ?_⟩
      rw [hslots, getElem?_set_free hfree, List.mem_cons, or_and_right, or_assoc]
      refine or_congr_right (or_congr_left (and_congr_right fun heq => ?_))
      rw [heq]
    · rw [hfree] at h
      cases h

/-- What a placement without a clash looks like. -/
lemma place?_eq_some {blocks : List Block} {n : Nat} {l : Layout} (h : place? blocks n = some l) :
    ∃ slots, l = .optimal slots ∧
      ∀ i b, slots[i]? = some (some b) ↔ b ∈ blocks ∧ b.key % slots.size = i := by
  obtain ⟨slots, hplace, rfl⟩ := Option.map_eq_some_iff.mp h
  obtain ⟨hsize, hslots⟩ := placeAll_eq_some hplace
  refine ⟨slots, rfl, fun i b => ?_⟩
  have hempty : (Array.replicate (max n 1) (none : Option Block))[i]? ≠ some (some b) := by
    rw [Array.getElem?_replicate]
    split <;> simp
  rw [hslots, hsize]
  exact or_iff_right hempty

lemma mem_slots {blocks : List Block} {slots : Array (Option Block)}
    (h : ∀ i b, slots[i]? = some (some b) ↔ b ∈ blocks ∧ b.key % slots.size = i) (b : Block) :
    b ∈ slots.toList.filterMap id ↔ b ∈ blocks := by
  rw [List.mem_filterMap]
  constructor
  · rintro ⟨slot, hmem, rfl⟩
    rw [Array.mem_toList_iff] at hmem
    obtain ⟨i, hi, heq⟩ := Array.mem_iff_getElem.mp hmem
    exact ((h i b).mp (by rw [Array.getElem?_eq_getElem hi, heq])).1
  · intro hb
    have hslot := (h _ b).mpr ⟨hb, rfl⟩
    exact ⟨some b, Array.mem_toList_iff.mpr (Array.mem_of_getElem? hslot), rfl⟩

/-- The slot of a stretch holds its block. -/
lemma filter_slot {blocks : List Block} {slots : Array (Option Block)}
    (h : ∀ i b, slots[i]? = some (some b) ↔ b ∈ blocks ∧ b.key % slots.size = i) (b : Block) :
    slots[keyOf cp % slots.size]?.join.filter (·.key == keyOf cp) = some b ↔
      b ∈ blocks ∧ b.key = keyOf cp := by
  rw [Option.filter_eq_some_iff, Option.join_eq_some_iff, h, beq_iff_eq]
  constructor
  · rintro ⟨⟨hmem, -⟩, hkey⟩
    exact ⟨hmem, hkey⟩
  · rintro ⟨hmem, hkey⟩
    exact ⟨⟨hmem, by rw [hkey]⟩, hkey⟩

lemma contains_optimal {slots : Array (Option Block)} (h : ¬CodePoint.last < cp) :
    (Layout.optimal slots).contains cp =
      match slots[keyOf cp % slots.size]?.join.filter (·.key == keyOf cp) with
      | some b => covers b.pieces (offsetOf cp)
      | none => false := by
  simp only [contains, if_neg h]
  rcases slots[keyOf cp % slots.size]? with _ | _ | b
  · rfl
  · rfl
  · by_cases hkey : b.key = keyOf cp <;> simp [Option.filter, hkey]

/-! ### Every layout -/

variable {l : Layout}

/-- **A layout contains what its spans cover.** -/
theorem contains_iff (hspans : Storable spans) (h : Stores spans l) :
    l.contains cp = true ↔ Spans.Covers spans cp := by
  have hout : CodePoint.last < cp → ¬Spans.Covers spans cp := fun hlt hcover => by
    have := hspans.le_last cp hcover
    omega
  cases h with
  | ranged =>
    show (Tiers.ofTiered _).contains cp = true ↔ _
    rw [contains_compact (filed_addAll spans), covers_addAll hspans]
  | hashed n =>
    unfold hash contains
    by_cases hlt : CodePoint.last < cp
    · simp [hlt, hout hlt]
    · simp only [if_neg hlt, size_fill]
      exact covers_of_lookup hspans _ (find?_bucket hspans n)
  | optimal hplace =>
    obtain ⟨slots, rfl, hslots⟩ := place?_eq_some hplace
    by_cases hlt : CodePoint.last < cp
    · simp [contains, hlt, hout hlt]
    · rw [contains_optimal hlt]
      exact covers_of_lookup hspans _ (filter_slot hslots)

/-- **A layout gives back the spans it stores.** -/
theorem spans_eq (hspans : Storable spans) (h : Stores spans l) : l.spans = spans := by
  have hpieces : Spans.Sorted l.pieces ∧
      ∀ cp, Spans.Covers l.pieces cp ↔ Spans.Covers spans cp := by
    cases h with
    | ranged =>
      exact ⟨sorted_compact (filed_addAll spans), fun cp => by
        rw [pieces, covers_spans_compact, covers_addAll hspans]⟩
    | hashed n =>
      refine ⟨Spans.sorted_sort _, fun cp => ?_⟩
      rw [hash, pieces, Spans.covers_perm (Spans.sort_perm _)]
      exact covers_blocks hspans (mem_buckets n)
    | optimal hplace =>
      obtain ⟨slots, rfl, hslots⟩ := place?_eq_some hplace
      refine ⟨Spans.sorted_sort _, fun cp => ?_⟩
      rw [pieces, Spans.covers_perm (Spans.sort_perm _)]
      exact covers_blocks hspans (mem_slots hslots)
  refine Spans.gapped_ext (Spans.gapped_coalesce hpieces.1) hspans.gapped fun cp => ?_
  exact (Spans.covers_coalesce hpieces.1).trans (hpieces.2 cp)

end Layout

end TextTypes.CodeSet
