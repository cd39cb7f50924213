import TextTypes.Proofs.CodeSet.Built
import TextTypes.Proofs.Range.Words

/-!
Sets in words.

The calls, the build and the transforms once more, on tables of words and with every range checked
as it is packed. None of the checks ever fails, and the words come out as the ranges they stand for.
-/

namespace TextTypes.CodeSet

open TextTypes.Range TextTypes.Unicode

/-- The words of a ranged layout. -/
def Tiers.words (tiers : Tiers) : Words
  | .single => tiers.single.toList.map (pack .single)
  | .double => tiers.double.toList.map (pack .double)
  | .triple => tiers.triple.toList.map (pack .triple)

lemma words_ofTiered (r : Tiered) : (Tiers.ofTiered r).words = Words.ofTiered r := by
  funext t
  cases t <;> rfl

namespace Builder

/-! ### Calls -/

/-- What is included and what is excluded, in words. -/
structure Tables where
  included : Words := .empty
  excluded : Words := .empty

/-- The tables after one more call. A range that is none adds nothing. -/
def Call.file? (tables : Tables) : Call → Option Tables
  | including i => do
    let included ← tables.included.addAll? (i.spans.map Span.bounds)
    return { tables with included }
  | excluding i => do
    let excluded ← tables.excluded.addAll? (i.spans.map Span.bounds)
    return { tables with excluded }

/-- The tables after a sequence of calls. -/
def file? (calls : List Call) : Option Tables := calls.foldlM Call.file? {}

def tables (b : Builder) : Tables := ⟨.ofTiered b.included, .ofTiered b.excluded⟩

variable {b : Builder} {i : Item}

lemma Item.spans_of_invalid {r : Nat × Nat} (h : i.invalidRange? = some r) : i.spans = [] := by
  have hrange : ∀ {lo hi : Nat}, ¬(lo ≤ hi ∧ hi ≤ CodePoint.last) → (range? lo hi).toList = [] :=
    fun hout => by
      rw [← range?_isSome, Option.not_isSome_iff_eq_none] at hout
      rw [hout]
      rfl
  cases i with
  | codePoint n =>
    by_cases hlast : n ≤ CodePoint.last
    · rw [codePoint_valid.mpr hlast] at h
      cases h
    · exact hrange fun hin => hlast hin.2
  | range lo hi =>
    by_cases hin : lo ≤ hi ∧ hi ≤ CodePoint.last
    · rw [range_valid.mpr hin] at h
      cases h
    · exact hrange hin
  | chars text => cases h
  | category c => cases h
  | set s => cases h

/-- Whether or not a range is valid, a call adds the spans of its item. -/
lemma tables_apply_including (b : Builder) (i : Item) :
    ((Call.including i).apply b).included = b.included.addAll i.spans ∧
      ((Call.including i).apply b).excluded = b.excluded := by
  rcases h : i.invalidRange? with _ | r
  · rw [apply_including b h]
    exact ⟨rfl, rfl⟩
  · rw [apply_including_of_invalid b h, Item.spans_of_invalid h, Tiered.addAll_nil]
    exact ⟨rfl, rfl⟩

lemma tables_apply_excluding (b : Builder) (i : Item) :
    ((Call.excluding i).apply b).included = b.included ∧
      ((Call.excluding i).apply b).excluded = b.excluded.addAll i.spans := by
  rw [apply_excluding]
  exact (tables_apply_including b.flip i).symm

lemma Item.addAll?_spans (r : Tiered) (hset : ∀ s ∈ i.set?, s.WellFormed) :
    (Words.ofTiered r).addAll? (i.spans.map Span.bounds) = some (.ofTiered (r.addAll i.spans)) :=
  Words.addAll?_ofTiered r fun _ hs => Item.hi_le_last hset hs

lemma file?_tables (b : Builder) {call : Call} (hset : ∀ s ∈ call.item.set?, s.WellFormed) :
    call.file? b.tables = some (call.apply b).tables := by
  cases call with
  | including i =>
    obtain ⟨hincluded, hexcluded⟩ := tables_apply_including b i
    have htables : ((Call.including i).apply b).tables =
        ⟨.ofTiered (b.included.addAll i.spans), .ofTiered b.excluded⟩ := by
      rw [tables, hincluded, hexcluded]
    show ((Words.ofTiered b.included).addAll? _).bind _ = _
    rw [Item.addAll?_spans (i := i) _ hset, htables]
    rfl
  | excluding i =>
    obtain ⟨hincluded, hexcluded⟩ := tables_apply_excluding b i
    have htables : ((Call.excluding i).apply b).tables =
        ⟨.ofTiered b.included, .ofTiered (b.excluded.addAll i.spans)⟩ := by
      rw [tables, hincluded, hexcluded]
    show ((Words.ofTiered b.excluded).addAll? _).bind _ = _
    rw [Item.addAll?_spans (i := i) _ hset, htables]
    rfl

lemma WellFormed.apply (hb : b.WellFormed) (call : Call) : (call.apply b).WellFormed := by
  cases call with
  | including i =>
    obtain ⟨hincluded, hexcluded⟩ := tables_apply_including b i
    exact ⟨hincluded ▸ hb.included.addAll _, hexcluded ▸ hb.excluded⟩
  | excluding i =>
    obtain ⟨hincluded, hexcluded⟩ := tables_apply_excluding b i
    exact ⟨hincluded ▸ hb.included, hexcluded ▸ hb.excluded.addAll _⟩

/-- **Any calls leave ranges of the right tiers**, and their checked run does not fail. -/
theorem file?_eq (calls : List Call)
    (hsets : ∀ call ∈ calls, ∀ s ∈ call.item.set?, s.WellFormed) :
    file? calls = some (ofCalls calls).tables ∧ (ofCalls calls).WellFormed := by
  induction calls using List.reverseRecOn with
  | nil =>
    refine ⟨?_, wellFormed_empty⟩
    show some (⟨.empty, .empty⟩ : Tables) = some ⟨.ofTiered {}, .ofTiered {}⟩
    rw [Words.ofTiered_empty]
  | append_singleton calls call ih =>
    obtain ⟨hfile, hwf⟩ := ih fun c hc => hsets c (List.mem_append_left _ hc)
    rw [ofCalls_concat]
    refine ⟨?_, hwf.apply call⟩
    rw [file?, List.foldlM_append]
    show (file? calls).bind _ = _
    rw [hfile, Option.bind_some, List.foldlM_cons, file?_tables _ (hsets call (by simp))]
    rfl

/-! ### Build -/

/-- The build on words. A member of an excluded category is removed by itself. -/
def buildWords? (b : Builder) (tables : Tables) : Option Words := do
  let excluded ← tables.excluded.compact?
  let kept ← tables.included.removeAll? excluded.bounds
  let banned := kept.codePoints.filter fun cp => b.excludedCategories.has (categoryOf cp)
  let kept ← kept.removeAll? (banned.map fun cp => (cp, cp))
  let listing := b.mask.toList.filter fun c =>
    excluded.codePoints.any fun cp => categoryOf cp == c
  let all ← kept.addAll? ((listing.flatMap Category.spans).map Span.bounds)
  let all ← all.removeAll? excluded.bounds
  all.compact?

/-- A category is listed if it is the category of an excluded code point. -/
lemma filter_any_eq_listing (hb : b.WellFormed) :
    (b.mask.toList.filter fun c => (Words.ofTiered b.excluded.compact).codePoints.any
      fun cp => categoryOf cp == c) = b.listing := by
  refine List.filter_congr fun c _ => Bool.eq_iff_iff.mpr ?_
  simp only [List.any_eq_true, Words.mem_codePoints_ofTiered hb.excluded.compact, beq_iff_eq,
    Tiered.covers_compact, meets_iff, Category.covers_spans_iff, Tiered.covers_toList]
  constructor
  · rintro ⟨cp, hcover, rfl⟩
    exact ⟨cp, ⟨hb.excluded.le_last hcover, rfl⟩, hcover⟩
  · rintro ⟨cp, ⟨-, hc⟩, hcover⟩
    exact ⟨cp, hcover, hc⟩

/-- The spans of the members of some categories, none of them beyond the code space. -/
lemma hi_le_last_of_mem_members {cs : List Category} {s : Span}
    (h : s ∈ cs.flatMap Category.spans) : s.hi ≤ CodePoint.last :=
  (covers_members.mp ⟨s, h, s.hi_mem⟩).1

lemma covers_singles {cps : List Nat} {cp : Nat} :
    Spans.Covers (cps.map Span.single) cp ↔ cp ∈ cps := by
  unfold Spans.Covers
  simp only [List.mem_map, exists_exists_and_eq_and, Span.mem_def, Span.single]
  constructor
  · rintro ⟨n, hn, hle, hge⟩
    rwa [Nat.le_antisymm hge hle]
  · exact fun h => ⟨cp, h, Nat.le_refl cp, Nat.le_refl cp⟩

/-- **A build packs inside the tiers only**, and comes to the words of the built set. -/
theorem buildWords?_eq (hb : b.WellFormed) :
    b.buildWords? b.tables = some (.ofTiered b.accepted.compact) := by
  have hexcluded := hb.excluded.compact
  have hopen := hb.included.removeAll b.excluded.compact.toList
  obtain ⟨banned, hbanned⟩ : ∃ banned, banned =
      (Words.ofTiered (b.included.removeAll b.excluded.compact.toList)).codePoints.filter
        fun cp => b.excludedCategories.has (categoryOf cp) := ⟨_, rfl⟩
  have hsingles : banned.map (fun cp => (cp, cp)) = (banned.map Span.single).map Span.bounds := by
    rw [List.map_map]
    rfl
  have hkept := hopen.removeAll (banned.map Span.single)
  have hall := (hkept.addAll (b.listing.flatMap Category.spans)).removeAll
    b.excluded.compact.toList
  simp only [buildWords?, tables, Option.bind_eq_bind, Option.bind_some,
    Words.compact?_ofTiered hb.excluded, Words.bounds_ofTiered hexcluded,
    Words.removeAll?_ofTiered hb.included, ← hbanned, hsingles, Words.removeAll?_ofTiered hopen,
    filter_any_eq_listing hb, Words.addAll?_ofTiered _ fun s => hi_le_last_of_mem_members,
    Words.removeAll?_ofTiered (hkept.addAll _), Words.compact?_ofTiered hall]
  -- removed one by one or as spans, the members of excluded categories are gone
  have hmem : ∀ cp, cp ∈ banned ↔ (b.included.Covers cp ∧ ¬b.excluded.Covers cp) ∧
      b.excludedCategories.has (categoryOf cp) = true := fun cp => by
    rw [hbanned, List.mem_filter, Words.mem_codePoints_ofTiered hopen, Tiered.covers_removeAll,
      Tiered.covers_toList, Tiered.covers_compact]
  refine congrArg (fun r => some (Words.ofTiered r))
    (Tiered.compact_ext hall hb.accepted fun cp => ?_)
  by_cases hcp : cp ≤ CodePoint.last
  · rw [Tiered.covers_removeAll, Tiered.covers_addAll, Tiered.covers_removeAll,
      Tiered.covers_removeAll, covers_singles, hmem, covers_members, Tiered.covers_toList,
      Tiered.covers_compact, covers_accepted hcp, Excludes]
    tauto
  · exact iff_of_false (fun h => hcp (hall.le_last h)) fun h => hcp (hb.accepted.le_last h)

end Builder

/-! ### Transforms -/

/-- The words of a set in the ranged layout: those it has, or its spans packed anew. -/
def rangedWords? (s : CodeSet) : Option Words :=
  match s.layout with
  | .ranged tiers => some tiers.words
  | _ => (Words.empty.addAll? (s.spans.map Span.bounds)).bind Words.compact?

/-- The sizes of the tiers that other layouts are held against. -/
def tierSizes? (s : CodeSet) : Option (Nat × Nat × Nat) :=
  match s.toRanged.layout with
  | .ranged tiers => some (tiers.single.size, tiers.double.size, tiers.triple.size)
  | _ => none

/-- The pieces that a layout stores by block. -/
def Layout.offsets : Layout → List Span
  | .ranged _ => []
  | .hashed buckets => buckets.toList.flatten.flatMap (·.pieces.toList)
  | .optimal slots => (slots.toList.filterMap id).flatMap (·.pieces.toList)

/-- The words of the pieces. -/
def Layout.offsetWords? (l : Layout) : Option (List (Word .single)) :=
  l.offsets.mapM fun p => pack? .single p.lo p.hi

variable {s : CodeSet}

lemma words_tiers (h : s.WellFormed) : s.tiers.words = .ofTiered s.tiered := by
  rw [tiers_eq h, words_ofTiered]

lemma rangedWords?_eq (h : s.WellFormed) : s.rangedWords? = some s.tiers.words := by
  have hlast : ∀ r ∈ s.spans, r.hi ≤ CodePoint.last := fun r hr =>
    h.storable.le_last r.hi ⟨r, hr, r.hi_mem⟩
  have hanew : (Words.empty.addAll? (s.spans.map Span.bounds)).bind Words.compact? =
      some s.tiers.words := by
    rw [← Words.ofTiered_empty, Words.addAll?_ofTiered {} hlast, Option.bind_some,
      Words.compact?_ofTiered (Layout.filed_addAll s.spans), words_tiers h]
    rfl
  unfold rangedWords?
  split
  next tiers hlayout => rw [CodeSet.tiers, hlayout]
  · exact hanew

lemma within_words_tiers (h : s.WellFormed) : s.tiers.words.Within := by
  rw [words_tiers h]
  exact Words.within_ofTiered (Layout.filed_addAll s.spans).compact

lemma holds_of_mem_offsets {spans : List Span} {l : Layout} (hspans : Layout.Storable spans)
    (h : l.Stores spans) {p : Span} (hp : p ∈ l.offsets) : Tier.single.Holds p := by
  have hblock : ∃ b ∈ Block.ofSpans spans, p ∈ b.pieces.toList := by
    cases h with
    | ranged => cases hp
    | hashed n =>
      obtain ⟨b, hb, hpiece⟩ := List.mem_flatMap.mp hp
      exact ⟨b, (Layout.mem_buckets n b).mp hb, hpiece⟩
    | optimal hplace =>
      obtain ⟨slots, rfl, hslots⟩ := Layout.place?_eq_some hplace
      obtain ⟨b, hb, hpiece⟩ := List.mem_flatMap.mp hp
      exact ⟨b, (Layout.mem_slots hslots b).mp hb, hpiece⟩
  obtain ⟨b, hb, hpiece⟩ := hblock
  have hlt := ((Block.exists_covers_ofSpans hspans.gapped.ascending).mp
    ⟨b, hb, rfl, p, hpiece, p.hi_mem⟩).1
  exact ⟨Nat.zero_le _, Nat.le_of_lt_succ hlt⟩

lemma offsetWords?_eq (h : s.WellFormed) :
    s.layout.offsetWords? = some (s.layout.offsets.map (pack .single)) :=
  mapM_eq_some fun _ hp => pack?_eq (holds_of_mem_offsets h.storable h.stores hp) rfl rfl

/-- **No range is ever packed outside its tier.** The calls, the build and the transforms meet no
failure when every range is checked as it is packed, and no split runs out of tiers. The words have
ranges of their tier, and unpack to what was packed. -/
theorem packs_within :
    (∀ t lo hi w, pack? t lo hi = some w → unpack t w = (lo, hi)) ∧
      (∀ calls : List Builder.Call, (∀ call ∈ calls, ∀ s ∈ call.item.set?, Built s) →
        Builder.file? calls = some (Builder.ofCalls calls).tables ∧
          (Builder.ofCalls calls).tables.included.Within ∧
          (Builder.ofCalls calls).tables.excluded.Within ∧
          ∀ s, (Builder.ofCalls calls).buildRanged = .ok s →
            s.layout = .ranged s.tiers ∧
              (Builder.ofCalls calls).buildWords? (Builder.ofCalls calls).tables =
                some s.tiers.words) ∧
      ∀ s, Built s →
        s.toRanged.layout = .ranged s.tiers ∧ s.rangedWords? = some s.tiers.words ∧
          s.tiers.words.Within ∧
          s.tierSizes? = some (s.shape.single, s.shape.double, s.shape.triple) ∧
          s.layout.offsetWords? = some (s.layout.offsets.map (pack .single)) := by
  refine ⟨fun t lo hi w => unpack_of_pack?, fun calls hsets => ?_, fun s hs => ?_⟩
  · obtain ⟨hfile, hwf⟩ :=
      Builder.file?_eq calls fun call hcall s hset => (hsets call hcall s hset).wellFormed
    refine ⟨hfile, Words.within_ofTiered hwf.included, Words.within_ofTiered hwf.excluded,
      fun s hs => ?_⟩
    rcases herror : (Builder.ofCalls calls).error with _ | e
    · rw [Builder.buildRanged_eq _ herror] at hs
      cases hs
      rw [Builder.buildWords?_eq hwf, ← words_ofTiered]
      exact ⟨rfl, rfl⟩
    · rw [Builder.buildRanged_error _ herror] at hs
      cases hs
  · have hwf := hs.wellFormed
    exact ⟨rfl, rangedWords?_eq hwf, within_words_tiers hwf, rfl, offsetWords?_eq hwf⟩

/-- A range across all tiers, a set in buckets, and a code point behind the end of a tier. -/
def Builder.straddling : List Builder.Call :=
  [.including (.range 0xF0 0x10010), .including (.set (letters.toHashed 4)),
    .excluding (.codePoint 0x100)]

/-- Four words, built from calls and once more from buckets. -/
theorem packs_within_straddling :
    ∃ s, (Builder.ofCalls Builder.straddling).buildRanged = .ok s ∧
      (Builder.ofCalls Builder.straddling).buildWords?
        (Builder.ofCalls Builder.straddling).tables = some s.tiers.words ∧
      (s.toHashed 3).rangedWords? = some (s.toHashed 3).tiers.words ∧
      ((s.toHashed 3).tiers.words .single).map BitVec.toNat = [0x6163, 0xF0FF] ∧
      ((s.toHashed 3).tiers.words .double).map BitVec.toNat = [0x0101FFFF] ∧
      ((s.toHashed 3).tiers.words .triple).map BitVec.toNat = [0x0001000000010010] := by
  have hsets : ∀ call ∈ Builder.straddling, ∀ s ∈ call.item.set?, Built s := by
    have hset : Built (letters.toHashed 4) := .transform (t := .hashed 4) built_letters rfl
    simpa [Builder.straddling, Builder.Call.item, Builder.Item.set?] using hset
  have hnumbers : (Builder.ofCalls Builder.straddling).buildRanged.toOption.map (fun s =>
      (((s.toHashed 3).tiers.words .single).map BitVec.toNat,
        ((s.toHashed 3).tiers.words .double).map BitVec.toNat,
        ((s.toHashed 3).tiers.words .triple).map BitVec.toNat)) =
      some ([0x6163, 0xF0FF], [0x0101FFFF], [0x0001000000010010]) := by decide +kernel
  rcases h : (Builder.ofCalls Builder.straddling).buildRanged with _ | s
  · rw [h] at hnumbers
    cases hnumbers
  rw [h] at hnumbers
  simp only [Except.toOption, Option.map_some, Option.some.injEq, Prod.mk.injEq] at hnumbers
  have hbuilt : Built (s.toHashed 3) := .transform (t := .hashed 3) (.buildRanged _ hsets h) rfl
  obtain ⟨-, -, -, hbuild⟩ := packs_within.2.1 _ hsets
  obtain ⟨-, hranged, -⟩ := packs_within.2.2 _ hbuilt
  exact ⟨s, rfl, (hbuild s h).2, hranged, hnumbers⟩

end TextTypes.CodeSet
