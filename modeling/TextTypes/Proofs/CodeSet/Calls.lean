import TextTypes.Proofs.CodeSet.Building

/-!
Sets from sequences of calls.

Every call adds spans and a mask to what is included or to what is excluded, or names an invalid
range. What a build accepts can so be read off the calls, in whatever order they come. The sets
that can be handed to a call are those that were built in turn, in any layout.
-/

namespace TextTypes.CodeSet.Builder

open TextTypes.Range TextTypes.Unicode

/-- What a call includes or excludes. A single character is a text of one, and a range of
characters is the range between their code points. -/
inductive Item
  | codePoint (cp : Nat)
  | range (lo hi : Nat)
  | chars (text : List Char)
  | category (c : Category)
  | set (s : CodeSet)

namespace Item

/-- Whether an item has a code point, by its number, its category or its set. -/
def Has (cp : Nat) : Item → Prop
  | codePoint n => cp = n
  | range lo hi => lo ≤ cp ∧ cp ≤ hi
  | chars text => ∃ c ∈ text, c.toNat = cp
  | category c => categoryOf cp = c
  | set s => s.contains cp = true

/-- The range of an item that is none. -/
def invalidRange? : Item → Option (Nat × Nat)
  | codePoint n => if n ≤ CodePoint.last then none else some (n, n)
  | range lo hi => if lo ≤ hi ∧ hi ≤ CodePoint.last then none else some (lo, hi)
  | _ => none

def set? : Item → Option CodeSet
  | set s => some s
  | _ => none

/-- The spans that an item adds. -/
def spans : Item → List Span
  | codePoint n => (range? n n).toList
  | range lo hi => (range? lo hi).toList
  | chars text => text.flatMap fun c => (range? c.toNat c.toNat).toList
  | category _ => []
  | set s => s.spans

/-- The categories that an item adds. -/
def mask : Item → CategoryMask
  | codePoint _ | range .. | chars _ => 0#64
  | category c => CategoryMask.bit c
  | set s => s.categories

end Item

inductive Call
  | including (item : Item)
  | excluding (item : Item)

namespace Call

def item : Call → Item
  | including i => i
  | excluding i => i

def apply (b : Builder) : Call → Builder
  | including (.codePoint n) => b.includeCodePoint n
  | including (.range lo hi) => b.includeRange lo hi
  | including (.chars text) => b.includeChars text
  | including (.category c) => b.includeCategory c
  | including (.set s) => b.includeSet s
  | excluding (.codePoint n) => b.excludeCodePoint n
  | excluding (.range lo hi) => b.excludeRange lo hi
  | excluding (.chars text) => b.excludeChars text
  | excluding (.category c) => b.excludeCategory c
  | excluding (.set s) => b.excludeSet s

/-- Whether the call includes a code point. -/
def Includes (cp : Nat) : Call → Prop
  | including i => i.Has cp
  | excluding _ => False

/-- Whether the call excludes a code point. -/
def Excludes (cp : Nat) : Call → Prop
  | including _ => False
  | excluding i => i.Has cp

end Call

/-- The builder after a sequence of calls. -/
def ofCalls (calls : List Call) : Builder := calls.foldl Call.apply {}

/-- The range of the first call whose range is invalid. -/
def firstInvalid? (calls : List Call) : Option (Nat × Nat) :=
  calls.findSome? fun call => call.item.invalidRange?

/-- Some call includes the code point, and none excludes it. -/
def Accepted (calls : List Call) (cp : Nat) : Prop :=
  (∃ call ∈ calls, call.Includes cp) ∧ ¬∃ call ∈ calls, call.Excludes cp

/-! ### Items -/

lemma range?_eq_some {lo hi : Nat} {s : Span} :
    range? lo hi = some s ↔ hi ≤ CodePoint.last ∧ s.lo = lo ∧ s.hi = hi := by
  unfold range?
  split
  · rename_i h
    rw [Span.ofBounds?_eq_some, and_iff_right h]
  · rename_i h
    exact ⟨fun hnone => (by cases hnone), fun hlast => absurd hlast.1 h⟩

lemma range?_isSome {lo hi : Nat} : (range? lo hi).isSome ↔ lo ≤ hi ∧ hi ≤ CodePoint.last := by
  rw [Option.isSome_iff_exists]
  constructor
  · rintro ⟨s, hs⟩
    obtain ⟨hlast, rfl, rfl⟩ := range?_eq_some.mp hs
    exact ⟨s.lo_le_hi, hlast⟩
  · rintro ⟨hle, hlast⟩
    exact ⟨⟨lo, hi, hle⟩, range?_eq_some.mpr ⟨hlast, rfl, rfl⟩⟩

lemma covers_range? {lo hi cp : Nat} :
    Spans.Covers (range? lo hi).toList cp ↔ hi ≤ CodePoint.last ∧ lo ≤ cp ∧ cp ≤ hi := by
  unfold Spans.Covers
  simp only [Option.mem_toList, range?_eq_some, Span.mem_def]
  constructor
  · rintro ⟨s, ⟨hlast, rfl, rfl⟩, hcp⟩
    exact ⟨hlast, hcp⟩
  · rintro ⟨hlast, hcp⟩
    exact ⟨⟨lo, hi, by omega⟩, ⟨hlast, rfl, rfl⟩, hcp⟩

lemma Item.codePoint_valid {n : Nat} :
    (codePoint n).invalidRange? = none ↔ n ≤ CodePoint.last := by
  simp [invalidRange?]

lemma Item.range_valid {lo hi : Nat} :
    (range lo hi).invalidRange? = none ↔ lo ≤ hi ∧ hi ≤ CodePoint.last := by
  unfold invalidRange?
  split <;> simp_all

/-- An item has what its spans cover and the members of its mask. -/
lemma Item.has_iff {i : Item} (hvalid : i.invalidRange? = none)
    (hset : ∀ s ∈ i.set?, s.WellFormed) {cp : Nat} :
    i.Has cp ↔ Spans.Covers i.spans cp ∨ i.mask.has (categoryOf cp) = true := by
  have hzero := CategoryMask.not_has_zero (categoryOf cp)
  cases i with
  | codePoint n =>
    rw [codePoint_valid] at hvalid
    rw [mask, or_iff_left hzero, spans, covers_range?, Has]
    omega
  | range lo hi =>
    rw [range_valid] at hvalid
    rw [mask, or_iff_left hzero, spans, covers_range?, Has]
    omega
  | chars text =>
    rw [mask, or_iff_left hzero, spans, Spans.covers_flatMap, Has]
    refine exists_congr fun c => and_congr_right fun _ => ?_
    have := CodePoint.toNat_le_last c
    rw [covers_range?]
    omega
  | category c => rw [mask, CategoryMask.has_bit, spans, or_iff_right Spans.covers_nil, Has]
  | set s => exact contains_iff (hset s rfl)

/-! ### Both sides -/

/-- The builder with what is included and what is excluded exchanged. -/
def flip (b : Builder) : Builder :=
  ⟨b.excluded, b.included, b.excludedCategories, b.includedCategories, b.error⟩

lemma flip_includeRange (b : Builder) (lo hi : Nat) :
    (b.flip.includeRange lo hi).flip = b.excludeRange lo hi := by
  unfold includeRange excludeRange
  cases range? lo hi <;> rfl

lemma flip_includeChars (b : Builder) (text : List Char) :
    (b.flip.includeChars text).flip = b.excludeChars text := by
  induction text generalizing b with
  | nil => rfl
  | cons c text ih =>
    show ((b.flip.includeRange c.toNat c.toNat).includeChars text).flip =
      (b.excludeRange c.toNat c.toNat).excludeChars text
    rw [← flip_includeRange, ← ih]
    rfl

/-- An exclusion is an inclusion on the other side. -/
lemma apply_excluding (b : Builder) (i : Item) :
    (Call.excluding i).apply b = ((Call.including i).apply b.flip).flip := by
  cases i with
  | codePoint n => exact (flip_includeRange b n n).symm
  | range lo hi => exact (flip_includeRange b lo hi).symm
  | chars text => exact (flip_includeChars b text).symm
  | category c => rfl
  | set s => rfl

/-! ### One call -/

lemma includeRange_eq (b : Builder) {lo hi : Nat} (h : lo ≤ hi ∧ hi ≤ CodePoint.last) :
    b.includeRange lo hi = { b with included := b.included.addAll (range? lo hi).toList } := by
  obtain ⟨s, hs⟩ := Option.isSome_iff_exists.mp (range?_isSome.mpr h)
  rw [includeRange, hs]
  rfl

lemma includeChars_eq (b : Builder) (text : List Char) :
    b.includeChars text = { b with included := b.included.addAll (Item.chars text).spans } := by
  induction text generalizing b with
  | nil =>
    show b = { b with included := b.included.addAll [] }
    rw [Tiered.addAll_nil]
  | cons c text ih =>
    show (b.includeRange c.toNat c.toNat).includeChars text = _
    rw [ih, includeRange_eq b ⟨Nat.le_refl _, CodePoint.toNat_le_last c⟩, Tiered.addAll_addAll]
    rfl

variable {b : Builder} {i : Item} {cp : Nat}

/-- A valid call adds the spans and the mask of its item. -/
lemma apply_including (b : Builder) (hvalid : i.invalidRange? = none) :
    (Call.including i).apply b =
      { b with
        included := b.included.addAll i.spans
        includedCategories := b.includedCategories ||| i.mask } := by
  cases i with
  | codePoint n =>
    rw [Item.mask, BitVec.or_zero]
    exact includeRange_eq b ⟨Nat.le_refl n, Item.codePoint_valid.mp hvalid⟩
  | range lo hi =>
    rw [Item.mask, BitVec.or_zero]
    exact includeRange_eq b (Item.range_valid.mp hvalid)
  | chars text =>
    rw [Item.mask, BitVec.or_zero]
    exact includeChars_eq b text
  | category c =>
    rw [Item.spans, Tiered.addAll_nil]
    rfl
  | set s => rfl

/-- A call with an invalid range only leaves an error. -/
lemma apply_including_of_invalid (b : Builder) {r : Nat × Nat} (h : i.invalidRange? = some r) :
    (Call.including i).apply b = b.fail (.invalidRange r.1 r.2) := by
  have hfail : ∀ lo hi, ¬(lo ≤ hi ∧ hi ≤ CodePoint.last) →
      b.includeRange lo hi = b.fail (.invalidRange lo hi) := fun lo hi hout => by
    rw [← range?_isSome, Option.not_isSome_iff_eq_none] at hout
    rw [includeRange, hout]
  cases i with
  | codePoint n =>
    by_cases hlast : n ≤ CodePoint.last
    · rw [Item.codePoint_valid.mpr hlast] at h
      cases h
    · rw [Item.invalidRange?, if_neg hlast] at h
      cases h
      exact hfail n n fun hin => hlast hin.2
  | range lo hi =>
    by_cases hlast : lo ≤ hi ∧ hi ≤ CodePoint.last
    · rw [Item.range_valid.mpr hlast] at h
      cases h
    · rw [Item.invalidRange?, if_neg hlast] at h
      cases h
      exact hfail lo hi hlast
  | chars text => cases h
  | category c => cases h
  | set s => cases h

/-- What a call does with the error. -/
lemma error_apply (b : Builder) (call : Call) :
    (call.apply b).error =
      b.error.or (call.item.invalidRange?.map fun r => .invalidRange r.1 r.2) := by
  have hincluding : ∀ (b : Builder) (i : Item), ((Call.including i).apply b).error =
      b.error.or (i.invalidRange?.map fun r => .invalidRange r.1 r.2) := by
    intro b i
    rcases hr : i.invalidRange? with _ | r
    · rw [apply_including b hr, Option.map_none, Option.or_none]
    · rw [apply_including_of_invalid b hr, Option.map_some]
      show (b.error <|> some _) = _
      cases b.error <;> rfl
  cases call with
  | including i => exact hincluding b i
  | excluding i =>
    rw [apply_excluding]
    exact hincluding b.flip i

/-- No item reaches beyond the code space. -/
lemma Item.hi_le_last (hset : ∀ s ∈ i.set?, s.WellFormed) {s : Span} (hs : s ∈ i.spans) :
    s.hi ≤ CodePoint.last := by
  have hrange : ∀ {lo hi : Nat}, s ∈ (range? lo hi).toList → s.hi ≤ CodePoint.last := fun hmem => by
    obtain ⟨hlast, -, rfl⟩ := range?_eq_some.mp (Option.mem_toList.mp hmem)
    exact hlast
  cases i with
  | codePoint n => exact hrange hs
  | range lo hi => exact hrange hs
  | chars text =>
    obtain ⟨c, -, hmem⟩ := List.mem_flatMap.mp hs
    exact hrange hmem
  | category c => cases hs
  | set t => exact (hset t rfl).storable.le_last s.hi ⟨s, hs, s.hi_mem⟩

/-- What a valid call does with everything else. -/
lemma step_including (hb : b.WellFormed) (hvalid : i.invalidRange? = none)
    (hset : ∀ s ∈ i.set?, s.WellFormed) :
    ((Call.including i).apply b).WellFormed ∧
      ∀ cp,
        (((Call.including i).apply b).Includes cp ↔ b.Includes cp ∨ i.Has cp) ∧
          (((Call.including i).apply b).Excludes cp ↔ b.Excludes cp) := by
  rw [apply_including b hvalid]
  refine ⟨⟨hb.included.addAll _, hb.excluded⟩, fun cp => ⟨?_, Iff.rfl⟩⟩
  have hlast : Spans.Covers i.spans cp → cp ≤ CodePoint.last := fun ⟨s, hs, hmem⟩ =>
    Nat.le_trans hmem.2 (Item.hi_le_last hset hs)
  rw [Item.has_iff hvalid hset]
  unfold Includes
  rw [Tiered.covers_addAll, CategoryMask.has_or, and_iff_left_of_imp hlast, or_or_or_comm]

lemma step (hb : b.WellFormed) {call : Call} (hvalid : call.item.invalidRange? = none)
    (hset : ∀ s ∈ call.item.set?, s.WellFormed) :
    (call.apply b).WellFormed ∧
      ∀ cp,
        ((call.apply b).Includes cp ↔ b.Includes cp ∨ call.Includes cp) ∧
          ((call.apply b).Excludes cp ↔ b.Excludes cp ∨ call.Excludes cp) := by
  cases call with
  | including i =>
    obtain ⟨hwf, hcovers⟩ := step_including hb hvalid hset
    refine ⟨hwf, fun cp => ⟨(hcovers cp).1, (hcovers cp).2.trans ?_⟩⟩
    exact (or_iff_left id).symm
  | excluding i =>
    have hflip : b.flip.WellFormed := ⟨hb.excluded, hb.included⟩
    obtain ⟨hwf, hcovers⟩ := step_including hflip hvalid hset
    rw [apply_excluding]
    refine ⟨⟨hwf.excluded, hwf.included⟩, fun cp => ⟨(hcovers cp).2.trans ?_, (hcovers cp).1⟩⟩
    exact (or_iff_left id).symm

/-! ### All calls -/

lemma ofCalls_concat (calls : List Call) (call : Call) :
    ofCalls (calls ++ [call]) = call.apply (ofCalls calls) := by
  simp [ofCalls]

lemma firstInvalid?_concat (calls : List Call) (call : Call) :
    firstInvalid? (calls ++ [call]) = (firstInvalid? calls).or call.item.invalidRange? := by
  simp [firstInvalid?, List.findSome?_append]

/-- The error is the one of the first invalid range. -/
lemma error_ofCalls (calls : List Call) :
    (ofCalls calls).error = (firstInvalid? calls).map fun r => .invalidRange r.1 r.2 := by
  induction calls using List.reverseRecOn with
  | nil => rfl
  | append_singleton calls call ih =>
    rw [ofCalls_concat, error_apply, ih, firstInvalid?_concat]
    cases firstInvalid? calls <;> rfl

/-- A sequence of valid calls includes what one of them includes, and so for exclusions. -/
lemma run (calls : List Call) (hvalid : firstInvalid? calls = none)
    (hsets : ∀ call ∈ calls, ∀ s ∈ call.item.set?, s.WellFormed) :
    (ofCalls calls).WellFormed ∧
      ∀ cp,
        ((ofCalls calls).Includes cp ↔ ∃ call ∈ calls, call.Includes cp) ∧
          ((ofCalls calls).Excludes cp ↔ ∃ call ∈ calls, call.Excludes cp) := by
  induction calls using List.reverseRecOn with
  | nil =>
    have hempty : ∀ cp, ¬({} : Builder).Includes cp := fun cp =>
      not_or.mpr ⟨Tiered.not_covers_empty, CategoryMask.not_has_zero _⟩
    refine ⟨wellFormed_empty, fun cp => ?_⟩
    simp only [List.not_mem_nil, false_and, exists_false, iff_false]
    exact ⟨hempty cp, hempty cp⟩
  | append_singleton calls call ih =>
    rw [firstInvalid?_concat, Option.or_eq_none_iff] at hvalid
    obtain ⟨hwf, hcovers⟩ := ih hvalid.1 fun c hc => hsets c (List.mem_append_left _ hc)
    obtain ⟨hwf', hstep⟩ := step hwf hvalid.2 (hsets call (by simp))
    rw [ofCalls_concat]
    refine ⟨hwf', fun cp => ?_⟩
    simp only [hstep cp, hcovers cp, List.mem_append, List.mem_singleton, or_and_right,
      exists_or, exists_eq_left, and_self]

end TextTypes.CodeSet.Builder
