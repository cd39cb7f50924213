import TextTypes.CodeSet.Basic
import TextTypes.Proofs.CodeSet.Layouts
import TextTypes.Proofs.Unicode.Categories

/-!
Changing the layout of a set.

A transform reads the spans of a set, its categories and its size, and writes a layout of the
same spans. So a chain of transforms keeps all three, and its last transform alone has the same
result.
-/

namespace TextTypes.CodeSet

open TextTypes.Range TextTypes.Unicode

/-- The layout of a well-formed set stores the spans that the set reports. -/
structure WellFormed (s : CodeSet) : Prop where
  storable : Layout.Storable s.spans
  stores : s.layout.Stores s.spans

/-- A layout of storable spans makes a set of these spans. -/
lemma wellFormed_of_stores {spans : List Span} {l : Layout} (hspans : Layout.Storable spans)
    (h : l.Stores spans) (categories : CategoryMask) (size : Nat) :
    (⟨l, categories, size⟩ : CodeSet).spans = spans ∧
      (⟨l, categories, size⟩ : CodeSet).WellFormed := by
  have heq : (⟨l, categories, size⟩ : CodeSet).spans = spans := Layout.spans_eq hspans h
  exact ⟨heq, by rwa [heq], by rwa [heq]⟩

variable {s s' : CodeSet}

/-- **What a set contains**: what its spans cover, and the members of its categories. -/
theorem contains_iff (h : s.WellFormed) {cp : Nat} :
    s.contains cp = true ↔
      Spans.Covers s.spans cp ∨ s.categories.has (categoryOf cp) = true := by
  unfold contains
  rw [Bool.or_eq_true, Layout.contains_iff h.storable h.stores, Bool.and_eq_true, bne_iff_ne]
  refine or_congr_right (and_iff_right_of_imp fun hhas hzero => ?_)
  rw [hzero] at hhas
  exact CategoryMask.not_has_zero _ hhas

lemma contains_congr (h : s.WellFormed) (h' : s'.WellFormed) (hspans : s.spans = s'.spans)
    (hcategories : s.categories = s'.categories) (cp : Nat) : s.contains cp = s'.contains cp := by
  rw [Bool.eq_iff_iff, contains_iff h, contains_iff h', hspans, hcategories]

/-! ### The transforms -/

/-- A change of the layout. -/
inductive Transform
  | ranged
  | hashed (buckets : Nat)
  | optimal
  | optimised

namespace Transform

/-- The set in the new layout, unless there is no spread without a clash. -/
def make? (s : CodeSet) : Transform → Option CodeSet
  | ranged => some s.toRanged
  | hashed n => some (s.toHashed n)
  | optimal => s.toOptimal?
  | optimised => some s.optimised

/-- The transforms one after the other. -/
def run? (s : CodeSet) (ts : List Transform) : Option CodeSet := ts.foldlM make? s

end Transform

lemma tiers_eq (h : s.WellFormed) : s.tiers = Tiers.ofTiered s.tiered := by
  have hstores := h.stores
  unfold tiers
  generalize hl : s.layout = l at hstores ⊢
  cases hstores with
  | ranged => rfl
  | hashed n => rfl
  | optimal hplace =>
    obtain ⟨slots, rfl, -⟩ := Layout.place?_eq_some hplace
    rfl

lemma stores_toRanged (h : s.WellFormed) : s.toRanged.layout.Stores s.spans := by
  show (Layout.ranged s.tiers).Stores s.spans
  rw [tiers_eq h]
  exact .ranged

/-- A transform writes a layout of the spans it finds. -/
lemma exists_stores_of_make? (h : s.WellFormed) {t : Transform} (ht : t.make? s = some s') :
    ∃ l : Layout, l.Stores s.spans ∧ s' = { s with layout := l } := by
  cases t with
  | ranged =>
    cases ht
    exact ⟨_, stores_toRanged h, rfl⟩
  | hashed n =>
    cases ht
    exact ⟨_, .hashed n, rfl⟩
  | optimal =>
    obtain ⟨n, -, hn⟩ := Option.bind_eq_some_iff.mp ht
    obtain ⟨l, hl, hs'⟩ := Option.bind_eq_some_iff.mp hn
    cases hs'
    exact ⟨l, .optimal hl, rfl⟩
  | optimised =>
    cases ht
    unfold optimised
    rcases s.shape.choose.strategy with _ | n | n
    · exact ⟨_, stores_toRanged h, rfl⟩
    · exact ⟨_, .hashed n, rfl⟩
    · simp only
      rcases hl : Layout.place? s.blocks n with _ | l
      · exact ⟨_, stores_toRanged h, rfl⟩
      · exact ⟨l, .optimal hl, rfl⟩

/-- What a transform keeps. -/
lemma make?_keeps (h : s.WellFormed) {t : Transform} (ht : t.make? s = some s') :
    s'.WellFormed ∧ s'.spans = s.spans ∧ s'.categories = s.categories ∧ s'.size = s.size := by
  obtain ⟨l, hl, rfl⟩ := exists_stores_of_make? h ht
  obtain ⟨hspans, hwf⟩ := wellFormed_of_stores h.storable hl s.categories s.size
  exact ⟨hwf, hspans, rfl, rfl⟩

/-- A transform reads the spans, the categories and the size of a set, and not its layout. -/
lemma make?_congr (h : s.WellFormed) (h' : s'.WellFormed) (hspans : s'.spans = s.spans)
    (hcategories : s'.categories = s.categories) (hsize : s'.size = s.size) (t : Transform) :
    t.make? s' = t.make? s := by
  have hblocks : s'.blocks = s.blocks := congrArg Block.ofSpans hspans
  have htiers : s'.tiers = s.tiers := by
    rw [tiers_eq h', tiers_eq h, tiered, tiered, hspans]
  have hshape : s'.shape = s.shape := by rw [shape, shape, hblocks, htiers, hspans]
  have hlayout : ∀ l : Layout, { s' with layout := l } = { s with layout := l } := fun l => by
    rw [hcategories, hsize]
  have hranged : s'.toRanged = s.toRanged := by rw [toRanged, toRanged, htiers, hlayout]
  cases t with
  | ranged => exact congrArg some hranged
  | hashed n =>
    show some (s'.toHashed n) = some (s.toHashed n)
    rw [toHashed, toHashed, hblocks, hlayout]
  | optimal =>
    show s'.toOptimal? = s.toOptimal?
    unfold toOptimal?
    simp only [hblocks, hlayout]
  | optimised =>
    show some s'.optimised = some s.optimised
    unfold optimised
    simp only [hshape, hblocks, hranged, hlayout, toHashed]

lemma contains_of_make? (h : s.WellFormed) {t : Transform} (ht : t.make? s = some s')
    (cp : Nat) : s'.contains cp = s.contains cp := by
  obtain ⟨h', hspans, hcategories, -⟩ := make?_keeps h ht
  exact contains_congr h' h hspans hcategories cp

/-! ### Chains -/

/-- The last transform of a chain, made alone, has the result of the chain. -/
lemma run?_keeps (h : s.WellFormed) (ts : List Transform) (hrun : Transform.run? s ts = some s') :
    (s'.WellFormed ∧ s'.spans = s.spans ∧ s'.categories = s.categories ∧ s'.size = s.size) ∧
      ∀ t ∈ ts.getLast?, t.make? s = some s' := by
  induction ts using List.reverseRecOn generalizing s' with
  | nil =>
    cases hrun
    exact ⟨⟨h, rfl, rfl, rfl⟩, by simp⟩
  | append_singleton ts t ih =>
    rw [Transform.run?, List.foldlM_append] at hrun
    obtain ⟨s₁, hrun₁, ht⟩ := Option.bind_eq_some_iff.mp hrun
    rw [List.foldlM_cons] at ht
    obtain ⟨s₂, ht, hs₂⟩ := Option.bind_eq_some_iff.mp ht
    cases hs₂
    obtain ⟨⟨hwf₁, hspans, hcategories, hsize⟩, -⟩ := ih hrun₁
    obtain ⟨hwf, hspans', hcategories', hsize'⟩ := make?_keeps hwf₁ ht
    refine ⟨⟨hwf, hspans'.trans hspans, hcategories'.trans hcategories, hsize'.trans hsize⟩, ?_⟩
    intro t' ht'
    rw [List.getLast?_concat, Option.mem_some_iff] at ht'
    rw [← ht', ← make?_congr h hwf₁ hspans hcategories hsize]
    exact ht

end TextTypes.CodeSet
