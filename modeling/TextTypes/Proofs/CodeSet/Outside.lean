import TextTypes.Proofs.CodeSet.Built

/-!
Numbers beyond the code space.

No range reaches beyond the last code point, in whatever layout. But every number has a category,
and beyond the code space that is the unassigned one. So a set that holds this category as such
accepts all of these numbers, and any other set none of them.
-/

namespace TextTypes.CodeSet

open TextTypes.Range TextTypes.Unicode

variable {s s' : CodeSet} {cp : Nat}

lemma WellFormed.not_covers (h : s.WellFormed) (hcp : CodePoint.last < cp) :
    ¬Spans.Covers s.spans cp := fun hcover =>
  Nat.not_lt.mpr (h.storable.le_last cp hcover) hcp

lemma WellFormed.layout_contains (h : s.WellFormed) (hcp : CodePoint.last < cp) :
    s.layout.contains cp = false := by
  rw [← Bool.not_eq_true, Layout.contains_iff h.storable h.stores]
  exact h.not_covers hcp

/-- Beyond the code space only the mask accepts. -/
lemma WellFormed.contains_iff_has (h : s.WellFormed) (hcp : CodePoint.last < cp) :
    s.contains cp = true ↔ s.categories.has .cn = true := by
  rw [contains_iff h, or_iff_right (h.not_covers hcp), categoryOf_of_last_lt hcp]

namespace Builder

/-- The mask of a built set has the unassigned category if the numbers beyond the code space are
included and nothing of this category is excluded. -/
lemma has_cn_iff {calls : List Call} (hsets : ∀ call ∈ calls, ∀ s ∈ call.item.set?, s.WellFormed)
    (h : (ofCalls calls).buildRanged = .ok s) (hcp : CodePoint.last < cp) :
    s.categories.has .cn = true ↔
      (∃ call ∈ calls, call.Includes cp) ∧
        ∀ cp', categoryOf cp' = .cn → ¬∃ call ∈ calls, call.Excludes cp' := by
  have hvalid := firstInvalid?_of_buildRanged h
  obtain ⟨hwf, hrun⟩ := run calls hvalid hsets
  have hmask := has_kept_iff hwf cp
  have hincludes : (ofCalls calls).Includes cp ↔
      (ofCalls calls).includedCategories.has .cn = true := by
    rw [Includes, categoryOf_of_last_lt hcp]
    exact or_iff_right fun hcover => Nat.not_lt.mpr (hwf.included.le_last hcover) hcp
  rw [buildRanged_eq _ (by rw [error_ofCalls, hvalid, Option.map_none])] at h
  cases h
  rw [categoryOf_of_last_lt hcp, ← hincludes, (hrun cp).1] at hmask
  exact hmask.trans (and_congr_right fun _ => by simp only [(hrun _).2])

end Builder

/-- **Beyond the code space** the ranges of a set accept nothing, in whatever layout a chain of
transforms has left them. The set accepts a number there exactly if its mask has the unassigned
category, that is, if some call includes the number, by this category or a set that has it, and no
call excludes anything unassigned. -/
theorem contains_iff_of_last_lt {calls : List Builder.Call}
    (hsets : ∀ call ∈ calls, ∀ t ∈ call.item.set?, Built t)
    (h : (Builder.ofCalls calls).build = .ok s ∨ (Builder.ofCalls calls).buildRanged = .ok s)
    {ts : List Transform} (hrun : Transform.run? s ts = some s') (hcp : CodePoint.last < cp) :
    s'.layout.contains cp = false ∧
      (s'.contains cp = true ↔ s'.categories.has .cn = true) ∧
      (s'.contains cp = true ↔
        (∃ call ∈ calls, call.Includes cp) ∧
          ∀ cp', categoryOf cp' = .cn → ¬∃ call ∈ calls, call.Excludes cp') := by
  have hwfs : ∀ call ∈ calls, ∀ t ∈ call.item.set?, t.WellFormed := fun call hcall t ht =>
    (hsets call hcall t ht).wellFormed
  obtain ⟨r, hr, hcategories, hs⟩ : ∃ r, (Builder.ofCalls calls).buildRanged = .ok r ∧
      s.categories = r.categories ∧ s.WellFormed := by
    rcases h with h | h
    · have hbuilt : Built s := .build calls hsets h
      rcases hranged : (Builder.ofCalls calls).buildRanged with e | r
      · rw [Builder.build, hranged] at h
        cases h
      · have hr : Built r := .buildRanged calls hsets hranged
        rw [Builder.build, hranged] at h
        cases h
        exact ⟨r, rfl, (make?_keeps (t := .optimised) hr.wellFormed rfl).2.2.1, hbuilt.wellFormed⟩
    · exact ⟨s, h, rfl, (Built.buildRanged calls hsets h).wellFormed⟩
  obtain ⟨⟨hs', -, hkept, -⟩, -⟩ := run?_keeps hs ts hrun
  have hcontains := hs'.contains_iff_has hcp
  refine ⟨hs'.layout_contains hcp, hcontains, ?_⟩
  rw [hcontains, hkept, hcategories]
  exact Builder.has_cn_iff hwfs hr hcp

/-- The unassigned category without some code points. -/
def Builder.unassigned (cps : List Nat) : List Builder.Call :=
  .including (.category .cn) :: cps.map fun n => .excluding (.codePoint n)

lemma Builder.of_mem_unassigned {P : CodeSet → Prop} (cps : List Nat) :
    ∀ call ∈ unassigned cps, ∀ t ∈ call.item.set?, P t := by
  intro call hcall t ht
  rcases List.mem_cons.mp hcall with rfl | hcall
  · cases ht
  · obtain ⟨n, -, rfl⟩ := List.mem_map.mp hcall
    cases ht

lemma Builder.exists_includes_unassigned (cps : List Nat) (hcp : CodePoint.last < cp) :
    ∃ call ∈ unassigned cps, call.Includes cp :=
  ⟨_, List.mem_cons_self, categoryOf_of_last_lt hcp⟩

lemma Builder.not_excludes_unassigned (cp : Nat) : ¬∃ call ∈ unassigned [], call.Excludes cp := by
  rintro ⟨call, hcall, hexcludes⟩
  cases List.mem_singleton.mp hcall
  exact hexcludes

/-- Included, the unassigned category accepts U+110000 in every layout, and no longer when one
unassigned code point is excluded. -/
theorem contains_iff_of_last_lt_unassigned :
    (∃ s s', (Builder.ofCalls (Builder.unassigned [])).build = .ok s ∧
        Transform.run? s [.hashed 4, .ranged] = some s' ∧
        s'.layout.contains 0x110000 = false ∧ s'.contains 0x110000 = true) ∧
      ∃ s s', (Builder.ofCalls (Builder.unassigned [0x378])).buildRanged = .ok s ∧
        Transform.run? s [.hashed 4, .ranged] = some s' ∧ s'.contains 0x110000 = false := by
  have hout : CodePoint.last < 0x110000 := by decide
  have hrun : ∀ s, Transform.run? s [.hashed 4, .ranged] = some (s.toHashed 4).toRanged :=
    fun s => rfl
  constructor
  · have hvalid : Builder.firstInvalid? (Builder.unassigned []) = none := rfl
    obtain ⟨r, -, hbuild, -⟩ := Builder.build_spec hvalid (Builder.of_mem_unassigned [])
    obtain ⟨hlayout, -, haccepts⟩ := contains_iff_of_last_lt (Builder.of_mem_unassigned [])
      (.inl hbuild) (hrun _) hout
    exact ⟨_, _, hbuild, hrun _, hlayout, haccepts.mpr
      ⟨Builder.exists_includes_unassigned [] hout, fun cp _ => Builder.not_excludes_unassigned cp⟩⟩
  · have hvalid : Builder.firstInvalid? (Builder.unassigned [0x378]) = none := rfl
    obtain ⟨r, hr, -⟩ := Builder.build_spec hvalid (Builder.of_mem_unassigned [0x378])
    obtain ⟨-, -, haccepts⟩ := contains_iff_of_last_lt (Builder.of_mem_unassigned [0x378])
      (.inr hr) (hrun _) hout
    have hunassigned : categoryOf 0x378 = .cn := by decide +kernel
    refine ⟨_, _, hr, hrun _, ?_⟩
    rw [← Bool.not_eq_true, haccepts]
    exact fun h => h.2 0x378 hunassigned ⟨_, List.mem_cons_of_mem _ List.mem_cons_self, rfl⟩

/-- Not every set rejects all numbers beyond the code space. -/
theorem not_forall_contains_eq_false :
    ¬∀ calls : List Builder.Call, (∀ call ∈ calls, ∀ t ∈ call.item.set?, Built t) →
      ∀ s, (Builder.ofCalls calls).build = .ok s → ∀ ts s', Transform.run? s ts = some s' →
        ∀ cp, CodePoint.last < cp → cp < UInt32.size → s'.contains cp = false := by
  intro hall
  have hout : CodePoint.last < 0x110000 := by decide
  have hvalid : Builder.firstInvalid? (Builder.unassigned []) = none := rfl
  obtain ⟨r, hr, hbuild, hwf, -⟩ :=
    Builder.build_spec hvalid (Builder.of_mem_unassigned [])
  have hhas : r.categories.has .cn = true :=
    (Builder.has_cn_iff (Builder.of_mem_unassigned []) hr hout).mpr
      ⟨Builder.exists_includes_unassigned [] hout, fun cp _ => Builder.not_excludes_unassigned cp⟩
  have hfalse := hall _ (Builder.of_mem_unassigned []) _ hbuild [] _ rfl 0x110000 hout (by decide)
  rw [contains_of_make? (t := .optimised) hwf rfl, ← Bool.not_eq_true,
    hwf.contains_iff_has hout] at hfalse
  exact hfalse hhas

end TextTypes.CodeSet
