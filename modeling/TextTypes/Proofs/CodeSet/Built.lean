import TextTypes.Proofs.CodeSet.Calls

/-!
The sets there are.

A set comes from a builder, whose calls may have been given other sets, or from a set in another
layout. All of them are well formed, which settles what a build accepts and what a chain of
transforms does.
-/

namespace TextTypes.CodeSet

open TextTypes.Range

/-- A set from a builder, in any layout. -/
inductive Built : CodeSet → Prop
  | empty : Built .empty
  | build (calls : List Builder.Call) {s : CodeSet}
      (hsets : ∀ call ∈ calls, ∀ t ∈ call.item.set?, Built t)
      (h : (Builder.ofCalls calls).build = .ok s) : Built s
  | buildRanged (calls : List Builder.Call) {s : CodeSet}
      (hsets : ∀ call ∈ calls, ∀ t ∈ call.item.set?, Built t)
      (h : (Builder.ofCalls calls).buildRanged = .ok s) : Built s
  | transform {s s' : CodeSet} {t : Transform} (hs : Built s) (h : t.make? s = some s') : Built s'

lemma wellFormed_empty : WellFormed .empty :=
  (wellFormed_of_stores ⟨List.Pairwise.nil, fun _ h => absurd h Spans.covers_nil⟩ .ranged 0#64 0).2

namespace Builder

/-- Both builds of valid calls, given well-formed sets. -/
lemma build_spec {calls : List Call} (hvalid : firstInvalid? calls = none)
    (hsets : ∀ call ∈ calls, ∀ s ∈ call.item.set?, s.WellFormed) :
    ∃ r, (ofCalls calls).buildRanged = .ok r ∧ (ofCalls calls).build = .ok r.optimised ∧
      r.WellFormed ∧ ∀ cp ≤ CodePoint.last, (r.contains cp = true ↔ Accepted calls cp) := by
  obtain ⟨hwf, hcovers⟩ := run calls hvalid hsets
  have herror : (ofCalls calls).error = none := by rw [error_ofCalls, hvalid, Option.map_none]
  obtain ⟨r, hr, hrwf, hcontains⟩ := buildRanged_spec hwf herror
  refine ⟨r, hr, by rw [build, hr]; rfl, hrwf, fun cp hcp => ?_⟩
  rw [hcontains cp hcp, (hcovers cp).1, (hcovers cp).2, Accepted]

lemma build_of_invalid {calls : List Call} {lo hi : Nat}
    (h : firstInvalid? calls = some (lo, hi)) :
    (ofCalls calls).buildRanged = .error (.invalidRange lo hi) ∧
      (ofCalls calls).build = .error (.invalidRange lo hi) := by
  have herror : (ofCalls calls).error = some (.invalidRange lo hi) := by
    rw [error_ofCalls, h, Option.map_some]
  have hranged := buildRanged_error _ herror
  exact ⟨hranged, by rw [build, hranged]; rfl⟩

end Builder

/-- Nothing but a valid sequence of calls leads to a set. -/
lemma Builder.firstInvalid?_of_buildRanged {calls : List Builder.Call} {s : CodeSet}
    (h : (Builder.ofCalls calls).buildRanged = .ok s) : Builder.firstInvalid? calls = none := by
  rcases hvalid : Builder.firstInvalid? calls with _ | ⟨lo, hi⟩
  · rfl
  · rw [(Builder.build_of_invalid hvalid).1] at h
    cases h

theorem Built.wellFormed {s : CodeSet} (hs : Built s) : s.WellFormed := by
  induction hs with
  | empty => exact wellFormed_empty
  | @build calls s hsets h ih =>
    rcases hranged : (Builder.ofCalls calls).buildRanged with e | r
    · rw [Builder.build, hranged] at h
      cases h
    · obtain ⟨r', hr', hbuild, hwf, -⟩ :=
        Builder.build_spec (Builder.firstInvalid?_of_buildRanged hranged) ih
      rw [hbuild] at h
      cases h
      exact (make?_keeps (t := .optimised) hwf rfl).1
  | @buildRanged calls s hsets h ih =>
    obtain ⟨r, hr, -, hwf, -⟩ :=
      Builder.build_spec (Builder.firstInvalid?_of_buildRanged h) ih
    rw [hr] at h
    cases h
    exact hwf
  | transform _ h ih => exact (make?_keeps ih h).1

/-- The letters a, b and c. -/
def letters : CodeSet := ⟨.ranged ⟨#[⟨0x61, 0x63, by decide⟩], #[], #[]⟩, 0#64, 3⟩

lemma built_letters : Built letters :=
  .buildRanged [.including (.range 0x61 0x63)] (by simp [Builder.Call.item, Builder.Item.set?]) rfl

/-- **What a build does**: it reports the first invalid range; if there is none, the set accepts
what some call includes and no call excludes. -/
theorem Builder.build_ofCalls (calls : List Builder.Call)
    (hsets : ∀ call ∈ calls, ∀ s ∈ call.item.set?, Built s) :
    match Builder.firstInvalid? calls with
    | some (lo, hi) =>
      (Builder.ofCalls calls).buildRanged = .error (.invalidRange lo hi) ∧
        (Builder.ofCalls calls).build = .error (.invalidRange lo hi)
    | none =>
      ∃ r s, (Builder.ofCalls calls).buildRanged = .ok r ∧ (Builder.ofCalls calls).build = .ok s ∧
        ∀ cp ≤ CodePoint.last,
          (r.contains cp = true ↔ Builder.Accepted calls cp) ∧
            (s.contains cp = true ↔ Builder.Accepted calls cp) := by
  rcases hvalid : Builder.firstInvalid? calls with _ | ⟨lo, hi⟩
  · obtain ⟨r, hr, hs, hwf, hcontains⟩ :=
      Builder.build_spec hvalid fun call hcall s hset => (hsets call hcall s hset).wellFormed
    refine ⟨r, r.optimised, hr, hs, fun cp hcp => ⟨hcontains cp hcp, ?_⟩⟩
    rw [contains_of_make? (t := .optimised) hwf rfl]
    exact hcontains cp hcp
  · exact Builder.build_of_invalid hvalid

/-- An included category, an included set in buckets, and an exclusion that meets the set. -/
theorem Builder.build_ofCalls_letters :
    ∃ s, (ofCalls [.excluding (.codePoint 0x62), .including (.category .zl),
          .including (.set (letters.toHashed 4))]).build = .ok s ∧
      s.contains 0x61 = true ∧ s.contains 0x62 = false := by
  have hsets : ∀ call ∈ [Call.excluding (.codePoint 0x62), .including (.category .zl),
      .including (.set (letters.toHashed 4))], ∀ s ∈ call.item.set?, Built s := by
    have hset : Built (letters.toHashed 4) := .transform (t := .hashed 4) built_letters rfl
    simpa [Call.item, Item.set?] using hset
  obtain ⟨r, s, -, hs, haccepted⟩ := Builder.build_ofCalls _ hsets
  refine ⟨s, hs, ?_, ?_⟩
  · rw [(haccepted 0x61 (by decide)).2]
    refine ⟨⟨.including (.set (letters.toHashed 4)), by simp, ?_⟩, ?_⟩
    · show (letters.toHashed 4).contains 0x61 = true
      rfl
    · simp [Call.Excludes, Item.Has]
  · rw [← Bool.not_eq_true, (haccepted 0x62 (by decide)).2]
    exact fun h => h.2 ⟨_, List.mem_cons_self, rfl⟩

/-- **A chain of transforms** keeps what a set contains and reports. Its last transform alone
makes the same set of it, with the same arrays and so with the same literals. -/
theorem Transform.run?_eq {s s' : CodeSet} (hs : Built s) (ts : List Transform)
    (h : Transform.run? s ts = some s') :
    (∀ cp, s'.contains cp = s.contains cp) ∧ s'.spans = s.spans ∧ s'.size = s.size ∧
      s'.categories = s.categories ∧ ∀ t ∈ ts.getLast?, t.make? s = some s' := by
  obtain ⟨⟨hwf, hspans, hcategories, hsize⟩, hlast⟩ := run?_keeps hs.wellFormed ts h
  exact ⟨contains_congr hwf hs.wellFormed hspans hcategories, hspans, hsize, hcategories, hlast⟩

theorem Transform.run?_eq_letters :
    ∃ s, Transform.run? letters [.hashed 4, .optimal, .optimised, .hashed 2] = some s ∧
      Transform.make? letters (.hashed 2) = some s ∧ s.contains 0x62 = true := by
  have hsome :
      (Transform.run? letters [.hashed 4, .optimal, .optimised, .hashed 2]).isSome = true := by
    decide +kernel
  obtain ⟨s, hrun⟩ := Option.isSome_iff_exists.mp hsome
  obtain ⟨hcontains, -, -, -, hlast⟩ := Transform.run?_eq built_letters _ hrun
  exact ⟨s, hrun, hlast _ rfl, (hcontains 0x62).trans rfl⟩

end TextTypes.CodeSet
