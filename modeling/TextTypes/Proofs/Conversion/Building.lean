import TextTypes.Conversion.Builder
import TextTypes.Proofs.Conversion.Substitution
import TextTypes.Proofs.IntMap.Sequences
import TextTypes.Proofs.Unicode.Categories

/-!
A built converter substitutes by the rules it was given.

The builder is followed call by call: it knows the latest rule of every source and of every
category. The build hands these rules to a map of single characters or to a trie, and both
substitute by them.
-/

namespace TextTypes.Converter.Builder

open TextTypes.Conversion TextTypes.Unicode

/-! ### The calls -/

/-- A call that registers a rule. -/
inductive Call
  | codePoint (source : Nat) (replacement : List Nat)
  | char (source : Char) (replacement : List Char)
  | sequence (source replacement : List Char)
  | category (c : Category) (replacement : List Char)

namespace Call

def apply (b : Builder) : Call → Builder
  | codePoint source replacement => b.convertCodePoint source replacement
  | char source replacement => b.convertChar source replacement
  | sequence source replacement => b.convertSequence source replacement
  | category c replacement => b.convertCategory c replacement

/-- The replacement that a call registers for a source. -/
def rule? (source : List Char) : Call → Option (List Char)
  | codePoint cp replacement =>
    if source = CodePoint.scalars [cp] then some (CodePoint.scalars replacement) else none
  | char c replacement => if source = [c] then some replacement else none
  | sequence s replacement => if source = s then some replacement else none
  | category .. => none

/-- The replacement that a call registers for the members of a category. -/
def categoryRule? (c : Category) : Call → Option (List Char)
  | category d replacement => if c = d then some replacement else none
  | _ => none

/-- The first number in a call that is no character. -/
def invalid? : Call → Option Nat
  | codePoint source replacement => firstInvalid? (source :: replacement)
  | _ => none

end Call

/-- The builder after a sequence of calls. -/
def ofCalls (calls : List Call) : Builder := calls.foldl Call.apply {}

/-- The latest replacement registered for a source. -/
def latest? (calls : List Call) (source : List Char) : Option (List Char) :=
  calls.reverse.findSome? (Call.rule? source)

/-- The latest replacement registered for a category. -/
def latestFor? (calls : List Call) (c : Category) : Option (List Char) :=
  calls.reverse.findSome? (Call.categoryRule? c)

lemma ofCalls_concat (calls : List Call) (call : Call) :
    ofCalls (calls ++ [call]) = call.apply (ofCalls calls) := by
  simp [ofCalls]

lemma latest?_concat (calls : List Call) (call : Call) (source : List Char) :
    latest? (calls ++ [call]) source = (call.rule? source).or (latest? calls source) := by
  simp [latest?, List.findSome?_cons]
  cases call.rule? source <;> rfl

lemma latestFor?_concat (calls : List Call) (call : Call) (c : Category) :
    latestFor? (calls ++ [call]) c = (call.categoryRule? c).or (latestFor? calls c) := by
  simp [latestFor?, List.findSome?_cons]
  cases call.categoryRule? c <;> rfl

/-! ### Keys -/

lemma toNat_key {n : Nat} (h : n < UInt32.size) : (key n).toUInt32.toNat = n :=
  IntMap.toNat_ofNat h

lemma key_inj {m n : Nat} (hm : m < UInt32.size) (hn : n < UInt32.size) :
    key m = key n ↔ m = n :=
  IntMap.ofNat_inj hm hn

lemma key_char_inj {c d : Char} : key c.toNat = key d.toNat ↔ c = d := IntMap.ofNat_char_inj

lemma key_ordinal_inj {c d : Category} : key c.ordinal = key d.ordinal ↔ c = d := by
  have hlt : ∀ c : Category, c.ordinal < UInt32.size := fun c =>
    Nat.lt_trans c.ordinal_lt (by decide)
  rw [key_inj (hlt c) (hlt d)]
  exact ⟨Category.ordinal_inj, fun h => by rw [h]⟩

/-! ### What the builder knows -/

/-- The rules a builder knows: those of single characters in its map, the longer ones in its
list, and those of the categories. The rule of the empty source is nowhere. -/
structure Tracks (b : Builder) (rules : List Char → Option (List Char))
    (categoryRules : Category → Option (List Char)) : Prop where
  singles : b.singles.WellFormed
  categories : b.categories.WellFormed
  single_rule : ∀ c : Char, b.singles.get? (key c.toNat) = rules [c]
  single_key : ∀ e ∈ b.singles.entries, ∃ c : Char, e.1 = key c.toNat
  sequence_mem : ∀ s image, (s, image) ∈ b.sequences ↔ 2 ≤ s.length ∧ rules s = some image
  category_rule : ∀ c : Category, b.categories.get? (key c.ordinal) = categoryRules c

variable {b : Builder} {rules rules' : List Char → Option (List Char)}
  {categoryRules : Category → Option (List Char)}

lemma tracks_empty : Tracks {} (fun _ => none) (fun _ => none) where
  singles := SequenceMap.Builder.wellFormed_empty
  categories := SequenceMap.Builder.wellFormed_empty
  single_rule c := SequenceMap.Builder.get?_empty _
  single_key e he := by cases he
  sequence_mem s image := by simp
  category_rule c := SequenceMap.Builder.get?_empty _

/-- Only the rules of non-empty sources are tracked. -/
lemma Tracks.congr (h : Tracks b rules categoryRules) (heq : ∀ s, s ≠ [] → rules' s = rules s) :
    Tracks b rules' categoryRules where
  singles := h.singles
  categories := h.categories
  single_rule c := by rw [h.single_rule, heq [c] (List.cons_ne_nil c [])]
  single_key := h.single_key
  sequence_mem s image := by
    rw [h.sequence_mem]
    refine and_congr_right fun hlen => ?_
    rw [heq s (by rintro rfl; cases hlen)]
  category_rule := h.category_rule

lemma Tracks.convertChar (h : Tracks b rules categoryRules) (c : Char) (image : List Char) :
    Tracks (b.convertChar c image) (fun s => (if s = [c] then some image else none).or (rules s))
      categoryRules where
  singles := h.singles.insert _ _
  categories := h.categories
  single_rule d := by
    show (b.singles.insert (key c.toNat) image).get? (key d.toNat) = _
    rw [SequenceMap.Builder.get?_insert h.singles, h.single_rule]
    by_cases hd : d = c
    · simp [hd]
    · simp [hd, key_char_inj]
  single_key := by
    rintro ⟨k, v⟩ he
    replace he : (b.singles.insert (key c.toNat) image).get? k = some v :=
      (SequenceMap.Builder.get?_eq_some_iff (h.singles.insert _ _)).mpr he
    rw [SequenceMap.Builder.get?_insert h.singles] at he
    by_cases hk : k = key c.toNat
    · exact ⟨c, hk⟩
    · rw [if_neg hk] at he
      exact h.single_key _ ((SequenceMap.Builder.get?_eq_some_iff h.singles).mp he)
  sequence_mem s v := by
    show (s, v) ∈ b.sequences ↔ _
    rw [h.sequence_mem]
    refine and_congr_right fun hlen => ?_
    rw [if_neg (by rintro rfl; simp at hlen), Option.none_or]
  category_rule := h.category_rule

lemma Tracks.convertSequence (h : Tracks b rules categoryRules) (source image : List Char) :
    Tracks (b.convertSequence source image)
      (fun s => (if s = source then some image else none).or (rules s)) categoryRules := by
  match source with
  | [] =>
    refine h.congr fun s hs => ?_
    rw [if_neg hs, Option.none_or]
  | [c] => exact h.convertChar c image
  | c :: d :: rest =>
    refine ⟨h.singles, h.categories, fun e => ?_, h.single_key, fun s v => ?_, h.category_rule⟩
    · rw [if_neg (by simp), Option.none_or]
      exact h.single_rule e
    · show (s, v) ∈ b.sequences.filter (·.1 ≠ c :: d :: rest) ++ [(c :: d :: rest, image)] ↔ _
      rw [List.mem_append, List.mem_filter, h.sequence_mem, List.mem_singleton]
      by_cases hs : s = c :: d :: rest
      · simp [hs, eq_comm]
      · simp [hs]

lemma Tracks.convertCategory (h : Tracks b rules categoryRules) (c : Category)
    (image : List Char) :
    Tracks (b.convertCategory c image) rules
      (fun d => (if d = c then some image else none).or (categoryRules d)) where
  singles := h.singles
  categories := h.categories.insert _ _
  single_rule := h.single_rule
  single_key := h.single_key
  sequence_mem := h.sequence_mem
  category_rule d := by
    show (b.categories.insert (key c.ordinal) image).get? (key d.ordinal) = _
    rw [SequenceMap.Builder.get?_insert h.categories, h.category_rule]
    by_cases hd : d = c
    · simp [hd]
    · simp [hd, key_ordinal_inj]

/-! ### A whole sequence of calls -/

lemma error_fail (b : Builder) (cp : Nat) : (b.fail cp).error ≠ none := by
  show (b.error <|> some _) ≠ none
  cases b.error <;> simp

lemma error_convertSequence (b : Builder) (source image : List Char) :
    (b.convertSequence source image).error = b.error := by
  rcases source with _ | ⟨c, _ | ⟨d, rest⟩⟩ <;> rfl

/-- What a call does with the error. -/
lemma error_apply (b : Builder) (call : Call) :
    (call.apply b).error = b.error.or (call.invalid?.map fun cp => .invalidRange cp cp) := by
  cases call with
  | codePoint source replacement =>
    rw [Call.apply, convertCodePoint, Call.invalid?]
    rcases firstInvalid? (source :: replacement) with _ | bad
    · exact Option.or_none.symm
    · show (b.error <|> some _) = _
      cases b.error <;> rfl
  | char source replacement => exact Option.or_none.symm
  | sequence source replacement =>
    exact (error_convertSequence b source replacement).trans Option.or_none.symm
  | category c replacement => exact Option.or_none.symm

/-- An error stays. -/
lemma error_of_apply {call : Call} (h : (call.apply b).error = none) : b.error = none := by
  rw [error_apply, Option.or_eq_none_iff] at h
  exact h.1

/-- The error is the one of the first number that is no character. -/
lemma error_ofCalls (calls : List Call) :
    (ofCalls calls).error =
      (calls.findSome? Call.invalid?).map fun cp => .invalidRange cp cp := by
  induction calls using List.reverseRecOn with
  | nil => rfl
  | append_singleton calls call ih =>
    rw [ofCalls_concat, error_apply, ih, List.findSome?_append, List.findSome?_singleton]
    cases calls.findSome? Call.invalid? <;> rfl

lemma isValidChar_of_firstInvalid? {source : Nat} {replacement : List Nat}
    (h : firstInvalid? (source :: replacement) = none) : source.isValidChar := by
  by_contra hinvalid
  have := List.find?_eq_none.mp h source List.mem_cons_self
  rw [CodePoint.scalar?, if_neg hinvalid] at this
  exact this rfl

/-- What one call adds. -/
lemma Tracks.apply (h : Tracks b rules categoryRules) (call : Call)
    (herror : (call.apply b).error = none) :
    Tracks (call.apply b) (fun s => (call.rule? s).or (rules s))
      (fun c => (call.categoryRule? c).or (categoryRules c)) := by
  cases call with
  | codePoint source replacement =>
    rw [Call.apply, convertCodePoint] at herror ⊢
    rcases hbad : firstInvalid? (source :: replacement) with _ | bad
    · have hvalid := isValidChar_of_firstInvalid? hbad
      have hsource : CodePoint.scalars [source] = [Char.ofNat source] := by
        simp [CodePoint.scalars, CodePoint.scalar?, hvalid]
      simp only [Call.rule?, hsource]
      exact h.convertChar _ _
    · rw [hbad] at herror
      exact absurd herror (error_fail b bad)
  | char source replacement => exact h.convertChar source replacement
  | sequence source replacement => exact h.convertSequence source replacement
  | category c replacement => exact h.convertCategory c replacement

/-- **The builder knows the latest rules.** -/
theorem tracks_ofCalls (calls : List Call) (h : (ofCalls calls).error = none) :
    Tracks (ofCalls calls) (latest? calls) (latestFor? calls) := by
  induction calls using List.reverseRecOn with
  | nil => exact tracks_empty
  | append_singleton calls call ih =>
    rw [ofCalls_concat] at h ⊢
    rw [funext (latest?_concat calls call), funext (latestFor?_concat calls call)]
    exact (ih (error_of_apply h)).apply call h

/-! ### Both forms substitute -/

/-- The sources are the non-empty ones with a rule. -/
lemma Tracks.mem_sources_iff (h : Tracks b rules categoryRules) {s image : List Char} :
    (s, image) ∈ b.sources ↔ s ≠ [] ∧ rules s = some image := by
  rw [sources, List.mem_append, List.mem_map, h.sequence_mem]
  constructor
  · rintro (⟨⟨k, v⟩, he, heq⟩ | ⟨hlen, hrule⟩)
    · obtain ⟨c, hk⟩ := h.single_key _ he
      rw [← SequenceMap.Builder.get?_eq_some_iff h.singles] at he
      simp only at hk heq
      rw [hk, h.single_rule] at he
      rw [hk, toNat_key (IntMap.toNat_lt_size c), CodePoint.scalars_toNat] at heq
      obtain ⟨rfl, rfl⟩ := Prod.mk.inj heq
      exact ⟨List.cons_ne_nil c [], he⟩
    · exact ⟨List.ne_nil_of_length_pos (by omega), hrule⟩
  · rintro ⟨hne, hrule⟩
    rcases s with _ | ⟨c, _ | ⟨d, rest⟩⟩
    · exact absurd rfl hne
    · rw [← h.single_rule, SequenceMap.Builder.get?_eq_some_iff h.singles] at hrule
      refine .inl ⟨_, hrule, ?_⟩
      simp only [toNat_key (IntMap.toNat_lt_size c), CodePoint.scalars_toNat]
    · exact .inr ⟨by simp, hrule⟩

lemma find?_foldl_insert (l : List (List Char × List Char))
    (hl : ∀ e ∈ l, rules e.1 = some e.2) (n : Nat) (t : Trie Rule) (s : List Char) :
    (((l.zipIdx n).foldl (fun t ((source, image), rank) => t.insert source ⟨rank, image⟩) t).find?
        s).map Rule.replacement =
      if s ∈ l.map Prod.fst then rules s else (t.find? s).map Rule.replacement := by
  induction l generalizing n t with
  | nil => rfl
  | cons e l ih =>
    rw [List.zipIdx_cons, List.foldl_cons, ih (fun e he => hl e (List.mem_cons_of_mem _ he)),
      Trie.find?_insert, List.map_cons]
    by_cases hmem : s ∈ l.map Prod.fst
    · rw [if_pos hmem, if_pos (List.mem_cons_of_mem _ hmem)]
    · rw [if_neg hmem]
      by_cases hs : s = e.1
      · rw [if_pos hs, if_pos (by rw [hs]; exact List.mem_cons_self), hs,
          hl e List.mem_cons_self]
        rfl
      · rw [if_neg hs, if_neg (by simp only [List.mem_cons]; tauto)]

/-- The trie finds the rule of every non-empty source. -/
lemma Tracks.find?_trie (h : Tracks b rules categoryRules) {s : List Char} (hs : s ≠ []) :
    (b.trie.find? s).map Rule.replacement = rules s := by
  have hsources : ∀ e ∈ b.sources, rules e.1 = some e.2 := fun e he => (h.mem_sources_iff.mp he).2
  rw [trie, find?_foldl_insert b.sources hsources, Trie.find?_empty]
  by_cases hmem : s ∈ b.sources.map Prod.fst
  · rw [if_pos hmem]
  · rw [if_neg hmem]
    rcases hr : rules s with _ | image
    · rfl
    · exact absurd (List.mem_map.mpr ⟨_, h.mem_sources_iff.mpr ⟨hs, hr⟩, rfl⟩) hmem

lemma Tracks.fallback_eq (h : Tracks b rules categoryRules) (form : Form) :
    (⟨form, b.categories.freeze⟩ : Converter).fallback =
      fun ch => categoryRules (categoryOf ch.toNat) := by
  funext ch
  rw [← h.category_rule]
  unfold fallback categoryRule?
  by_cases hempty : b.categories.freeze.isEmpty = true
  · rw [if_pos hempty, SequenceMap.Builder.get?_of_isEmpty_freeze h.categories hempty]
  · rw [if_neg hempty, SequenceMap.Builder.get?_freeze h.categories]

lemma Tracks.convert_eq (h : Tracks b rules categoryRules) (text : List Char) :
    (⟨b.form, b.categories.freeze⟩ : Converter).convert text =
      substitute rules (fun ch => categoryRules (categoryOf ch.toNat)) text := by
  rw [← h.fallback_eq b.form]
  by_cases hempty : b.sequences.isEmpty = true
  · have hform : b.form = .direct b.singles.freeze := if_pos hempty
    rw [hform]
    refine text_piecesFrom_direct rfl (fun ch => ?_) (fun s hlen => ?_) 0 text
    · rw [SequenceMap.Builder.get?_freeze h.singles, h.single_rule]
    · rcases hr : rules s with _ | image
      · rfl
      · have hmem := (h.sequence_mem s image).mpr ⟨hlen, hr⟩
        rw [List.isEmpty_iff.mp hempty] at hmem
        cases hmem
  · have hform : b.form = .sequence b.trie := if_neg hempty
    rw [hform]
    exact text_piecesFrom_sequence rfl (fun s hs => h.find?_trie hs) 0 0 text

/-- **A built converter substitutes by the latest rules**, as a map of single characters and as a
trie. -/
theorem convert_ofCalls (calls : List Call) (c : Converter) (h : (ofCalls calls).build = .ok c)
    (text : List Char) :
    c.convert text =
      substitute (latest? calls) (fun ch => latestFor? calls (categoryOf ch.toNat)) text := by
  unfold build at h
  rcases herror : (ofCalls calls).error with _ | e
  · rw [herror] at h
    cases h
    exact (tracks_ofCalls calls herror).convert_eq text
  · rw [herror] at h
    cases h

/-- A long source that breaks off, shorter ones inside it, and the rule of a category. -/
theorem convert_ofCalls_overlap :
    ∃ c, (ofCalls [.sequence ['a', 'b', 'c', 'd'] ['w'], .codePoint 0x61 [0x7A],
          .char 'b' ['x'], .sequence ['b', 'c'] ['y'], .category .nd ['#']]).build = .ok c ∧
      c.convert ['a', 'b', 'c', 'b', '7'] = ['z', 'y', 'x', '#'] := by
  have hbuild : (ofCalls [.sequence ['a', 'b', 'c', 'd'] ['w'], .codePoint 0x61 [0x7A],
      .char 'b' ['x'], .sequence ['b', 'c'] ['y'], .category .nd ['#']]).build = .ok ⟨_, _⟩ := rfl
  refine ⟨_, hbuild, (convert_ofCalls _ _ hbuild _).trans ?_⟩
  decide +kernel

end TextTypes.Converter.Builder
