import TextTypes.Conversion.Converter
import TextTypes.Proofs.Conversion.Segmentation

/-!
Converters substitute from left to right.

Both forms of a converter follow the rule: the map of single characters, and the trie with the
matches settled by its scan.
-/

namespace TextTypes.Converter

open TextTypes.Conversion

lemma Scan.at?_start (m : Match) (rest : List Match) :
    (⟨m :: rest⟩ : Scan).at? m.start = (some m, ⟨rest⟩) := by
  simp [Scan.at?]

lemma Scan.at?_of_lt {pending : List Match} {index : Nat} (h : ∀ m ∈ pending, index < m.start) :
    (⟨pending⟩ : Scan).at? index = (none, ⟨pending⟩) := by
  cases pending with
  | nil => rfl
  | cons m rest =>
    have hlt := h m List.mem_cons_self
    simp [Scan.at?, Nat.not_lt.mpr (Nat.le_of_lt hlt), Nat.ne_of_gt hlt]

variable {c : Converter} {rules : List Char → Option (List Char)}

/-- What the converter falls back to where no source stands. -/
def fallback (c : Converter) (ch : Char) : Option (List Char) := c.categoryRule? ch.toNat

lemma piecesFrom_cons (s : Scan) (index : Nat) (ch : Char) (rest : List Char) :
    c.piecesFrom s 0 index (ch :: rest) =
      match s.for? c index ch.toNat with
      | (some (replacement, n), s) =>
        .replaced index ((ch :: rest).take n) replacement ::
          c.piecesFrom s (n - 1) (index + 1) rest
      | (none, s) => .kept index ch :: c.piecesFrom s 0 (index + 1) rest := rfl

/-! ### The trie of all sources -/

lemma for?_of_match (m : Match) (rest : List Match) (cp : Nat) :
    (⟨m :: rest⟩ : Scan).for? c m.start cp = (some (m.rule.replacement, m.length), ⟨rest⟩) := by
  simp [Scan.for?, Scan.at?_start]

lemma for?_of_no_match {trie : Trie Rule} (hform : c.form = .sequence trie)
    {pending : List Match} {index : Nat} (h : ∀ m ∈ pending, index < m.start) (ch : Char) :
    (⟨pending⟩ : Scan).for? c index ch.toNat = ((c.fallback ch).map (·, 1), ⟨pending⟩) := by
  simp [Scan.for?, Scan.at?_of_lt h, hform, fallback]

lemma text_piecesFrom_sequence {trie : Trie Rule} (hform : c.form = .sequence trie)
    (hrules : ∀ s, s ≠ [] → (trie.find? s).map Rule.replacement = rules s)
    (skip index : Nat) (text : List Char) :
    (c.piecesFrom ⟨Search.settle trie skip index text⟩ skip index text).flatMap Piece.text =
      substitute rules c.fallback (text.drop skip) := by
  induction text generalizing skip index with
  | nil =>
    rw [List.drop_nil, substitute]
    cases skip <;> rfl
  | cons ch rest ih =>
    cases skip with
    | succ skip => exact ih skip (index + 1)
    | zero =>
      have hlongest : longest? rules (ch :: rest) =
          (longest? trie.find? (ch :: rest)).map fun p => (p.1, p.2.replacement) :=
        (longestUpTo?_congr (List.cons_ne_nil ch rest) hrules _).symm
      rw [List.drop_zero, substitute_cons, piecesFrom_cons, Search.settle_cons, hlongest]
      rcases hl : longest? trie.find? (ch :: rest) with _ | ⟨n, rule⟩
      · -- no source stands here
        have hbehind : ∀ m ∈ Search.settle trie 0 (index + 1) rest, index < m.start :=
          Search.start_le_of_mem_settle
        simp only [for?_of_no_match hform hbehind, Option.map_none]
        have := ih 0 (index + 1)
        rw [List.drop_zero] at this
        rcases c.fallback ch with _ | replacement
        · simp [Piece.text, this]
        · simp [Piece.text, this]
      · have hfor := for?_of_match (c := c) ⟨index, index + n, rule⟩
          (Search.settle trie (n - 1) (index + 1) rest) ch.toNat
        simp only [Match.length, Nat.add_sub_cancel_left] at hfor
        simp only [hfor, Option.map_some]
        rw [List.flatMap_cons, ih (n - 1) (index + 1)]
        rfl

/-! ### The map of single characters -/

lemma longest?_of_singles (hlong : ∀ s, 2 ≤ s.length → rules s = none) (ch : Char)
    (rest : List Char) : longest? rules (ch :: rest) = (rules [ch]).map (1, ·) := by
  have h : ∀ k ≤ rest.length, longestUpTo? rules (ch :: rest) (k + 1) =
      (rules [ch]).map (1, ·) := by
    intro k
    induction k with
    | zero =>
      intro _
      unfold longestUpTo?
      rw [List.take_succ_cons, List.take_zero]
      cases rules [ch] <;> rfl
    | succ k ih =>
      intro hk
      rw [← ih (Nat.le_of_succ_le hk), longestUpTo?, hlong _ (by simp; omega)]
  exact h rest.length (Nat.le_refl _)

lemma for?_direct {map : SequenceMap Char} (hform : c.form = .direct map) (index : Nat)
    (ch : Char) :
    (⟨[]⟩ : Scan).for? c index ch.toNat =
      ((map.get? (key ch.toNat) <|> c.fallback ch).map (·, 1), ⟨[]⟩) := by
  simp [Scan.for?, Scan.at?, hform, fallback]

lemma text_piecesFrom_direct {map : SequenceMap Char} (hform : c.form = .direct map)
    (hsingle : ∀ ch, map.get? (key ch.toNat) = rules [ch])
    (hlong : ∀ s, 2 ≤ s.length → rules s = none) (index : Nat) (text : List Char) :
    (c.piecesFrom ⟨[]⟩ 0 index text).flatMap Piece.text = substitute rules c.fallback text := by
  induction text generalizing index with
  | nil => rw [substitute]; rfl
  | cons ch rest ih =>
    rw [substitute_cons, longest?_of_singles hlong, piecesFrom_cons, for?_direct hform, hsingle]
    rcases rules [ch] with _ | replacement
    · rcases c.fallback ch with _ | replacement
      · simp [Piece.text, ih]
      · simp [Piece.text, ih]
    · simp [Piece.text, ih]

/-! ### Where replacements come from -/

/-- What some rule of the converter replaces a source with. -/
inductive IsReplacement (c : Converter) (r : List Char) : Prop
  | single (map : SequenceMap Char) (key : Int32) (hform : c.form = .direct map)
      (h : map.get? key = some r)
  | sequence (trie : Trie Rule) (source : List Char) (rule : Rule) (hform : c.form = .sequence trie)
      (h : trie.find? source = some rule) (hr : rule.replacement = r)
  | category (key : Int32) (h : c.categories.get? key = some r)

lemma isReplacement_of_categoryRule? {cp : Nat} {r : List Char} (h : c.categoryRule? cp = some r) :
    c.IsReplacement r := by
  unfold categoryRule? at h
  split at h
  · cases h
  · exact .category _ h

/-- Every settled match is one of a source in the trie. -/
lemma exists_find?_of_mem_settle {trie : Trie Rule} {skip pos : Nat} {text : List Char} {m : Match}
    (hm : m ∈ Search.settle trie skip pos text) : ∃ source, trie.find? source = some m.rule := by
  induction text generalizing skip pos with
  | nil => cases skip <;> cases hm
  | cons ch rest ih =>
    rcases skip with _ | skip
    · rw [Search.settle_zero_cons] at hm
      have hfound := Search.found_seek_start trie pos ch rest
      rcases hseek : Search.seek trie pos {} (ch :: rest) with _ | first
      · rw [hseek] at hm
        cases hm
      · rw [hseek] at hm hfound
        rcases List.mem_cons.mp hm with rfl | hm
        · obtain ⟨i, source, hfirst, -⟩ := hfound
          exact ⟨source, hfirst.occurs.find?⟩
        · exact ih hm
    · exact ih hm

/-- A scan has only matches of the converter's own rules ahead. -/
def Scan.Sound (c : Converter) (s : Scan) : Prop :=
  ∀ m ∈ s.pending, c.IsReplacement m.rule.replacement

lemma Scan.sound_scan (c : Converter) (text : List Char) : (c.scan text).Sound c := by
  intro m hm
  unfold scan at hm
  rcases hform : c.form with map | trie
  · simp [hform] at hm
  · simp only [hform] at hm
    obtain ⟨source, hfind⟩ := exists_find?_of_mem_settle hm
    exact .sequence trie source m.rule hform hfind rfl

lemma Scan.at?_subset (s : Scan) (index : Nat) :
    (∀ m ∈ (s.at? index).1, m ∈ s.pending) ∧ (s.at? index).2.pending ⊆ s.pending := by
  have hsub : s.pending.dropWhile (·.start < index) ⊆ s.pending :=
    (List.dropWhile_sublist _).subset
  unfold at?
  rcases hdrop : s.pending.dropWhile (·.start < index) with _ | ⟨m, rest⟩
  · simp [hdrop]
  · rw [hdrop, List.cons_subset] at hsub
    by_cases hstart : m.start = index
    · simp [hdrop, hstart, hsub]
    · simp [hdrop, hstart, hsub]

/-- A replacement that applies at a position is that of a match ahead, or it stands for a single
character. -/
lemma Scan.for?_cases (s : Scan) (index cp : Nat) :
    (s.for? c index cp).2.pending ⊆ s.pending ∧ ∀ r ∈ (s.for? c index cp).1,
      (∃ m ∈ s.pending, r = (m.rule.replacement, m.length)) ∨ c.IsReplacement r.1 ∧ r.2 = 1 := by
  obtain ⟨hmatch, hrest⟩ := s.at?_subset index
  unfold Scan.for?
  rcases hat : s.at? index with ⟨_ | m, s'⟩
  · rw [hat] at hrest
    refine ⟨hrest, fun r hr => .inr ?_⟩
    obtain ⟨replacement, hrule, rfl⟩ := Option.map_eq_some_iff.mp hr
    refine ⟨?_, rfl⟩
    rcases hform : c.form with map | trie
    · rcases hsingle : map.get? (key cp) with _ | single
      · exact isReplacement_of_categoryRule? (by simpa [hform, hsingle] using hrule)
      · obtain rfl : single = replacement := by simpa [hform, hsingle] using hrule
        exact .single map (key cp) hform hsingle
    · exact isReplacement_of_categoryRule? (by simpa [hform] using hrule)
  · rw [hat] at hmatch hrest
    refine ⟨hrest, ?_⟩
    rintro _ ⟨⟩
    exact .inl ⟨m, hmatch m rfl, rfl⟩

/-- A replacement that applies at a position is one of the converter, and so is what is ahead. -/
lemma Scan.Sound.for? {s : Scan} (hs : s.Sound c) (index cp : Nat) :
    (∀ r ∈ (s.for? c index cp).1, c.IsReplacement r.1) ∧ (s.for? c index cp).2.Sound c := by
  obtain ⟨hrest, hcases⟩ := s.for?_cases (c := c) index cp
  refine ⟨fun r hr => ?_, fun m hm => hs m (hrest hm)⟩
  rcases hcases r hr with ⟨m, hm, rfl⟩ | ⟨hreplacement, -⟩
  · exact hs m hm
  · exact hreplacement

lemma isReplacement_of_mem_piecesFrom {text source r : List Char} {s : Scan}
    {skip start index : Nat} (hs : s.Sound c)
    (h : .replaced index source r ∈ c.piecesFrom s skip start text) :
    c.IsReplacement r := by
  induction text generalizing s skip start with
  | nil => cases skip <;> cases h
  | cons ch rest ih =>
    rcases skip with _ | skip
    · rw [piecesFrom_cons] at h
      obtain ⟨hreplacement, hrest⟩ := hs.for? start ch.toNat
      rcases hfor : s.for? c start ch.toNat with ⟨_ | ⟨replacement, n⟩, s'⟩
      · rw [hfor] at h hrest
        rcases List.mem_cons.mp h with hhead | htail
        · cases hhead
        · exact ih hrest htail
      · rw [hfor] at h hreplacement hrest
        rcases List.mem_cons.mp h with hhead | htail
        · cases hhead
          exact hreplacement _ rfl
        · exact ih hrest htail
    · exact ih hs h

/-- **What stands in for a source in a converted text is a replacement of the converter.** -/
theorem isReplacement_of_mem_pieces {text source r : List Char} {index : Nat}
    (h : .replaced index source r ∈ c.pieces text) : c.IsReplacement r :=
  isReplacement_of_mem_piecesFrom (Scan.sound_scan c text) h

end TextTypes.Converter
