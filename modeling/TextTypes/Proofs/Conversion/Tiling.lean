import TextTypes.Proofs.Conversion.Substitution

/-!
The pieces of a text lie side by side.

Each piece begins where the one in front of it ends and stands for what is there, and together they
cover the whole text. So every place of a text is covered by one piece and no other.
-/

namespace TextTypes.Converter

open TextTypes.Conversion

namespace Piece

/-- Where a piece begins. -/
def index : Piece → Nat
  | kept i _ => i
  | replaced i _ _ => i

/-- What a piece stands for. -/
def source : Piece → List Char
  | kept _ c => [c]
  | replaced _ source _ => source

/-- A piece covers a place. -/
def Spans (p : Piece) (i : Nat) : Prop := p.index ≤ i ∧ i < p.index + p.source.length

end Piece

/-- Pieces that cover a text from a place on, side by side, none of them empty. -/
def Tiles : (start : Nat) → List Piece → (text : List Char) → Prop
  | _, [], text => text = []
  | start, p :: pieces, text =>
    p.index = start ∧ p.source ≠ [] ∧ p.source <+: text ∧
      Tiles (start + p.source.length) pieces (text.drop p.source.length)

namespace Tiles

variable {start : Nat} {pieces : List Piece} {text : List Char}

lemma eq_nil (h : Tiles start pieces []) : pieces = [] := by
  cases pieces with
  | nil => rfl
  | cons p pieces =>
    obtain ⟨-, hne, hsource, -⟩ := h
    exact absurd (List.prefix_nil.mp hsource) hne

lemma le_index (h : Tiles start pieces text) : ∀ p ∈ pieces, start ≤ p.index := by
  induction pieces generalizing start text with
  | nil => simp
  | cons p pieces ih =>
    obtain ⟨hindex, -, -, hrest⟩ := h
    refine List.forall_mem_cons.mpr ⟨Nat.le_of_eq hindex.symm, fun q hq => ?_⟩
    exact Nat.le_trans (Nat.le_add_right _ _) (ih hrest q hq)

/-- A piece ends before the next one begins. -/
lemma pairwise (h : Tiles start pieces text) :
    pieces.Pairwise fun p q => p.index + p.source.length ≤ q.index := by
  induction pieces generalizing start text with
  | nil => exact List.Pairwise.nil
  | cons p pieces ih =>
    obtain ⟨rfl, -, -, hrest⟩ := h
    exact List.pairwise_cons.mpr ⟨hrest.le_index, ih hrest⟩

lemma ne_nil (h : Tiles start pieces text) : ∀ p ∈ pieces, p.source ≠ [] := by
  induction pieces generalizing start text with
  | nil => simp
  | cons p pieces ih =>
    obtain ⟨-, hne, -, hrest⟩ := h
    exact List.forall_mem_cons.mpr ⟨hne, ih hrest⟩

/-- Pieces begin at ever later places. -/
lemma pairwise_index (h : Tiles start pieces text) :
    pieces.Pairwise fun p q => p.index < q.index := by
  refine h.pairwise.imp_of_mem fun {p q} hp _ hle => ?_
  have hlength := List.length_pos_iff.mpr (h.ne_nil p hp)
  omega

/-- No place is covered twice. -/
lemma eq_of_spans (h : Tiles start pieces text) {p q : Piece} (hp : p ∈ pieces) (hq : q ∈ pieces)
    {i : Nat} (hpi : p.Spans i) (hqi : q.Spans i) : p = q := by
  induction pieces generalizing start text with
  | nil => cases hp
  | cons first pieces ih =>
    obtain ⟨rfl, -, -, hrest⟩ := h
    -- what comes after the first piece begins behind it
    have hbehind : ∀ q ∈ pieces, q.Spans i → ¬first.Spans i := fun q hq hqi hfirst =>
      Nat.not_lt.mpr (Nat.le_trans (hrest.le_index q hq) hqi.1) hfirst.2
    rcases List.mem_cons.mp hp with rfl | hp' <;> rcases List.mem_cons.mp hq with rfl | hq'
    · rfl
    · exact absurd hpi (hbehind q hq' hqi)
    · exact absurd hqi (hbehind p hp' hpi)
    · exact ih hrest hp' hq'

/-- Every place of the text is covered. -/
lemma exists_spans (h : Tiles start pieces text) {k : Nat} (hk : k < text.length) :
    ∃ p ∈ pieces, p.Spans (start + k) := by
  induction pieces generalizing start text k with
  | nil =>
    rw [show text = [] from h] at hk
    cases hk
  | cons p pieces ih =>
    obtain ⟨hindex, -, hsource, hrest⟩ := h
    rcases Nat.lt_or_ge k p.source.length with hlt | hge
    · exact ⟨p, List.mem_cons_self, by rw [hindex]; omega, by rw [hindex]; omega⟩
    · obtain ⟨q, hq, hspans⟩ := ih hrest (k := k - p.source.length) (by
        rw [List.length_drop]
        omega)
      refine ⟨q, List.mem_cons_of_mem p hq, ?_⟩
      rwa [show start + k = start + p.source.length + (k - p.source.length) by omega]

/-- A character that is kept stands at its place. -/
lemma getElem?_of_kept (h : Tiles start pieces text) {i : Nat} {c : Char}
    (hc : .kept i c ∈ pieces) : ∃ k, i = start + k ∧ text[k]? = some c := by
  induction pieces generalizing start text with
  | nil => cases hc
  | cons p pieces ih =>
    obtain ⟨hindex, -, hsource, hrest⟩ := h
    rcases List.mem_cons.mp hc with rfl | hc
    · refine ⟨0, hindex, ?_⟩
      obtain ⟨rest, rfl⟩ := hsource
      rfl
    · obtain ⟨k, rfl, hk⟩ := ih hrest hc
      rw [List.getElem?_drop] at hk
      exact ⟨p.source.length + k, by omega, hk⟩

/-- Where everything is kept, the pieces are the characters with their places. -/
lemma eq_map_zipIdx (h : Tiles start pieces text) (hkept : ∀ p ∈ pieces, ∃ i c, p = .kept i c) :
    pieces = (text.zipIdx start).map fun e => .kept e.2 e.1 := by
  induction pieces generalizing start text with
  | nil =>
    rw [show text = [] from h]
    rfl
  | cons p pieces ih =>
    obtain ⟨⟨i, c, rfl⟩, hrest⟩ := List.forall_mem_cons.mp hkept
    obtain ⟨rfl, -, ⟨rest, rfl⟩, htiles⟩ := h
    exact congrArg _ (ih htiles hrest)

end Tiles

/-! ### The pieces of a text -/

variable {c : Converter}

/-- No match ahead is empty. -/
def Scan.Advances (s : Scan) : Prop := ∀ m ∈ s.pending, 0 < m.length

lemma Scan.advances_scan (c : Converter) (text : List Char) : (c.scan text).Advances := by
  intro m hm
  unfold scan at hm
  rcases hform : c.form with map | trie
  · simp [hform] at hm
  · simp only [hform] at hm
    exact Search.length_pos_of_mem_settle m hm

lemma Scan.Advances.for? {s : Scan} (hs : s.Advances) (index cp : Nat) :
    (∀ r ∈ (s.for? c index cp).1, 0 < r.2) ∧ (s.for? c index cp).2.Advances := by
  obtain ⟨hrest, hcases⟩ := s.for?_cases (c := c) index cp
  refine ⟨fun r hr => ?_, fun m hm => hs m (hrest hm)⟩
  rcases hcases r hr with ⟨m, hm, rfl⟩ | ⟨-, hone⟩
  · exact hs m hm
  · omega

lemma tiles_piecesFrom {s : Scan} (hs : s.Advances) (skip index : Nat) (text : List Char) :
    Tiles (index + skip) (c.piecesFrom s skip index text) (text.drop skip) := by
  induction text generalizing s skip index with
  | nil => cases skip <;> rfl
  | cons ch rest ih =>
    cases skip with
    | succ skip =>
      have hnext := ih hs skip (index + 1)
      rwa [show index + 1 + skip = index + (skip + 1) by omega] at hnext
    | zero =>
      obtain ⟨hpos, hnext⟩ := hs.for? (c := c) index ch.toNat
      rw [piecesFrom_cons]
      rcases hfor : s.for? c index ch.toNat with ⟨_ | ⟨replacement, n⟩, s'⟩
      · rw [hfor] at hnext
        exact ⟨rfl, List.cons_ne_nil ch [], ⟨rest, rfl⟩, ih hnext 0 (index + 1)⟩
      · rw [hfor] at hpos hnext
        obtain ⟨k, rfl⟩ : ∃ k, n = k + 1 := ⟨n - 1, by have := hpos _ rfl; omega⟩
        refine ⟨rfl, List.cons_ne_nil ch _, List.take_prefix _ _, ?_⟩
        have hih := ih hnext k (index + 1)
        -- a source that reaches past the end is the last one
        rcases Nat.lt_or_ge rest.length k with hlt | hle
        · rw [List.drop_eq_nil_of_le (Nat.le_of_lt hlt)] at hih
          rw [Nat.add_sub_cancel, hih.eq_nil]
          exact List.drop_eq_nil_of_le (by simp [Piece.source]; omega)
        · have hlength : ((ch :: rest).take (k + 1)).length = k + 1 :=
            List.length_take_of_le (by simpa using hle)
          simp only [Piece.source, hlength, Nat.add_sub_cancel, List.drop_zero, Nat.add_zero,
            List.drop_succ_cons]
          rwa [show index + 1 + k = index + (k + 1) by omega] at hih

/-- **The pieces of a text cover it**, each of them what stands in its place. -/
theorem tiles_pieces (c : Converter) (text : List Char) : Tiles 0 (c.pieces text) text :=
  tiles_piecesFrom (Scan.advances_scan c text) 0 0 text

/-- A converter that replaces nothing keeps every character. -/
lemma pieces_of_not_isReplacement (h : ∀ r, ¬c.IsReplacement r) (text : List Char) :
    c.pieces text = text.zipIdx.map fun e => .kept e.2 e.1 := by
  refine (tiles_pieces c text).eq_map_zipIdx fun p hp => ?_
  cases p with
  | kept i ch => exact ⟨i, ch, rfl⟩
  | replaced i source r => exact absurd (isReplacement_of_mem_pieces hp) (h r)

end TextTypes.Converter
