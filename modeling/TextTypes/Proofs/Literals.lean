import TextTypes.Proofs.CodeSet.Sizes
import TextTypes.Proofs.CodeSet.Words
import TextTypes.Proofs.IntMap.Histories
import TextTypes.Proofs.Text.Literals

/-!
The literals of a map or a set determine its arrays.

The numbers and the headings of the literals are read back from their text. Where the buckets
begin tells their lengths, a word tells the range packed into it, and no block has the key of a
free slot. So two structures with the same literals are the same.
-/

namespace TextTypes

open TextTypes.Buckets TextTypes.Range TextTypes.Text TextTypes.Text.Literal TextTypes.Unicode

/-- Two features of every item tell which items there are. -/
lemma eq_of_map_eq {α β γ : Type} {f : α → β} {g : α → γ} {l l' : List α}
    (hf : l.map f = l'.map f) (hg : l.map g = l'.map g)
    (hinj : ∀ a ∈ l, ∀ b ∈ l', f a = f b → g a = g b → a = b) : l = l' := by
  induction l generalizing l' with
  | nil => exact (List.map_eq_nil_iff.mp hf.symm).symm
  | cons a l ih =>
    cases l' with
    | nil => cases hf
    | cons b l' =>
      obtain ⟨hfa, hfl⟩ := List.cons.inj hf
      obtain ⟨hga, hgl⟩ := List.cons.inj hg
      have htails : ∀ c ∈ l, ∀ d ∈ l', f c = f d → g c = g d → c = d := fun c hc d hd =>
        hinj c (List.mem_cons_of_mem a hc) d (List.mem_cons_of_mem b hd)
      rw [hinj a List.mem_cons_self b List.mem_cons_self hfa hga, ih hfl hgl htails]

/-! ### Maps -/

namespace IntMap

def arraySections (stored : List (Int32 × Int32)) : List Section :=
  [.array "_KEYS" i32 (stored.map (bits ·.1)), .array "_VALUES" i32 (stored.map (bits ·.2))]

/-- The literals of a map one by one. -/
def sections (m : IntMap Int32) : List Section :=
  match m.layout with
  | .slots slots => arraySections slots.toList
  | .bucketed buckets =>
    .array "_BUCKET_STARTS" u32 (starts (buckets.toList.map List.length)) ::
      arraySections buckets.toList.flatten

lemma textAll_sections (m : IntMap Int32) (label : String) :
    textAll label m.sections = m.literals label := by
  unfold sections literals
  cases m.layout <;> simp [textAll, arraySections, Section.text]

lemma plain_sections (m : IntMap Int32) : ∀ s ∈ m.sections, s.Plain := by
  have harrays : ∀ stored, ∀ s ∈ arraySections stored, s.Plain := fun stored => by
    rw [arraySections, List.forall_mem_cons, List.forall_mem_singleton]
    exact ⟨.array (by decide) (by decide), .array (by decide) (by decide)⟩
  unfold sections
  cases m.layout with
  | slots slots => exact harrays _
  | bucketed buckets =>
    exact List.forall_mem_cons.mpr ⟨.array (by decide) (by decide), harrays _⟩

lemma bits_inj {a b : Int32} (h : bits a = bits b) : a = b :=
  congrArg Int32.ofUInt32 (UInt32.toNat_inj.mp h)

lemma stored_inj {stored stored' : List (Int32 × Int32)}
    (hkeys : stored.map (bits ·.1) = stored'.map (bits ·.1))
    (hvalues : stored.map (bits ·.2) = stored'.map (bits ·.2)) : stored = stored' :=
  eq_of_map_eq hkeys hvalues fun _ _ _ _ hkey hvalue =>
    Prod.ext (bits_inj hkey) (bits_inj hvalue)

lemma layout_eq_of_literals {m m' : IntMap Int32} {label : String}
    (h : m.literals label = m'.literals label) : m.layout = m'.layout := by
  rw [← textAll_sections, ← textAll_sections] at h
  have hnumbers := numbersAt_eq_of_textAll m.plain_sections m'.plain_sections h
  have hkeys := hnumbers "_KEYS"
  have hvalues := hnumbers "_VALUES"
  have hstarts := hnumbers "_BUCKET_STARTS"
  have hne : ∀ sizes, starts sizes ≠ [] := starts_go_ne_nil 0
  unfold sections at hkeys hvalues hstarts
  cases hl : m.layout <;> cases hl' : m'.layout <;>
    simp only [hl, hl', arraySections, numbersAt_cons, numbersAt_nil, Section.heading,
      Section.values, String.reduceEq, if_true, if_false, List.nil_append, List.append_nil]
      at hkeys hvalues hstarts
  · rw [Array.toList_inj.mp (stored_inj hkeys hvalues)]
  · exact absurd hstarts.symm (hne _)
  · exact absurd hstarts (hne _)
  · rw [Array.toList_inj.mp (eq_of_starts hstarts (stored_inj hkeys hvalues))]

end IntMap

/-! ### Sets -/

namespace CodeSet

/-- The literal of numbers, left out if there are none. -/
def optional (s : Section) : List Section := if s.values = [] then [] else [s]

def Tiers.sections (tiers : Tiers) : List Section :=
  optional (.array "_SINGLE_BYTE_RANGES" u16 (Layout.packed .single tiers.single.toList)) ++
    optional (.array "_DOUBLE_BYTE_RANGES" u32 (Layout.packed .double tiers.double.toList)) ++
    optional (.array "_TRIPLE_BYTE_RANGES" u64 (Layout.packed .triple tiers.triple.toList))

/-- The literals of a layout one by one. -/
def Layout.sections (l : Layout) : List Section :=
  match l with
  | .ranged tiers => tiers.sections
  | .hashed buckets =>
    [.array "_BUCKET_STARTS" u32 (starts (buckets.toList.map List.length)),
      .array "_BLOCK_KEYS" u16 (buckets.toList.flatten.map Block.key),
      .array "_KEY_RANGE_STARTS" u32 (starts (buckets.toList.flatten.map (·.pieces.size))),
      .array "_OFFSET_RANGES" u16 (packed .single l.offsets)]
  | .optimal slots =>
    [.array "_BLOCK_KEYS" u16 (slots.toList.map fun slot => (slot.map Block.key).getD freeKey),
      .array "_RANGE_STARTS" u32
        (starts (slots.toList.map fun slot => (slot.map (·.pieces.size)).getD 0)),
      .array "_OFFSET_RANGES" u16 (packed .single l.offsets)]

def maskSections (mask : CategoryMask) : List Section :=
  if mask = 0#64 then [] else [.mask "_CATEGORIES" mask.toNat]

/-- The literals of a set one by one. -/
def sections (s : CodeSet) : List Section :=
  s.layout.sections ++ maskSections s.categories

lemma textAll_append (label : String) (ss ts : List Section) :
    textAll label (ss ++ ts) = textAll label ss ++ textAll label ts := by
  simp [textAll]

lemma textAll_tier (label heading : String) (e : Element) (t : Tier) (spans : List Span) :
    textAll label (optional (.array heading e (Layout.packed t spans))) =
      Layout.tierLiteral label heading e t spans := by
  cases spans with
  | nil => rfl
  | cons s spans =>
    simp [textAll, optional, Section.values, Layout.packed, Layout.tierLiteral, Section.text]

lemma textAll_layout (l : Layout) (label : String) :
    textAll label l.sections = l.literals label := by
  unfold Layout.sections Layout.literals
  cases l with
  | ranged tiers => simp only [Tiers.sections, textAll_append, textAll_tier]
  | hashed buckets => simp [textAll, Section.text, Layout.offsets, String.append_assoc]
  | optimal slots => simp [textAll, Section.text, Layout.offsets, String.append_assoc]

lemma textAll_mask (mask : CategoryMask) (label : String) :
    textAll label (maskSections mask) =
      if mask = 0#64 then "" else
        label ++ "_CATEGORIES: u64 = 0x" ++ hex 16 mask.toNat ++ ";\n" := by
  unfold maskSections
  split
  · rfl
  · exact String.toList_inj.mp (by simp [textAll, Section.text])

lemma textAll_sections (s : CodeSet) (label : String) :
    textAll label s.sections = s.literals label := by
  rw [sections, textAll_append, textAll_layout, textAll_mask, literals]

lemma plain_optional {s : Section} (h : s.Plain) : ∀ t ∈ optional s, t.Plain := by
  unfold optional
  split
  · exact List.forall_mem_nil _
  · exact List.forall_mem_singleton.mpr h

lemma plain_sections (s : CodeSet) : ∀ t ∈ s.sections, t.Plain := by
  have hmask : ∀ t ∈ maskSections s.categories, t.Plain := by
    unfold maskSections
    split
    · exact List.forall_mem_nil _
    · exact List.forall_mem_singleton.mpr (.mask (by decide))
  refine List.forall_mem_append.mpr ⟨?_, hmask⟩
  unfold Layout.sections
  cases s.layout with
  | ranged tiers =>
    simp only [Tiers.sections, List.forall_mem_append]
    exact ⟨⟨plain_optional (.array (by decide) (by decide)),
      plain_optional (.array (by decide) (by decide))⟩,
      plain_optional (.array (by decide) (by decide))⟩
  | hashed buckets =>
    simp only [List.forall_mem_cons]
    exact ⟨.array (by decide) (by decide), .array (by decide) (by decide),
      .array (by decide) (by decide), .array (by decide) (by decide), List.forall_mem_nil _⟩
  | optimal slots =>
    simp only [List.forall_mem_cons]
    exact ⟨.array (by decide) (by decide), .array (by decide) (by decide),
      .array (by decide) (by decide), List.forall_mem_nil _⟩

lemma numbersAt_optional (heading : String) (s : Section) :
    numbersAt heading (optional s) = if s.heading = heading then s.values else [] := by
  unfold optional
  split
  next h => rw [numbersAt_nil, h, ite_self]
  · rw [numbersAt_cons, numbersAt_nil, List.append_nil]

lemma numbersAt_mask (heading : String) (mask : CategoryMask) :
    numbersAt heading (maskSections mask) =
      if heading = "_CATEGORIES" ∧ mask ≠ 0#64 then [mask.toNat] else [] := by
  unfold maskSections
  by_cases hzero : mask = 0#64 <;>
    simp [hzero, Section.heading, Section.values, eq_comm (b := heading)]

/-! ### Words, blocks and slots -/

lemma packed_inj {t : Tier} {spans spans' : List Span} (h : ∀ s ∈ spans, t.Holds s)
    (h' : ∀ s ∈ spans', t.Holds s) (heq : Layout.packed t spans = Layout.packed t spans') :
    spans = spans' := by
  refine eq_of_map_eq heq heq fun s hs u hu hword _ => ?_
  have hbounds := congrArg (unpack t) (BitVec.eq_of_toNat_eq hword)
  rw [unpack_pack (h s hs).2, unpack_pack (h' u hu).2] at hbounds
  exact Span.ext_bounds (congrArg Prod.fst hbounds) (congrArg Prod.snd hbounds)

lemma tiers_ext {t u : Tiers} (hsingle : t.single = u.single) (hdouble : t.double = u.double)
    (htriple : t.triple = u.triple) : t = u := by
  obtain ⟨single, double, triple⟩ := t
  obtain rfl : single = u.single := hsingle
  obtain rfl : double = u.double := hdouble
  obtain rfl : triple = u.triple := htriple
  rfl

lemma block_ext {b c : Block} (hkey : b.key = c.key)
    (hpieces : b.pieces.toList = c.pieces.toList) : b = c := by
  obtain ⟨key, pieces⟩ := b
  obtain ⟨key', pieces'⟩ := c
  obtain rfl : key = key' := hkey
  obtain rfl : pieces = pieces' := Array.toList_inj.mp hpieces
  rfl

/-- Blocks are known from their keys, where the pieces of each begin, and the pieces. -/
lemma blocks_inj {blocks blocks' : List Block}
    (hkeys : blocks.map Block.key = blocks'.map Block.key)
    (hstarts : starts (blocks.map (·.pieces.size)) = starts (blocks'.map (·.pieces.size)))
    (hpieces : blocks.flatMap (·.pieces.toList) = blocks'.flatMap (·.pieces.toList)) :
    blocks = blocks' := by
  have hsizes : ∀ blocks : List Block, (blocks.map (·.pieces.toList)).map List.length =
      blocks.map (·.pieces.size) := fun blocks => by
    simp
  rw [← hsizes, ← hsizes] at hstarts
  rw [List.flatMap_def, List.flatMap_def] at hpieces
  exact eq_of_map_eq hkeys (eq_of_starts hstarts hpieces) fun _ _ _ _ => block_ext

def piecesOf (slot : Option Block) : List Span := (slot.map (·.pieces.toList)).getD []

lemma length_piecesOf (slot : Option Block) :
    (piecesOf slot).length = (slot.map (·.pieces.size)).getD 0 := by
  cases slot <;> simp [piecesOf]

lemma flatten_piecesOf (slots : List (Option Block)) :
    (slots.map piecesOf).flatten = (slots.filterMap id).flatMap (·.pieces.toList) := by
  induction slots with
  | nil => rfl
  | cons slot slots ih =>
    rw [List.map_cons, List.flatten_cons, ih]
    cases slot <;> rfl

/-- Slots are known in the same way when no block has the key of a free slot. -/
lemma slots_inj {slots slots' : List (Option Block)}
    (hfree : ∀ b, some b ∈ slots → b.key ≠ Layout.freeKey)
    (hfree' : ∀ b, some b ∈ slots' → b.key ≠ Layout.freeKey)
    (hkeys : slots.map (fun slot => (slot.map Block.key).getD Layout.freeKey) =
      slots'.map fun slot => (slot.map Block.key).getD Layout.freeKey)
    (hstarts : starts (slots.map fun slot => (slot.map (·.pieces.size)).getD 0) =
      starts (slots'.map fun slot => (slot.map (·.pieces.size)).getD 0))
    (hpieces : (slots.filterMap id).flatMap (·.pieces.toList) =
      (slots'.filterMap id).flatMap (·.pieces.toList)) : slots = slots' := by
  have hsizes : ∀ slots : List (Option Block), (slots.map piecesOf).map List.length =
      slots.map fun slot => (slot.map (·.pieces.size)).getD 0 := fun slots => by
    rw [List.map_map]
    exact List.map_congr_left fun slot _ => length_piecesOf slot
  rw [← hsizes, ← hsizes] at hstarts
  rw [← flatten_piecesOf, ← flatten_piecesOf] at hpieces
  have hlists := eq_of_starts hstarts hpieces
  refine eq_of_map_eq hkeys hlists fun slot hslot slot' hslot' hkey heq => ?_
  cases slot with
  | none =>
    cases slot' with
    | none => rfl
    | some c => exact absurd hkey.symm (hfree' c hslot')
  | some b =>
    cases slot' with
    | none => exact absurd hkey (hfree b hslot)
    | some c => exact congrArg some (block_ext hkey heq)

/-! ### Sets that can be reached -/

/-- What the words of a layout hold: ranges of their tier, and offsets. -/
lemma holds_tier {tiers : Tiers} {s : CodeSet} (hs : s.WellFormed) (hl : s.layout = .ranged tiers) :
    (∀ p ∈ tiers.single.toList, Tier.single.Holds p) ∧
      (∀ p ∈ tiers.double.toList, Tier.double.Holds p) ∧
      ∀ p ∈ tiers.triple.toList, Tier.triple.Holds p := by
  have htiers : tiers = Tiers.ofTiered s.tiered := by
    rw [← tiers_eq hs, CodeSet.tiers, hl]
  have hfiled : s.tiered.Filed := (Layout.filed_addAll s.spans).compact
  rw [htiers]
  exact ⟨fun p hp => Words.holds_of_filed hfiled (t := .single) hp,
    fun p hp => Words.holds_of_filed hfiled (t := .double) hp,
    fun p hp => Words.holds_of_filed hfiled (t := .triple) hp⟩

lemma holds_offsets {s : CodeSet} {l : Layout} (hs : s.WellFormed) (hl : s.layout = l) :
    ∀ p ∈ l.offsets, Tier.single.Holds p :=
  fun _ hp => holds_of_mem_offsets hs.storable hs.stores (hl ▸ hp)

lemma key_ne_freeKey {s : CodeSet} (hs : s.WellFormed) {slots : Array (Option Block)}
    (hl : s.layout = .optimal slots) {b : Block} (hb : some b ∈ slots.toList) :
    b.key ≠ Layout.freeKey := by
  have hmem : b ∈ Block.ofSpans s.spans := by
    have hstores := hs.stores
    rw [hl] at hstores
    generalize hlayout : Layout.optimal slots = l at hstores
    cases hstores with
    | ranged => cases hlayout
    | hashed n => cases hlayout
    | optimal hplace =>
      obtain ⟨slots', rfl, hslots⟩ := Layout.place?_eq_some hplace
      cases hlayout
      exact (Layout.mem_slots hslots b).mp (List.mem_filterMap.mpr ⟨some b, hb, rfl⟩)
  have hascending := hs.storable.gapped.ascending
  obtain ⟨offset, hcovers⟩ := Block.exists_covers_of_mem hascending hmem
  obtain ⟨-, hcover⟩ := (Block.exists_covers_ofSpans hascending).mp ⟨b, hmem, rfl, hcovers⟩
  have hlast := hs.storable.le_last _ hcover
  simp only [CodePoint.last] at hlast
  simp only [Layout.freeKey]
  omega

variable {s s' : CodeSet}

/-- The numbers of the literals are the whole layout. -/
lemma layout_inj (hs : s.WellFormed) (hs' : s'.WellFormed)
    (h : ∀ heading, numbersAt heading s.sections = numbersAt heading s'.sections) :
    s.layout = s'.layout := by
  have hne : ∀ sizes, starts sizes ≠ [] := starts_go_ne_nil 0
  have hbuckets := h "_BUCKET_STARTS"
  have hranges := h "_RANGE_STARTS"
  have hsingle := h "_SINGLE_BYTE_RANGES"
  have hdouble := h "_DOUBLE_BYTE_RANGES"
  have htriple := h "_TRIPLE_BYTE_RANGES"
  have hkeys := h "_BLOCK_KEYS"
  have hpieces := h "_KEY_RANGE_STARTS"
  have hoffsets := h "_OFFSET_RANGES"
  unfold sections Layout.sections at hbuckets hranges hsingle hdouble htriple hkeys hpieces hoffsets
  cases hl : s.layout <;> cases hl' : s'.layout <;>
    simp only [hl, hl', Tiers.sections, numbersAt_append, numbersAt_optional, numbersAt_mask,
      numbersAt_cons, numbersAt_nil, Section.heading, Section.values, String.reduceEq, if_true,
      if_false, List.nil_append, List.append_nil, false_and]
      at hbuckets hranges hsingle hdouble htriple hkeys hpieces hoffsets
  case ranged.ranged tiers tiers' =>
    obtain ⟨hs₁, hs₂, hs₃⟩ := holds_tier hs hl
    obtain ⟨hs₁', hs₂', hs₃'⟩ := holds_tier hs' hl'
    have h₁ := Array.toList_inj.mp (packed_inj hs₁ hs₁' hsingle)
    have h₂ := Array.toList_inj.mp (packed_inj hs₂ hs₂' hdouble)
    have h₃ := Array.toList_inj.mp (packed_inj hs₃ hs₃' htriple)
    rw [tiers_ext h₁ h₂ h₃]
  case hashed.hashed buckets buckets' =>
    have hspans := packed_inj (holds_offsets hs hl) (holds_offsets hs' hl') hoffsets
    have hblocks := blocks_inj hkeys hpieces hspans
    rw [Array.toList_inj.mp (eq_of_starts hbuckets hblocks)]
  case optimal.optimal slots slots' =>
    have hspans := packed_inj (holds_offsets hs hl) (holds_offsets hs' hl') hoffsets
    have hslots := slots_inj (fun _ => key_ne_freeKey hs hl) (fun _ => key_ne_freeKey hs' hl')
      hkeys hranges hspans
    rw [Array.toList_inj.mp hslots]
  case ranged.hashed | optimal.hashed => exact absurd hbuckets.symm (hne _)
  case hashed.ranged | hashed.optimal => exact absurd hbuckets (hne _)
  case ranged.optimal => exact absurd hranges.symm (hne _)
  case optimal.ranged => exact absurd hranges (hne _)

lemma categories_inj
    (h : numbersAt "_CATEGORIES" s.sections = numbersAt "_CATEGORIES" s'.sections) :
    s.categories = s'.categories := by
  have hlayout : ∀ l : Layout, numbersAt "_CATEGORIES" l.sections = [] := fun l => by
    cases l <;>
      simp [Layout.sections, Tiers.sections, numbersAt_optional, Section.heading]
  simp only [sections, numbersAt_append, hlayout, List.nil_append, numbersAt_mask, true_and] at h
  by_cases hzero : s.categories = 0#64 <;> by_cases hzero' : s'.categories = 0#64
  · rw [hzero, hzero']
  · simp [hzero, hzero'] at h
  · simp [hzero, hzero'] at h
  · rw [if_pos hzero, if_pos hzero'] at h
    exact BitVec.eq_of_toNat_eq (List.cons.inj h).1

/-- The literals of a set determine the set. -/
lemma Built.eq_of_literals (hs : Built s) (hs' : Built s') {label : String}
    (h : s.literals label = s'.literals label) : s = s' := by
  rw [← textAll_sections, ← textAll_sections] at h
  have hnumbers := numbersAt_eq_of_textAll s.plain_sections s'.plain_sections h
  have hlayout := layout_inj hs.wellFormed hs'.wellFormed hnumbers
  have hcategories := categories_inj (hnumbers _)
  have hsize : s.size = s'.size := by
    rw [hs.counted, hs'.counted, spans, spans, hlayout]
  obtain ⟨layout, categories, size⟩ := s
  obtain rfl : layout = s'.layout := hlayout
  obtain rfl : categories = s'.categories := hcategories
  obtain rfl : size = s'.size := hsize
  rfl

end CodeSet

/-! ### Both -/

/-- **Literals are lossless.** Sets from builders, in any layout, that have the same literals under
one label are the same set, in the same layout, with the same categories and ranges. Maps with the
same literals have the same layout and give the same answers. -/
theorem literals_inj (label : String) :
    (∀ s s' : CodeSet, CodeSet.Built s → CodeSet.Built s' →
        s.literals label = s'.literals label → s = s') ∧
      ∀ m m' : IntMap Int32, m.literals label = m'.literals label →
        m.layout = m'.layout ∧ ∀ key, m.get? key = m'.get? key := by
  refine ⟨fun s s' hs hs' => hs.eq_of_literals hs', fun m m' h => ?_⟩
  have hlayout := IntMap.layout_eq_of_literals h
  exact ⟨hlayout, fun key => by rw [IntMap.get?, IntMap.get?, hlayout]⟩

/-- Three letters in four buckets, from other buckets before; and two keys of which one is
negative, inserted in either order. -/
theorem literals_inj_letters :
    let s := CodeSet.letters.toHashed 4
    let s' := (CodeSet.letters.toHashed 9).toHashed 4
    let m := (IntMap.Builder.ofEntries 0 [((-1 : Int32), (10 : Int32)), (9, -20)]).freeze
    let m' := (IntMap.Builder.ofEntries 50 [((9 : Int32), (-20 : Int32)), (-1, 10)]).freeze
    s = s' ∧ m.layout = m'.layout ∧ m.get? (-1) = m'.get? (-1) := by
  intro s s' m m'
  have hs : CodeSet.Built s := .transform (t := .hashed 4) CodeSet.built_letters rfl
  have hs' : CodeSet.Built s' :=
    .transform (t := .hashed 4) (.transform (t := .hashed 9) CodeSet.built_letters rfl) rfl
  have hset : s.literals "LETTERS" = s'.literals "LETTERS" := by decide +kernel
  have hmap : m.literals "LETTERS" = m'.literals "LETTERS" := by decide +kernel
  obtain ⟨hsets, hmaps⟩ := literals_inj "LETTERS"
  exact ⟨hsets s s' hs hs' hset, (hmaps m m' hmap).1, (hmaps m m' hmap).2 _⟩

end TextTypes
