import Mathlib.Algebra.GroupWithZero.Nat
import Mathlib.Data.List.Nodup
import Mathlib.Data.List.Perm.Subperm
import Mathlib.Order.Bounds.Basic
import Mathlib.Tactic.Common
import TextTypes.Buckets

/-!
What buckets hold.

Filling buckets neither loses nor repeats an item: bucket `i` holds the items whose index has
remainder `i`, in their order. A bucket count is free of collisions exactly if all remainders
differ, and the search stops at the least such count.
-/

namespace TextTypes.Buckets

variable {α : Type}

/-- What bucket `i` holds; there is nothing past the last bucket. -/
def bucketAt (buckets : Array (List α)) (i : Nat) : List α := buckets[i]?.getD []

lemma mem_flatten_iff {buckets : Array (List α)} {x : α} :
    x ∈ buckets.toList.flatten ↔ ∃ i, x ∈ bucketAt buckets i := by
  rw [List.mem_flatten]
  constructor
  · rintro ⟨bucket, hb, hx⟩
    obtain ⟨i, hi, rfl⟩ := List.mem_iff_getElem.mp hb
    refine ⟨i, ?_⟩
    simp only [Array.length_toList] at hi
    simpa [bucketAt, hi] using hx
  · rintro ⟨i, hx⟩
    unfold bucketAt at hx
    rcases h : buckets[i]? with _ | bucket
    · simp [h] at hx
    · refine ⟨bucket, Array.mem_toList_iff.mpr (Array.mem_of_getElem? h), ?_⟩
      simpa [h] using hx

lemma bucketAt_modify (buckets : Array (List α)) (j i : Nat) (f : List α → List α)
    (hj : j < buckets.size) :
    bucketAt (buckets.modify j f) i =
      if j = i then f (bucketAt buckets i) else bucketAt buckets i := by
  unfold bucketAt
  rw [Array.getElem?_modify]
  by_cases h : j = i
  · subst h
    simp [hj]
  · simp [h]

lemma bucketAt_replicate (n i : Nat) : bucketAt (Array.replicate n ([] : List α)) i = [] := by
  unfold bucketAt
  rw [Array.getElem?_replicate]
  split <;> rfl

lemma bucketAt_sublist (buckets : Array (List α)) (i : Nat) :
    (bucketAt buckets i).Sublist buckets.toList.flatten := by
  unfold bucketAt
  rcases h : buckets[i]? with _ | bucket
  · exact List.nil_sublist _
  · exact List.sublist_flatten_of_mem (Array.mem_toList_iff.mpr (Array.mem_of_getElem? h))

/-- Rows of as many buckets are the same if their buckets are. -/
lemma eq_of_bucketAt {buckets buckets' : Array (List α)} (hsize : buckets.size = buckets'.size)
    (h : ∀ i, bucketAt buckets i = bucketAt buckets' i) : buckets = buckets' := by
  refine Array.ext hsize fun i hi hi' => ?_
  simpa [bucketAt, hi, hi'] using h i

lemma bucketAt_map {β : Type} (buckets : Array (List α)) (f : α → β) (i : Nat) :
    bucketAt (buckets.map (List.map f)) i = (bucketAt buckets i).map f := by
  unfold bucketAt
  rw [Array.getElem?_map]
  cases buckets[i]? <;> rfl

/-- If the items of every bucket have its number, those of one number are one bucket. -/
lemma filter_flatten {number : α → Nat} (buckets : List (List α)) (start i : Nat)
    (h : ∀ j bucket, buckets[j]? = some bucket → ∀ x ∈ bucket, number x = start + j) :
    buckets.flatten.filter (number · = start + i) = buckets[i]?.getD [] := by
  induction buckets generalizing start i with
  | nil => simp
  | cons bucket buckets ih =>
    have hhead : ∀ x ∈ bucket, number x = start := h 0 bucket rfl
    have htail : ∀ j b, buckets[j]? = some b → ∀ x ∈ b, number x = start + 1 + j :=
      fun j b hb x hx => by
        rw [h (j + 1) b hb x hx]
        omega
    rw [List.flatten_cons, List.filter_append]
    cases i with
    | zero =>
      have hall : bucket.filter (number · = start + 0) = bucket :=
        List.filter_eq_self.mpr fun x hx => by simp [hhead x hx]
      have hnone : buckets.flatten.filter (number · = start + 0) = [] := by
        rw [List.filter_eq_nil_iff]
        intro x hx
        obtain ⟨b, hb, hx⟩ := List.mem_flatten.mp hx
        obtain ⟨j, hj⟩ := List.mem_iff_getElem?.mp hb
        rw [decide_eq_true_eq, htail j b hj x hx]
        omega
      rw [hall, hnone, List.append_nil]
      rfl
    | succ i =>
      have hnone : bucket.filter (number · = start + (i + 1)) = [] :=
        List.filter_eq_nil_iff.mpr fun x hx => by simp [hhead x hx]
      rw [hnone, List.nil_append, List.getElem?_cons_succ, ← ih (start + 1) i htail,
        show start + (i + 1) = start + 1 + i by omega]

/-- Changing the items of one bucket is not seen by a function that does not see the change. -/
lemma map_flatten_modify {β : Type} (buckets : Array (List α)) (j : Nat) {f : α → β} {g : α → α}
    (hg : ∀ x, f (g x) = f x) :
    (buckets.modify j (·.map g)).toList.flatten.map f = buckets.toList.flatten.map f := by
  obtain ⟨l⟩ := buckets
  rw [Array.toList_modify]
  have hmap : ∀ b : List α, (b.map g).map f = b.map f := fun b => by simp [hg]
  induction l generalizing j with
  | nil => simp
  | cons b l ih =>
    cases j with
    | zero => simp only [List.modify_zero_cons, List.flatten_cons, List.map_append, hmap]
    | succ j =>
      simp only [List.modify_succ_cons, List.flatten_cons, List.map_append]
      rw [ih j]

/-- Adding to one bucket adds to the whole. -/
lemma flatten_modify_perm (buckets : Array (List α)) (j : Nat) (x : α) (hj : j < buckets.size) :
    (buckets.modify j (· ++ [x])).toList.flatten.Perm (x :: buckets.toList.flatten) := by
  obtain ⟨l⟩ := buckets
  rw [Array.toList_modify]
  simp only [List.size_toArray] at hj ⊢
  induction l generalizing j with
  | nil => simp at hj
  | cons b l ih =>
    cases j with
    | zero =>
      simp only [List.modify_zero_cons, List.flatten_cons, List.append_assoc]
      exact List.perm_middle
    | succ j =>
      simp only [List.modify_succ_cons, List.flatten_cons]
      have := (ih j (by simpa using hj)).append_left b
      exact this.trans List.perm_middle

/-! ### Filling -/

section Fill

variable {index : α → Nat} {n : Nat}

/-- One item is put behind the others of its bucket. -/
def put (index : α → Nat) (n : Nat) (buckets : Array (List α)) (x : α) : Array (List α) :=
  buckets.modify (index x % n) (· ++ [x])

lemma size_foldl_put (items : List α) (buckets : Array (List α)) :
    (items.foldl (put index n) buckets).size = buckets.size := by
  induction items generalizing buckets with
  | nil => rfl
  | cons x items ih => rw [List.foldl_cons, ih, put, Array.size_modify]

lemma bucketAt_foldl_put (hn : 0 < n) (items : List α) (buckets : Array (List α))
    (hb : buckets.size = n) {i : Nat} :
    bucketAt (items.foldl (put index n) buckets) i =
      bucketAt buckets i ++ items.filter (index · % n = i) := by
  induction items generalizing buckets with
  | nil => simp
  | cons x items ih =>
    have hlt : index x % n < buckets.size := by rw [hb]; exact Nat.mod_lt _ hn
    rw [List.foldl_cons, ih _ (by rw [put, Array.size_modify, hb]), put,
      bucketAt_modify _ _ _ _ hlt]
    by_cases h : index x % n = i <;> simp [h]

lemma flatten_foldl_put_perm (hn : 0 < n) (items : List α) (buckets : Array (List α))
    (hb : buckets.size = n) :
    (items.foldl (put index n) buckets).toList.flatten.Perm
      (items ++ buckets.toList.flatten) := by
  induction items generalizing buckets with
  | nil => exact .refl _
  | cons x items ih =>
    have hlt : index x % n < buckets.size := by rw [hb]; exact Nat.mod_lt _ hn
    rw [List.foldl_cons]
    refine (ih _ (by rw [put, Array.size_modify, hb])).trans ?_
    refine ((flatten_modify_perm buckets _ x hlt).append_left items).trans ?_
    exact List.perm_middle

lemma fill_eq (items : List α) :
    fill index n items = items.foldl (put index n) (Array.replicate n []) := rfl

@[simp] lemma size_fill (items : List α) : (fill index n items).size = n := by
  rw [fill_eq, size_foldl_put, Array.size_replicate]

/-- A bucket holds the items of its remainder, in their order. -/
lemma bucketAt_fill (hn : 0 < n) (items : List α) (i : Nat) :
    bucketAt (fill index n items) i = items.filter (index · % n = i) := by
  rw [fill_eq, bucketAt_foldl_put hn _ _ Array.size_replicate, bucketAt_replicate,
    List.nil_append]

/-- Filling neither loses nor repeats an item. -/
lemma flatten_fill_perm (hn : 0 < n) (items : List α) :
    (fill index n items).toList.flatten.Perm items := by
  rw [fill_eq]
  simpa using flatten_foldl_put_perm hn items (Array.replicate n [])
    Array.size_replicate

lemma fill_concat (items : List α) (x : α) :
    fill index n (items ++ [x]) = put index n (fill index n items) x := by
  simp [fill_eq]

/-- Items that are changed after they are filled in might as well be changed before. -/
lemma map_fill {β : Type} {index' : β → Nat} {f : α → β} (hn : 0 < n)
    (hf : ∀ x, index' (f x) = index x) (items : List α) :
    (fill index n items).map (List.map f) = fill index' n (items.map f) := by
  refine eq_of_bucketAt (by simp) fun i => ?_
  rw [bucketAt_map, bucketAt_fill hn, bucketAt_fill hn, List.filter_map]
  simp only [Function.comp_def, hf]

/-- Items that are filled in anew come back to the places they had. -/
lemma fill_flatten {buckets : Array (List α)} (hpos : 0 < buckets.size)
    (h : ∀ i, ∀ x ∈ bucketAt buckets i, index x % buckets.size = i) :
    fill index buckets.size buckets.toList.flatten = buckets := by
  have hfiled : ∀ j bucket, buckets.toList[j]? = some bucket →
      ∀ x ∈ bucket, index x % buckets.size = 0 + j := fun j bucket hj x hx => by
    rw [Nat.zero_add]
    refine h j x ?_
    rwa [bucketAt, ← Array.getElem?_toList, hj]
  refine eq_of_bucketAt (size_fill _) fun i => ?_
  have hfilter := filter_flatten buckets.toList 0 i hfiled
  rw [Nat.zero_add, Array.getElem?_toList] at hfilter
  rw [bucketAt_fill hpos, hfilter, bucketAt]

end Fill

/-! ### Loads -/

lemma getElem?_foldl_loads {n : Nat} (keys : List Nat) (counts : Array Nat) (i : Nat) :
    (keys.foldl (fun counts key => counts.modify (key % n) (· + 1)) counts)[i]? =
      counts[i]?.map (· + (keys.map (· % n)).count i) := by
  induction keys generalizing counts with
  | nil => simp
  | cons key keys ih =>
    rw [List.foldl_cons, ih, Array.getElem?_modify]
    by_cases h : key % n = i
    · subst h
      rcases counts[key % n]? with _ | k
      · simp
      · simp [Nat.add_assoc, Nat.add_comm]
    · simp [h]

/-- The load of a bucket is the number of keys with its remainder. -/
lemma getElem?_loads (keys : List Nat) (n i : Nat) :
    (loads keys n)[i]? = if i < n then some ((keys.map (· % n)).count i) else none := by
  unfold loads
  rw [getElem?_foldl_loads, Array.getElem?_replicate]
  split <;> simp

lemma size_loads (keys : List Nat) (n : Nat) : (loads keys n).size = n := by
  have h : ∀ counts : Array Nat,
      (keys.foldl (fun counts key => counts.modify (key % n) (· + 1)) counts).size =
        counts.size := by
    induction keys with
    | nil => exact fun _ => rfl
    | cons key keys ih => exact fun counts => (ih _).trans Array.size_modify
  rw [loads, h, Array.size_replicate]

/-- Distinct numbers below a bound are no more than the bound. -/
lemma length_le_of_nodup_of_lt {numbers : List Nat} {bound : Nat} (hnodup : numbers.Nodup)
    (hlt : ∀ n ∈ numbers, n < bound) : numbers.length ≤ bound := by
  have hsub := hnodup.subperm fun n hn => List.mem_range.mpr (hlt n hn)
  simpa using hsub.length_le

/-- No bucket receives two keys exactly if all remainders differ. -/
lemma isFree_iff {keys : List Nat} {n : Nat} (hn : 0 < n) :
    isFree keys n = true ↔ (keys.map (· % n)).Nodup := by
  have hload : ∀ r (hr : r < (loads keys n).size),
      (loads keys n)[r] = (keys.map (· % n)).count r := by
    intro r hr
    have h := getElem?_loads keys n r
    rw [if_pos (size_loads keys n ▸ hr), Array.getElem?_eq_getElem hr] at h
    exact Option.some.inj h
  unfold isFree
  rw [Array.all_eq_true, List.nodup_iff_count_le_one]
  constructor
  · intro h r
    by_cases hr : r < (loads keys n).size
    · have := h r hr
      rw [hload r hr] at this
      simpa using this
    · have hout : r ∉ keys.map (· % n) := by
        simp only [List.mem_map, not_exists, not_and]
        rintro key - rfl
        exact hr (by rw [size_loads]; exact Nat.mod_lt _ hn)
      rw [List.count_eq_zero_of_not_mem hout]
      exact Nat.zero_le 1
  · intro h r hr
    rw [hload r hr]
    simpa using h r

/-! ### The search -/

/-- The bucket counts from `lo` to `hi` at which no two keys meet. -/
def freeCounts (keys : List Nat) (lo hi : Nat) : Set Nat :=
  {n | (lo ≤ n ∧ n ≤ hi) ∧ (keys.map (· % n)).Nodup}

variable {keys : List Nat} {lo hi n : Nat}

/-- The search finds the least bucket count without collisions. -/
lemma least?_eq_some_iff (hlo : 0 < lo) :
    least? keys lo hi = some n ↔ IsLeast (freeCounts keys lo hi) n := by
  unfold least?
  rw [List.find?_range'_eq_some, List.mem_range'_1]
  constructor
  · rintro ⟨hfree, ⟨hle, hlt⟩, hbefore⟩
    have hmem : n ∈ freeCounts keys lo hi :=
      ⟨⟨hle, by omega⟩, (isFree_iff (by omega)).mp hfree⟩
    refine ⟨hmem, fun m hm => ?_⟩
    by_contra hlt
    have hnot := hbefore m hm.1.1 (by omega)
    rw [(isFree_iff (Nat.lt_of_lt_of_le hlo hm.1.1)).mpr hm.2] at hnot
    cases hnot
  · rintro ⟨⟨⟨hle, hhi⟩, hfree⟩, hleast⟩
    refine ⟨(isFree_iff (by omega)).mpr hfree, ⟨hle, by omega⟩, fun m hm hlt => ?_⟩
    rw [Bool.not_eq_true', ← Bool.not_eq_true, isFree_iff (by omega)]
    intro hfree
    have := hleast ⟨⟨hm, by omega⟩, hfree⟩
    omega

/-! ### Starts -/

lemma head?_starts_go (start : Nat) (sizes : List Nat) :
    (starts.go start sizes).head? = some start := by
  cases sizes <;> rfl

lemma starts_go_ne_nil (start : Nat) (sizes : List Nat) : starts.go start sizes ≠ [] := by
  cases sizes <;> exact List.cons_ne_nil _ _

lemma starts_go_inj {start : Nat} {sizes sizes' : List Nat}
    (h : starts.go start sizes = starts.go start sizes') : sizes = sizes' := by
  induction sizes generalizing start sizes' with
  | nil =>
    cases sizes' with
    | nil => rfl
    | cons l ls => exact absurd (List.cons.inj h).2.symm (starts_go_ne_nil _ _)
  | cons k ks ih =>
    cases sizes' with
    | nil => exact absurd (List.cons.inj h).2 (starts_go_ne_nil _ _)
    | cons l ls =>
      have hrest := (List.cons.inj h).2
      have hstart := congrArg List.head? hrest
      rw [head?_starts_go, head?_starts_go] at hstart
      obtain rfl := Nat.add_left_cancel (Option.some.inj hstart)
      rw [ih hrest]

/-- Where the buckets begin tells how many items they hold. -/
theorem starts_inj {sizes sizes' : List Nat} (h : starts sizes = starts sizes') :
    sizes = sizes' := starts_go_inj h

/-- Buckets are known from the items in them and the places where they begin. -/
theorem eq_of_starts {buckets buckets' : List (List α)}
    (hstarts : starts (buckets.map List.length) = starts (buckets'.map List.length))
    (hitems : buckets.flatten = buckets'.flatten) : buckets = buckets' :=
  List.eq_iff_flatten_eq.mpr ⟨hitems, starts_inj hstarts⟩

lemma starts_go_concat (start : Nat) (sizes : List Nat) (k : Nat) :
    starts.go start (sizes ++ [k]) = starts.go start sizes ++ [start + sizes.sum + k] := by
  induction sizes generalizing start with
  | nil => rfl
  | cons size sizes ih =>
    rw [List.cons_append, starts.go, ih, starts.go, List.sum_cons, List.cons_append,
      Nat.add_assoc start]

lemma starts_concat (sizes : List Nat) (k : Nat) :
    starts (sizes ++ [k]) = starts sizes ++ [sizes.sum + k] := by
  rw [starts, starts_go_concat, Nat.zero_add]
  rfl

lemma getElem?_starts_go (start : Nat) (sizes : List Nat) (i : Nat) :
    (starts.go start sizes)[i]? =
      if i ≤ sizes.length then some (start + (sizes.take i).sum) else none := by
  induction sizes generalizing start i with
  | nil => cases i <;> simp [starts.go]
  | cons size sizes ih =>
    cases i with
    | zero => simp [starts.go]
    | succ i => simp [starts.go, ih, Nat.add_assoc]

lemma length_starts_go (start : Nat) (sizes : List Nat) :
    (starts.go start sizes).length = sizes.length + 1 := by
  induction sizes generalizing start with
  | nil => rfl
  | cons size sizes ih => rw [starts.go, List.length_cons, ih, List.length_cons]

lemma length_starts (sizes : List Nat) : (starts sizes).length = sizes.length + 1 :=
  length_starts_go 0 sizes

/-- A list begins where those before it end. -/
lemma getElem?_starts (sizes : List Nat) (i : Nat) :
    (starts sizes)[i]? = if i ≤ sizes.length then some (sizes.take i).sum else none := by
  rw [starts, getElem?_starts_go, Nat.zero_add]

end TextTypes.Buckets
