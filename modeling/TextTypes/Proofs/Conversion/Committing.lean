import Mathlib.Data.Nat.Choose.Basic
import TextTypes.Proofs.Conversion.Queries
import TextTypes.Proofs.Rounds

/-!
The scan as a loop.

A cursor moves along the text, and every round reads the character that it stands at. The partial
matches are moved one by one, the one with the latest start first, and those that end are taken out
of the list on the way. When a match is committed, the cursor falls back to its end and reads on
from there. So its place alone bounds nothing: what goes on growing is the end of the last committed
match, and between two commits the place. The matches are the settled ones.
-/

namespace TextTypes.Conversion

/-- The state of the loop: where the cursor stands, the partial matches in the order of their
starts, the best match and the committed ones. -/
structure Cursor where
  pos : Nat := 0
  live : List Partial := []
  best : Option Match := none
  found : List Match := []

namespace Cursor

open Search

/-- Moves the partial matches below a place over a character, the last one first. -/
def sweep? (c : Char) (stop : Nat) :
    (place : Nat) → List Partial → Option Match → Option (List Partial × Option Match)
  | 0, live, best => some (live, best)
  | k + 1, live, best => do
    let p ← live[k]?
    match p.node.child? c with
    | none => sweep? c stop k (live.eraseIdx k) best
    | some node =>
      let best := record stop best ⟨p.start, node⟩
      if node.isLeaf then sweep? c stop k (live.eraseIdx k) best
      else sweep? c stop k (live.set k ⟨p.start, node⟩) best

/-- Commits the best match once no partial match that starts at or before it is left, and falls
back to its end. -/
def commit (length : Nat) (s : Cursor) : Cursor :=
  match s.best with
  | none => s
  | some b =>
    let live := s.live.filter (·.start ≤ b.start)
    if live.isEmpty || s.pos == length then ⟨b.stop, [], none, s.found ++ [b]⟩
    else { s with live }

/-- Reads the character that the cursor stands at. -/
def round? (root : Trie Rule) (text : List Char) (s : Cursor) : Option Cursor := do
  let c ← text[s.pos]?
  let live := s.live ++ [⟨s.pos, root⟩]
  let (live, best) ← sweep? c (s.pos + 1) live.length live s.best
  return commit text.length ⟨s.pos + 1, live, best, s.found⟩

def loop (root : Trie Rule) (text : List Char) : Loop Cursor where
  stops s := text.length ≤ s.pos
  round? := round? root text

/-- How many rounds a text of `n` characters takes at most. -/
def rounds (n : Nat) : Nat := (n + 1) * n / 2

/-- The committed matches, if the loop stops in time. -/
def matches? (root : Trie Rule) (text : List Char) : Option (List Match) :=
  ((loop root text).run? (rounds text.length) {}).map found

/-! ### One round is one step of the search -/

/-- The cursor at a place, with the state of a search that has come there. -/
def holding (pos : Nat) (st : Search) (found : List Match) : Cursor :=
  ⟨pos, st.live.reverse, st.best, found⟩

variable {root : Trie Rule} {text : List Char} {pos : Nat} {st : Search} {found : List Match}

/-- Whatever is taken out on the way, every partial match is moved. -/
lemma sweep?_eq (c : Char) (stop : Nat) (todo done : List Partial) (best : Option Match) :
    sweep? c stop todo.length (todo.reverse ++ done) best =
      some (((moved c todo).filter (!·.node.isLeaf)).reverse ++ done,
        (moved c todo).foldl (record stop) best) := by
  induction todo generalizing done best with
  | nil => rfl
  | cons p todo ih =>
    have hlook : ((p :: todo).reverse ++ done)[todo.length]? = some p := by simp
    have herase : ((p :: todo).reverse ++ done).eraseIdx todo.length = todo.reverse ++ done := by
      rw [List.reverse_cons, List.append_assoc, List.eraseIdx_append_of_length_le (by simp)]
      simp
    have hset : ∀ q, ((p :: todo).reverse ++ done).set todo.length q =
        todo.reverse ++ q :: done := fun q => by
      rw [List.reverse_cons, List.append_assoc, List.set_append_right _ _ (by simp)]
      simp
    rw [List.length_cons, sweep?, hlook]
    simp only [Option.bind_eq_bind, Option.bind_some, herase, hset, ih, moved, List.filterMap_cons]
    rcases p.node.child? c with _ | node
    · rfl
    · by_cases hleaf : node.isLeaf = true <;> simp [hleaf]

/-- Whether no partial match is left, or no character. -/
def spent (length pos : Nat) (st : Search) : Bool := st.live.isEmpty || pos == length

lemma commit_of_none {length : Nat} (h : (prune st).best = none) :
    commit length (holding pos st found) = holding pos (prune st) found := by
  obtain ⟨live, best⟩ := st
  rw [best_prune] at h
  subst h
  rfl

lemma commit_of_some {length : Nat} {b : Match} (h : (prune st).best = some b) :
    commit length (holding pos st found) =
      if spent length pos (prune st) then holding b.stop {} (found ++ [b])
      else holding pos (prune st) found := by
  obtain ⟨live, best⟩ := st
  rw [best_prune] at h
  subst h
  simp only [commit, holding, prune, List.filter_reverse, List.isEmpty_reverse]
  rfl

/-- A round moves the partial matches on and commits. -/
lemma round?_eq {c : Char} (hc : text[pos]? = some c) (st : Search) (found : List Match) :
    ∃ moved : Search, prune moved = step root pos c st ∧
      round? root text (holding pos st found) =
        some (commit text.length (holding (pos + 1) moved found)) := by
  have hsweep := sweep?_eq c (pos + 1) (⟨pos, root⟩ :: st.live) [] st.best
  rw [List.append_nil, List.append_nil] at hsweep
  have hlive : st.live.reverse ++ [⟨pos, root⟩] = (⟨pos, root⟩ :: st.live).reverse :=
    List.reverse_cons.symm
  refine ⟨_, rfl, ?_⟩
  simp only [round?, holding, hc, hlive, List.length_reverse, hsweep, Option.bind_eq_bind,
    Option.bind_some]
  rfl

/-! ### What is still to be found -/

/-- The matches that a search finds from where it stands, and the settled ones behind them. -/
def ahead (root : Trie Rule) (text : List Char) (pos : Nat) (st : Search) : List Match :=
  match seek root pos st (text.drop pos) with
  | some m => m :: settle root 0 m.stop (text.drop m.stop)
  | none => []

lemma ahead_start (root : Trie Rule) (text : List Char) (pos : Nat) :
    ahead root text pos {} = settle root 0 pos (text.drop pos) := by
  unfold ahead
  rcases hdrop : text.drop pos with _ | ⟨c, rest⟩
  · rfl
  · have hfound := found_seek_start root pos c rest
    -- the match is not empty, so what comes behind it is behind `c`
    rw [settle_zero_cons]
    rcases hseek : seek root pos {} (c :: rest) with _ | m
    · rfl
    · rw [hseek] at hfound
      obtain ⟨i, s, hfirst, -, hstop⟩ := hfound
      have hlength := List.length_pos_iff.mpr hfirst.occurs.ne_nil
      have hrest : rest = text.drop (pos + 1) := by
        rw [← List.drop_drop, hdrop]
        rfl
      simp only
      rw [settle_skip (m.stop - pos - 1), hrest, List.drop_drop,
        show pos + 1 + (m.stop - pos - 1) = m.stop by omega]

section Step

variable (hpos : pos < text.length)

include hpos

lemma seek_drop :
    seek root pos st (text.drop pos) =
      if (step root pos text[pos] st).best.isSome &&
          spent text.length (pos + 1) (step root pos text[pos] st) then
        (step root pos text[pos] st).best
      else seek root (pos + 1) (step root pos text[pos] st) (text.drop (pos + 1)) := by
  have hend : (text.drop (pos + 1)).isEmpty = (pos + 1 == text.length) := by
    rw [Bool.eq_iff_iff, List.isEmpty_iff, List.drop_eq_nil_iff, beq_iff_eq]
    omega
  rw [List.drop_eq_getElem_cons hpos, seek_cons, hend, spent]

lemma ahead_of_commits {b : Match} (hb : (step root pos text[pos] st).best = some b)
    (hspent : spent text.length (pos + 1) (step root pos text[pos] st) = true) :
    ahead root text pos st = b :: settle root 0 b.stop (text.drop b.stop) := by
  rw [ahead, seek_drop hpos, hb, hspent]
  rfl

lemma ahead_of_not_commits
    (h : ((step root pos text[pos] st).best.isSome &&
      spent text.length (pos + 1) (step root pos text[pos] st)) = false) :
    ahead root text pos st = ahead root text (pos + 1) (step root pos text[pos] st) := by
  rw [ahead, seek_drop hpos, h]
  rfl

end Step

/-! ### The whole loop -/

lemma rounds_succ (n : Nat) : rounds (n + 1) = rounds n + (n + 1) := Nat.triangle_succ (n + 1)

lemma rounds_mono : Monotone rounds := monotone_nat_of_le_succ fun n => by
  rw [rounds_succ]
  omega

/-- A search that began at `base`, the end of the last committed match, and stands at `pos`. -/
structure Scans (root : Trie Rule) (text : List Char) (base pos : Nat) (st : Search)
    (found : List Match) (left : Nat) : Prop where
  base_le : base ≤ pos
  pos_le : pos ≤ text.length
  reads : Reads root base ((text.take pos).drop base) st
  /-- What has been committed and what is still to be found are the settled matches. -/
  found_ahead : found ++ ahead root text pos st = all root text
  /-- Every character from the base on takes one round, and a commit moves the base. -/
  left_eq : left + (pos - base) = rounds (text.length - base)

lemma scans_start {base : Nat} (hbase : base ≤ text.length)
    (hfound : found ++ settle root 0 base (text.drop base) = all root text) :
    Scans root text base base {} found (rounds (text.length - base)) where
  base_le := Nat.le_refl base
  pos_le := hbase
  reads := by
    rw [List.drop_eq_nil_of_le (List.length_take_le _ _)]
    exact reads_nil base
  found_ahead := by rw [ahead_start, hfound]
  left_eq := by rw [Nat.sub_self, Nat.add_zero]

/-- The best match ends in what has been read, and holds some of it. -/
lemma stop_bounds {base : Nat} {read : List Char} (h : Reads root base read st) {b : Match}
    (hb : st.best = some b) : base < b.stop ∧ b.stop ≤ base + read.length := by
  obtain ⟨i, s, hfirst, -, hstop⟩ := h.best b hb
  have hlength := List.length_pos_iff.mpr hfirst.occurs.ne_nil
  have hi := hfirst.occurs.lt_length
  have hprefix := hfirst.occurs.isPrefix.length_le
  rw [List.length_drop] at hprefix
  omega

namespace Scans

variable {base n : Nat}

section Round

variable (h : Scans root text base pos st found n) (hpos : pos < text.length)

include h hpos

lemma reads_step :
    Reads root base ((text.take (pos + 1)).drop base) (step root pos text[pos] st) := by
  have hbase := h.base_le
  have hplace : base + ((text.take pos).drop base).length = pos := by
    rw [List.length_drop, List.length_take]
    omega
  have hread : (text.take (pos + 1)).drop base = (text.take pos).drop base ++ [text[pos]] := by
    rw [List.take_succ_eq_append_getElem hpos, List.drop_append_of_le_length]
    rw [List.length_take]
    omega
  have hstep := h.reads.step text[pos]
  rwa [hplace, ← hread] at hstep

/-- Between two commits every round takes the cursor on. -/
lemma exists_of_not_commits
    (hgo : ((step root pos text[pos] st).best.isSome &&
      spent text.length (pos + 1) (step root pos text[pos] st)) = false) :
    ∃ m < n, Scans root text base (pos + 1) (step root pos text[pos] st) found m := by
  have hbase := h.base_le
  have hleft := h.left_eq
  have hmany : text.length - base ≤ rounds (text.length - base) := by
    obtain ⟨k, hk⟩ : ∃ k, text.length - base = k + 1 := ⟨text.length - base - 1, by omega⟩
    rw [hk, rounds_succ]
    omega
  refine ⟨n - 1, by omega, by omega, hpos, h.reads_step hpos, ?_, by omega⟩
  rw [← ahead_of_not_commits hpos hgo, h.found_ahead]

/-- A commit takes the cursor back, and leaves less of the text. -/
lemma exists_of_commits {b : Match} (hb : (step root pos text[pos] st).best = some b)
    (hspent : spent text.length (pos + 1) (step root pos text[pos] st) = true) :
    ∃ m < n, Scans root text b.stop b.stop {} (found ++ [b]) m := by
  have hbase := h.base_le
  have hleft := h.left_eq
  obtain ⟨hlt, hle⟩ := stop_bounds (h.reads_step hpos) hb
  rw [List.length_drop, List.length_take] at hle
  refine ⟨_, ?_, scans_start (by omega) ?_⟩
  · -- at most as many rounds have been made as there are characters behind the old base
    have hless : rounds (text.length - b.stop) ≤ rounds (text.length - base - 1) :=
      rounds_mono (by omega)
    have hsum := rounds_succ (text.length - base - 1)
    rw [Nat.sub_add_cancel (by omega)] at hsum
    omega
  · rw [← h.found_ahead, ahead_of_commits hpos hb hspent, List.append_assoc]
    rfl

end Round

end Scans

/-- A cursor that has at most `n` rounds left. -/
def Runs (root : Trie Rule) (text : List Char) (n : Nat) (s : Cursor) : Prop :=
  ∃ base pos st found, s = holding pos st found ∧ Scans root text base pos st found n

/-- **One round** reads on or commits, and leaves fewer rounds. -/
theorem Runs.round {n : Nat} {s : Cursor} (h : Runs root text n s)
    (hgo : (loop root text).stops s = false) :
    ∃ s', (loop root text).round? s = some s' ∧ ∃ m < n, Runs root text m s' := by
  obtain ⟨base, pos, st, found, rfl, hscans⟩ := h
  have hlt : pos < text.length := Nat.lt_of_not_le (of_decide_eq_false hgo)
  obtain ⟨moved, hmoved, hround⟩ := round?_eq (List.getElem?_eq_getElem hlt) st found
  refine ⟨_, hround, ?_⟩
  rcases hb : (step root pos text[pos] st).best with _ | b
  · obtain ⟨m, hm, hnext⟩ := hscans.exists_of_not_commits hlt (by rw [hb]; rfl)
    rw [commit_of_none (by rw [hmoved, hb]), hmoved]
    exact ⟨m, hm, _, _, _, _, rfl, hnext⟩
  · rw [commit_of_some (by rw [hmoved, hb]), hmoved]
    split
    · next hspent =>
      obtain ⟨m, hm, hnext⟩ := hscans.exists_of_commits hlt hb hspent
      exact ⟨m, hm, _, _, _, _, rfl, hnext⟩
    · next hspent =>
      obtain ⟨m, hm, hnext⟩ := hscans.exists_of_not_commits hlt (by simpa [hb] using hspent)
      exact ⟨m, hm, _, _, _, _, rfl, hnext⟩

lemma Runs.found_eq {n : Nat} {s : Cursor} (h : Runs root text n s)
    (hstops : (loop root text).stops s = true) : s.found = all root text := by
  obtain ⟨base, pos, st, found, rfl, hscans⟩ := h
  have hend : text.drop pos = [] := List.drop_eq_nil_of_le (of_decide_eq_true hstops)
  rw [← hscans.found_ahead, ahead, hend]
  exact (List.append_nil found).symm

/-- **The loop stops**, though a commit takes it back: within `n * (n + 1) / 2` rounds for `n`
characters. The matches that it has committed then are the settled ones. None of them is empty, all
lie in the text, and each ends before the next one starts. -/
theorem matches?_eq (root : Trie Rule) (text : List Char) :
    matches? root text = some (all root text) ∧
      (∀ m ∈ all root text, m.start < m.stop ∧ m.stop ≤ text.length) ∧
      (all root text).Pairwise (fun m m' => m.stop ≤ m'.start) ∧
      (all root text).Pairwise fun m m' => m.start < m'.start := by
  have hstart : Runs root text (rounds text.length) {} :=
    ⟨0, 0, {}, [], rfl, scans_start (Nat.zero_le _) (List.nil_append _)⟩
  obtain ⟨s, hrun, hstops, n, hruns⟩ :=
    Loop.exists_run? (fun _ _ => Runs.round) hstart (Nat.le_refl _)
  refine ⟨?_, fun m hm => ⟨?_, ?_⟩, pairwise_stop_settle 0 0 text, pairwise_settle 0 0 text⟩
  · rw [matches?, hrun, Option.map_some, hruns.found_eq hstops]
  · exact Nat.lt_of_sub_pos (length_pos_of_mem_settle m hm)
  · simpa using stop_le_of_mem_settle m hm

/-- Both rounds behind the first `a` come to nothing, and are made again from its end on. -/
example :
    let root := ([['a'], ['a', 'b', 'c']].zipIdx).foldl
      (fun t (source, rank) => Trie.insert t source ⟨rank, []⟩) .empty
    (matches? root "aba".toList).map (List.map fun m => (m.start, m.stop)) =
        some [(0, 1), (2, 3)] ∧
      ((loop root "aba".toList).run? 3 {}).isNone = true := by
  decide

end Cursor

end TextTypes.Conversion
