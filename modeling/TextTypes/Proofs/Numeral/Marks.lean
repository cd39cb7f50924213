import Mathlib.Data.Nat.Digits.Defs
import TextTypes.Numeral.Basic

/-!
What a numeral denotes.

A character of a numeral is a digit, a sign or ignored. A sign is taken only before the first
digit, and once; the first character that is none of these is illegal. The characters in front of
it denote a whole number of any size.
-/

namespace TextTypes.Numeral

open TextTypes.Unicode

/-- What a character of a numeral is. -/
inductive Mark
  | digit (value : Nat)
  | sign (negative : Bool)
  | ignored
  deriving DecidableEq

namespace Mark

def digit? : Mark → Option Nat
  | digit value => some value
  | _ => none

/-- The values of the digits, the leading one first. -/
def digits (ms : List Mark) : List Nat := ms.filterMap digit?

/-- The number that the digits denote. -/
def magnitude (radix : Nat) (ms : List Mark) : Nat := Nat.ofDigits radix (digits ms).reverse

/-- The number that the digits and the sign denote. -/
def denoted (radix : Nat) (ms : List Mark) : Int :=
  if .sign true ∈ ms then -magnitude radix ms else magnitude radix ms

/-- Whether a sign may still come. -/
def leading (ms : List Mark) : Bool := ms.all (· = .ignored)

end Mark

variable (n : Numeral)

/-- What a character is, where a sign may stand or not. -/
def mark? (leading : Bool) (c : Char) : Option Mark :=
  match n.digit? c with
  | some v => some (.digit v.toNat)
  | none =>
    if leading && positiveSigns.contains c then some (.sign false)
    else if leading && negativeSigns.contains c && n.dashes != .ignore then some (.sign true)
    else if n.ignored.containsChar c then some .ignored
    else none

/-- What the characters of a text are, up to the first that is illegal. -/
def marks (leading : Bool) : List Char → List Mark
  | [] => []
  | c :: rest =>
    match n.mark? leading c with
    | some m => m :: marks (leading && m = .ignored) rest
    | none => []

/-- The first illegal character of a text. -/
def illegal? (s : List Char) : Option Char := s[(n.marks true s).length]?

/-! ### Numbers of any size -/

lemma holds_i64_iff (v : Int) : IntegerType.i64.holds v = true ↔ -2 ^ 63 ≤ v ∧ v < 2 ^ 63 := by
  have hmin : IntegerType.i64.min = -2 ^ 63 := by decide
  have hmax : IntegerType.i64.max = 2 ^ 63 - 1 := by decide
  rw [IntegerType.holds, hmin, hmax, Bool.and_eq_true, decide_eq_true_eq, decide_eq_true_eq]
  omega

namespace Mark

variable {radix : Nat} {ms more : List Mark}

lemma digits_append : digits (ms ++ more) = digits ms ++ digits more := List.filterMap_append

lemma magnitude_append :
    magnitude radix (ms ++ more) =
      magnitude radix more + radix ^ (digits more).length * magnitude radix ms := by
  simp [magnitude, digits_append, Nat.ofDigits_append]

/-- A digit moves the others up by one place. -/
lemma magnitude_concat_digit (v : Nat) :
    magnitude radix (ms ++ [digit v]) = magnitude radix ms * radix + v := by
  have hone : digits [digit v] = [v] := rfl
  rw [magnitude_append, hone, magnitude, hone]
  simp only [List.reverse_singleton, Nat.ofDigits_singleton, List.length_singleton, pow_one]
  rw [Nat.mul_comm, Nat.add_comm]

lemma magnitude_le_append (hradix : 0 < radix) (ms more : List Mark) :
    magnitude radix ms ≤ magnitude radix (ms ++ more) := by
  have hpos : 0 < radix ^ (digits more).length := Nat.pow_pos hradix
  have hle := Nat.le_mul_of_pos_left (magnitude radix ms) hpos
  rw [magnitude_append]
  omega

lemma digits_of_leading (h : leading ms = true) : digits ms = [] := by
  rw [digits, List.filterMap_eq_nil_iff]
  intro m hm
  have : m = .ignored := by simpa using List.all_eq_true.mp h m hm
  rw [this]
  rfl

lemma sign_notMem_of_leading (h : leading ms = true) (negative : Bool) :
    .sign negative ∉ ms := by
  intro hm
  have := List.all_eq_true.mp h _ hm
  simp at this

lemma leading_concat (ms : List Mark) (m : Mark) :
    leading (ms ++ [m]) = (leading ms && decide (m = .ignored)) := by
  simp [leading, List.all_append]

lemma denoted_of_digits (h : digits ms = []) : denoted radix ms = 0 := by
  simp [denoted, magnitude, h]

lemma denoted_of_leading (h : leading ms = true) : denoted radix ms = 0 :=
  denoted_of_digits (digits_of_leading h)

lemma denoted_concat_ignored : denoted radix (ms ++ [ignored]) = denoted radix ms := by
  have hnone : digits [ignored] = [] := rfl
  simp [denoted, magnitude, digits_append, hnone]

/-- A sign has nothing in front of it to turn around. -/
lemma denoted_concat_sign (h : leading ms = true) (negative : Bool) :
    denoted radix (ms ++ [sign negative]) = 0 := by
  have hnone : digits [sign negative] = [] := rfl
  simp [denoted, magnitude, digits_append, hnone, digits_of_leading h]

lemma denoted_concat_digit (v : Nat) :
    denoted radix (ms ++ [digit v]) =
      if .sign true ∈ ms then denoted radix ms * radix - v else denoted radix ms * radix + v := by
  have hmem : sign true ∈ ms ++ [digit v] ↔ sign true ∈ ms := by simp
  unfold denoted
  simp only [hmem, magnitude_concat_digit]
  split
  · push_cast
    ring
  · push_cast
    ring

/-- A number past the 64 bits is on the side of its sign. -/
lemma neg_iff (h : ¬IntegerType.i64.holds (denoted radix ms)) :
    denoted radix ms < 0 ↔ sign true ∈ ms := by
  rw [holds_i64_iff] at h
  unfold denoted at h ⊢
  by_cases hneg : sign true ∈ ms
  · simp only [hneg, if_true, iff_true] at h ⊢
    omega
  · simp only [hneg, if_false, iff_false] at h ⊢
    omega

/-- Once past the 64 bits, more digits lead further away. -/
lemma not_holds_append (hradix : 0 < radix) (hsign : ∀ negative, sign negative ∉ more)
    (h : ¬IntegerType.i64.holds (denoted radix ms)) :
    ¬IntegerType.i64.holds (denoted radix (ms ++ more)) := by
  have hle := magnitude_le_append hradix ms more
  have hmem : sign true ∈ ms ++ more ↔ sign true ∈ ms := by simp [hsign]
  rw [holds_i64_iff] at h ⊢
  unfold denoted at h ⊢
  simp only [hmem]
  split
  · next hneg =>
    rw [if_pos hneg] at h
    omega
  · next hpos =>
    rw [if_neg hpos] at h
    omega

end Mark

end TextTypes.Numeral
