/-!
Code points are natural numbers.

A caller may name a surrogate or a number past the last code point; both are ordinary values
here, and only a scalar value is a character.
-/

namespace TextTypes.CodePoint

/-- The last code point. -/
def last : Nat := 0x10FFFF

/-- A character is no further than the last code point. -/
theorem toNat_le_last (c : Char) : c.toNat ≤ last := by
  have hvalid : c.toNat.isValidChar := c.valid
  unfold Nat.isValidChar at hvalid
  unfold last
  omega

/-- The character with this code point, if it is a scalar value. -/
def scalar? (cp : Nat) : Option Char :=
  if cp.isValidChar then some (Char.ofNat cp) else none

/-- The characters among a list of code points, in order. -/
def scalars (cps : List Nat) : List Char := cps.filterMap scalar?

theorem scalar?_toNat (c : Char) : scalar? c.toNat = some c := by
  have hvalid : c.toNat.isValidChar := c.valid
  rw [scalar?, if_pos hvalid, Char.ofNat_toNat]

theorem toNat_of_scalar? {cp : Nat} {c : Char} (h : scalar? cp = some c) : c.toNat = cp := by
  unfold scalar? at h
  split at h
  next hvalid =>
    rw [← Option.some.inj h, Char.ofNat, dif_pos hvalid]
    rfl
  next => cases h

theorem scalars_toNat (c : Char) : scalars [c.toNat] = [c] := by
  rw [scalars, List.filterMap_cons, scalar?_toNat, List.filterMap_nil]

end TextTypes.CodePoint
