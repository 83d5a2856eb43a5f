import Mathlib.Tactic.Ring

/-!
# Two's-complement words of a fixed width

A signed machine word of `width` bits holds the integers from `-2^(width-1)`
up to `2^(width-1) - 1`. Converting an integer of any size to such a word
keeps its residue modulo `2^width` and picks the representative in that
range: this is the balanced remainder `Int.bmod`. Word arithmetic is integer
arithmetic followed by the conversion.

A proof about a program over words states, once, that an intermediate value
fits its word, and then drops the conversion. Where a value does not fit, the
conversion is kept and only its residue is known.
-/

namespace SignedWord

/-- The value a signed `width`-bit word holds after an integer is converted to
it, as a truncating conversion or a wrapping addition leaves it. -/
def wrap (width : Nat) (value : Int) : Int := value.bmod (2 ^ width)

/-- An integer that a signed `width`-bit word holds without change. -/
def Fits (width : Nat) (value : Int) : Prop :=
  -(2 : Int) ^ (width - 1) ≤ value ∧ value < (2 : Int) ^ (width - 1)

instance (width : Nat) (value : Int) : Decidable (Fits width value) :=
  inferInstanceAs (Decidable (_ ∧ _))

/-- Half of the word's modulus, in the form `Int.bmod`'s range is stated in. -/
theorem half_modulus (positive : 0 < width) :
    ((2 ^ width : Nat) : Int) / 2 = (2 : Int) ^ (width - 1) ∧
      (((2 ^ width : Nat) : Int) + 1) / 2 = (2 : Int) ^ (width - 1) := by
  obtain ⟨previous, rfl⟩ : ∃ previous, width = previous + 1 := ⟨width - 1, by omega⟩
  have power : ((2 ^ (previous + 1) : Nat) : Int) = 2 * (2 : Int) ^ previous := by
    push_cast
    ring
  simp only [Nat.add_sub_cancel, power]
  omega

/-- A value that fits its word is not changed by the conversion. -/
theorem wrap_of_fits (positive : 0 < width) (fits : Fits width value) :
    wrap width value = value := by
  obtain ⟨low, high⟩ := fits
  obtain ⟨lower, upper⟩ := half_modulus positive
  exact Int.bmod_eq_of_le (by omega) (by omega)

/-- Every converted value fits its word. -/
theorem wrap_fits (positive : 0 < width) : Fits width (wrap width value) := by
  obtain ⟨lower, upper⟩ := half_modulus positive
  have nonzero : 0 < 2 ^ width := Nat.pow_pos (by decide)
  have low := Int.le_bmod (x := value) nonzero
  have high := Int.bmod_lt (x := value) nonzero
  unfold wrap
  exact ⟨by omega, by omega⟩

/-- A narrower conversion sees only the residue modulo its own modulus, which
a wider conversion before it keeps. -/
theorem wrap_wrap_of_le (narrower : narrow ≤ wide) (value : Int) :
    wrap narrow (wrap wide value) = wrap narrow value := by
  unfold wrap
  exact Int.bmod_bmod_of_dvd (Nat.pow_dvd_pow 2 narrower)

/-- A narrower conversion of a sum ignores a wider conversion of an operand. -/
theorem wrap_add_wrap (narrower : narrow ≤ wide) (left right : Int) :
    wrap narrow (left + wrap wide right) = wrap narrow (left + right) := by
  calc wrap narrow (left + wrap wide right)
      = wrap narrow (left + wrap narrow (wrap wide right)) := by simp [wrap]
    _ = wrap narrow (left + wrap narrow right) := by rw [wrap_wrap_of_le narrower]
    _ = wrap narrow (left + right) := by simp [wrap]

/-- A narrower conversion of a difference ignores a wider conversion of the
subtrahend. -/
theorem wrap_sub_wrap (narrower : narrow ≤ wide) (left right : Int) :
    wrap narrow (left - wrap wide right) = wrap narrow (left - right) := by
  calc wrap narrow (left - wrap wide right)
      = wrap narrow (left - wrap narrow (wrap wide right)) := by simp [wrap]
    _ = wrap narrow (left - wrap narrow right) := by rw [wrap_wrap_of_le narrower]
    _ = wrap narrow (left - right) := by simp [wrap]

end SignedWord
