import Mathlib.Data.String.Basic

/-!
# Decimal text of integers

An integer is written in base ten as its digits, most significant first, after
a minus sign when it is negative; zero is the single digit `0`. Reading accepts
an optional leading sign followed by a nonempty run of digits, with leading
zeros allowed and no other character: no spaces, separators or base prefixes.

Reading undoes writing for every integer. Range limits of a fixed-width
reader are left to its user, which compares the value read with its bounds.
-/

namespace DecimalText

/-- The base-ten text of an integer, as a list of characters. -/
def render : Int → List Char
  | .ofNat magnitude => Nat.toDigits 10 magnitude
  | .negSucc predecessor => '-' :: Nat.toDigits 10 (predecessor + 1)

/-- A nonempty run of decimal digits read as a natural number. Any other text,
the empty one included, has no value. -/
def digitsValue? (chars : List Char) : Option Nat :=
  if chars ≠ [] ∧ chars.all Char.isDigit = true then some (Nat.ofDigitChars 10 chars 0) else none

/-- A run of digits after an optional plus or minus sign, read as an integer. -/
def signedValue? : List Char → Option Int
  | '+' :: digits => (digitsValue? digits).map Int.ofNat
  | '-' :: digits => (digitsValue? digits).map (fun magnitude => -(magnitude : Int))
  | chars => (digitsValue? chars).map Int.ofNat

/-- Lean's own decimal text of an integer is the rendering above. -/
theorem render_eq_repr (value : Int) : render value = value.repr.toList := by
  cases value with
  | ofNat magnitude => simp [render, Int.repr, Nat.toList_repr]
  | negSucc predecessor => simp [render, Int.repr, Nat.toList_repr, String.toList_append]

/-- The digits of a natural number read back as that number. -/
theorem digitsValue?_toDigits (magnitude : Nat) :
    digitsValue? (Nat.toDigits 10 magnitude) = some magnitude := by
  have nonempty : Nat.toDigits 10 magnitude ≠ [] := Nat.toDigits_ne_nil
  have allDigits : (Nat.toDigits 10 magnitude).all Char.isDigit = true := by
    rw [List.all_eq_true]
    intro digit member
    exact Nat.isDigit_of_mem_toDigits (by decide) (by decide) member
  simp [digitsValue?, nonempty, allDigits]

/-- The first character of a natural number's digits is a digit, so it is
neither sign. -/
theorem toDigits_cons (magnitude : Nat) :
    ∃ first rest, Nat.toDigits 10 magnitude = first :: rest ∧ first ≠ '+' ∧ first ≠ '-' := by
  obtain ⟨first, rest, split⟩ := List.exists_cons_of_ne_nil
    (Nat.toDigits_ne_nil (n := magnitude) (b := 10))
  have isDigit : first.isDigit = true :=
    Nat.isDigit_of_mem_toDigits (by decide) (by decide) (split ▸ List.mem_cons_self)
  refine ⟨first, rest, split, ?_, ?_⟩
  · rintro rfl
    exact absurd isDigit (by decide)
  · rintro rfl
    exact absurd isDigit (by decide)

/-- Reading undoes writing: every integer's text reads back as that integer. -/
theorem signedValue?_render (value : Int) : signedValue? (render value) = some value := by
  cases value with
  | ofNat magnitude =>
    obtain ⟨first, rest, split, notPlus, notMinus⟩ := toDigits_cons magnitude
    have read := digitsValue?_toDigits magnitude
    rw [split] at read
    simp only [render, split, signedValue?]
    split <;> simp_all
  | negSucc predecessor =>
    simp [render, signedValue?, digitsValue?_toDigits, Int.negSucc_eq]

end DecimalText
