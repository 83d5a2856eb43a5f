import Lws.Library.DecimalText
import Lws.Library.SignedWord

/-!
# Go's decimal conversions

The repository turns integers into label and annotation text with
`strconv.Itoa` and `fmt.Sprint`, and reads them back with `strconv.Atoi` and
`strconv.ParseInt(s, 10, bitSize)`. These follow the Go documentation for base
ten: an optional sign, then at least one digit, and nothing else; a value
outside the signed `bitSize`-bit range is an error. `Atoi` reads a 64-bit `int`.

Errors are modelled by their text. Go quotes the offending input with
`strconv.Quote`; for the printable inputs that occur here this is the input
between double quotes.
-/

namespace Lws.Strconv

/-- `strconv.Itoa`, which is also what `fmt.Sprint` prints for an integer. -/
def itoa (value : Int) : String := value.repr

/-- The error a parse function reports for text that is not a number. -/
def syntaxError (function text : String) : String :=
  "strconv." ++ function ++ ": parsing \"" ++ text ++ "\": invalid syntax"

/-- The error a parse function reports for a number outside its range. -/
def rangeError (function text : String) : String :=
  "strconv." ++ function ++ ": parsing \"" ++ text ++ "\": value out of range"

/-- `strconv.ParseInt(text, 10, bitSize)`. -/
def parseInt (text : String) (bitSize : Nat) : Except String Int :=
  match DecimalText.signedValue? text.toList with
  | none => .error (syntaxError "ParseInt" text)
  | some value =>
    if SignedWord.Fits bitSize value then .ok value else .error (rangeError "ParseInt" text)

/-- `strconv.Atoi`: `ParseInt(text, 10, 0)` on a 64-bit platform, reported
under its own name. -/
def atoi (text : String) : Except String Int :=
  match DecimalText.signedValue? text.toList with
  | none => .error (syntaxError "Atoi" text)
  | some value =>
    if SignedWord.Fits 64 value then .ok value else .error (rangeError "Atoi" text)

/-- The integer `strconv.Atoi` returns beside its error: `0` for text that is
not a number, and the bound of Go's `int` on the side of an out-of-range
number. -/
def atoiValue (text : String) : Int :=
  match DecimalText.signedValue? text.toList with
  | none => 0
  | some value =>
    if SignedWord.Fits 64 value then value
    else if value < 0 then -9223372036854775808 else 9223372036854775807

/-- A text that parses: `Atoi` returns its number beside a nil error. -/
theorem atoiValue_of_atoi {text : String} {value : Int} (parsed : atoi text = .ok value) :
    atoiValue text = value := by
  unfold atoi at parsed
  unfold atoiValue
  cases read : DecimalText.signedValue? text.toList with
  | none => simp [read] at parsed
  | some number =>
    by_cases fits : SignedWord.Fits 64 number
    · simp only [read, fits, if_true] at parsed ⊢
      cases parsed
      rfl
    · simp [read, fits] at parsed

/-- The text of a value reads back as the value. -/
theorem signedValue?_itoa (value : Int) : DecimalText.signedValue? (itoa value).toList = some value := by
  rw [itoa, ← DecimalText.render_eq_repr]
  exact DecimalText.signedValue?_render value

/-- The text of a natural number is its digits. -/
theorem itoa_natCast_toList (value : Nat) : (itoa value).toList = Nat.toDigits 10 value := by
  rw [itoa, ← DecimalText.render_eq_repr]
  rfl

/-- Different integers have different texts. -/
theorem itoa_inj {value other : Int} : itoa value = itoa other ↔ value = other := by
  constructor
  · intro same
    have readBack := congrArg (fun text => DecimalText.signedValue? text.toList) same
    simpa only [signedValue?_itoa, Option.some.injEq] using readBack
  · rintro rfl
    rfl

/-- The text of a value is never empty. -/
theorem itoa_ne_empty (value : Int) : itoa value ≠ "" := by
  intro empty
  have readBack := signedValue?_itoa value
  rw [empty] at readBack
  simp [DecimalText.signedValue?, DecimalText.digitsValue?] at readBack

/-- `Atoi` reads back what `Itoa` wrote, for every value of Go's `int`. -/
theorem atoi_itoa (value : Int) (fits : SignedWord.Fits 64 value) : atoi (itoa value) = .ok value := by
  simp [atoi, signedValue?_itoa, fits]

/-- `ParseInt` reads back what `Itoa` wrote, for every value of its range. -/
theorem parseInt_itoa (value : Int) (bitSize : Nat) (fits : SignedWord.Fits bitSize value) :
    parseInt (itoa value) bitSize = .ok value := by
  simp [parseInt, signedValue?_itoa, fits]

end Lws.Strconv
