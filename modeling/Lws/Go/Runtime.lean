import Lws.Library.SignedWord

/-!
# Go's integer conversions, slice reads and panics

Go's `int32` values are the integers of the signed 32-bit range; `int`, on
the 64-bit platforms the controller runs on, is the 64-bit range. A
conversion `int32(x)` and an `int32` addition or subtraction keep the residue
modulo `2^32`, which is `SignedWord.wrap 32`.

Reading `s[i]` from a slice panics when `i` is negative or not below the
slice's length. A function that can panic or return an error ends in a
`Failure`; one whose only failure is a panic returns an `Option`.
-/

namespace Lws

/-- Go's conversion `int32(x)`, and the result of an `int32` operation. -/
def int32 (value : Int) : Int := SignedWord.wrap 32 value

/-- Go's conversion `int(x)` to the 64-bit `int`, and the result of an `int`
operation. -/
def int64 (value : Int) : Int := SignedWord.wrap 64 value

/-- The values an `int32` holds. -/
def Int32Range (value : Int) : Prop := SignedWord.Fits 32 value

instance (value : Int) : Decidable (Int32Range value) :=
  inferInstanceAs (Decidable (SignedWord.Fits 32 value))

/-- The `int32` range, written out. -/
theorem int32Range_iff (value : Int) :
    Int32Range value ↔ -2147483648 ≤ value ∧ value < 2147483648 := by
  simp [Int32Range, SignedWord.Fits]

/-- An `int32` operation whose exact result fits does not wrap. -/
theorem int32_of_range (fits : -2147483648 ≤ value ∧ value < 2147483648) : int32 value = value :=
  SignedWord.wrap_of_fits (by decide) ((int32Range_iff value).mpr fits)

/-- An `int` operation whose exact result fits does not wrap. -/
theorem int64_of_range (fits : -9223372036854775808 ≤ value ∧ value < 9223372036854775808) :
    int64 value = value :=
  SignedWord.wrap_of_fits (by decide) (by simpa [SignedWord.Fits] using fits)

/-- Subtracting an `int32` result inside an `int32` operation is subtracting
the exact value: the two differ by a multiple of `2^32`. -/
theorem int32_sub_int32 (left right : Int) : int32 (left - int32 right) = int32 (left - right) :=
  SignedWord.wrap_sub_wrap le_rfl left right

/-- Converting an `int` result to `int32` keeps only its residue modulo `2^32`,
so the intermediate 64-bit wrap is invisible. -/
theorem int32_int64 (value : Int) : int32 (int64 value) = int32 value :=
  SignedWord.wrap_wrap_of_le (by decide) value

/-- An `int` operand of a sum later converted to `int32` counts with its exact
value. -/
theorem int32_add_int64 (left right : Int) : int32 (left + int64 right) = int32 (left + right) :=
  SignedWord.wrap_add_wrap (by decide) left right

/-- An `int` subtrahend of a difference later converted to `int32` counts with
its exact value. -/
theorem int32_sub_int64 (left right : Int) : int32 (left - int64 right) = int32 (left - right) :=
  SignedWord.wrap_sub_wrap (by decide) left right

/-- How a call ends when it does not return normally: with a non-nil error
value, or with a runtime panic. -/
inductive Failure where
  | error (message : String)
  | panic
deriving DecidableEq, Repr

/-- A call that returns a Go error, seen as a call that may also panic. -/
def liftError {α : Type} (result : Except String α) : Except Failure α :=
  result.mapError Failure.error

/-- A computation whose only failure is a panic, seen as a call that may also
return an error. -/
def liftPanic {α : Type} (result : Option α) : Except Failure α :=
  match result with
  | some value => .ok value
  | none => .error .panic

@[simp] theorem liftError_ok {α : Type} (value : α) : liftError (.ok value) = .ok value := rfl

@[simp] theorem liftError_error {α : Type} (message : String) :
    liftError (.error message : Except String α) = .error (.error message) := rfl

@[simp] theorem liftPanic_some {α : Type} (value : α) : liftPanic (some value) = .ok value := rfl

theorem liftError_eq_ok {α : Type} {result : Except String α} {value : α} :
    liftError result = .ok value ↔ result = .ok value := by
  cases result <;> simp [liftError, Except.mapError]

theorem liftPanic_eq_ok {α : Type} {result : Option α} {value : α} :
    liftPanic result = .ok value ↔ result = some value := by
  cases result <;> simp [liftPanic]

/-- A step that returned continues with its value. -/
@[simp] theorem ok_bind {ε α β : Type} (value : α) (next : α → Except ε β) :
    (Except.ok value >>= next) = next value := rfl

/-- A step that failed ends the computation with its failure. -/
@[simp] theorem error_bind {ε α β : Type} (failure : ε) (next : α → Except ε β) :
    (Except.error failure >>= next) = .error failure := rfl

/-- A computation that returned went through a step that returned, and its
continuation returned the result. -/
theorem bind_eq_ok {ε α β : Type} {step : Except ε α} {next : α → Except ε β} {result : β} :
    step >>= next = .ok result ↔ ∃ value, step = .ok value ∧ next value = .ok result := by
  cases step <;> simp

@[simp] theorem pure_eq_ok {ε α : Type} {value result : α} :
    (pure value : Except ε α) = .ok result ↔ value = result :=
  ⟨fun returned => by cases returned; rfl, fun same => same ▸ rfl⟩

@[simp] theorem throw_ne_ok {ε α : Type} (failure : ε) (result : α) : (throw failure : Except ε α) ≠ .ok result :=
  fun returned => by cases returned

/-- `s[i]`: the element at index `i`, or a panic. -/
def index? {α : Type} (slice : List α) (position : Int) : Option α :=
  if position < 0 then none else slice[position.toNat]?

/-- A read at a nonnegative index is the list's optional lookup. -/
theorem index?_of_nonneg {α : Type} (slice : List α) {position : Int} (nonnegative : 0 ≤ position) :
    index? slice position = slice[position.toNat]? := by
  simp [index?, Int.not_lt.mpr nonnegative]

/-- A read at an index counted by a natural number is the list's optional
lookup. -/
@[simp] theorem index?_natCast {α : Type} (slice : List α) (position : Nat) :
    index? slice position = slice[position]? := by
  simp [index?]

/-- A read at an index within the slice returns an element. -/
theorem exists_index?_of_lt {α : Type} (slice : List α) {position : Int} (nonnegative : 0 ≤ position)
    (inside : position < slice.length) : ∃ element, index? slice position = some element := by
  rw [index?_of_nonneg slice nonnegative]
  exact ⟨_, List.getElem?_eq_getElem (by omega)⟩

/-- A read at an index past the end panics. -/
theorem index?_of_le {α : Type} (slice : List α) {position : Int}
    (outside : slice.length ≤ position) : index? slice position = none := by
  have nonnegative : ¬position < 0 := by omega
  simp [index?, nonnegative]
  omega

/-- `make([]T, length)`: `length` zero values, or a panic for a negative
length. -/
def makeSlice {α : Type} (length : Int) (zero : α) : Option (List α) :=
  if length < 0 then none else some (List.replicate length.toNat zero)

/-- `s[i] = v`: the slice with `v` at index `i`, or a panic outside the slice. -/
def setIndex? {α : Type} (slice : List α) (position : Int) (value : α) : Option (List α) :=
  if 0 ≤ position ∧ position < slice.length then some (slice.set position.toNat value) else none

/-- A write inside the slice replaces one element. -/
theorem setIndex?_of_lt {α : Type} (slice : List α) {position : Int} (value : α)
    (nonnegative : 0 ≤ position) (inside : position < slice.length) :
    setIndex? slice position value = some (slice.set position.toNat value) := by
  simp [setIndex?, nonnegative, inside]

/-- A write at a negative index panics. -/
theorem setIndex?_of_neg {α : Type} (slice : List α) {position : Int} (value : α)
    (negative : position < 0) : setIndex? slice position value = none := by
  simp [setIndex?, Int.not_le.mpr negative]

/-- The first `k` passes of a loop that writes `fill idx` at every index
`idx` of a slice, in order: the first `k` values, then the rest of the slice. -/
theorem foldlM_range_fill_upTo {α : Type} (step : List α → Nat → Option (List α)) (fill : Nat → α)
    (slice : List α)
    (writes : ∀ current : List α, ∀ idx < slice.length, current.length = slice.length →
      step current idx = setIndex? current idx (fill idx)) :
    ∀ k ≤ slice.length,
      (List.range k).foldlM step slice = some ((List.range k).map fill ++ slice.drop k) := by
  intro k
  induction k with
  | zero => simp
  | succ k inductionHypothesis =>
    intro inside
    have written := inductionHypothesis (by omega)
    have length : ((List.range k).map fill ++ slice.drop k).length = slice.length := by
      simp
      omega
    have rest : slice.drop k = slice[k] :: slice.drop (k + 1) := List.drop_eq_getElem_cons (by omega)
    rw [List.range_succ, List.foldlM_append, written, Option.bind_eq_bind, Option.bind_some]
    simp only [List.foldlM_cons, List.foldlM_nil, bind_pure]
    have prefixLength : ((List.range k).map fill).length = k := by simp
    rw [writes _ k (by omega) length, setIndex?_of_lt _ _ (by omega) (by simp [length]; omega),
      Int.toNat_natCast, rest, List.set_append_right _ _ (by omega), prefixLength, Nat.sub_self,
      List.set_cons_zero, List.map_append, List.map_singleton, List.append_assoc, List.singleton_append]

/-- **A loop that fills a slice.** Writing `fill idx` at every index `idx` of
a slice, in order, gives the list of the values written. -/
theorem foldlM_range_fill {α : Type} (step : List α → Nat → Option (List α)) (fill : Nat → α)
    (slice : List α) {length : Nat} (sized : slice.length = length)
    (writes : ∀ current : List α, ∀ idx < length, current.length = length →
      step current idx = setIndex? current idx (fill idx)) :
    (List.range length).foldlM step slice = some ((List.range length).map fill) := by
  subst sized
  rw [foldlM_range_fill_upTo step fill slice writes slice.length le_rfl, List.drop_length,
    List.append_nil]

/-- Go's `a / b` on integers: the quotient truncated toward zero, or a panic
when dividing by zero. -/
def quotient? (a b : Int) : Option Int := if b = 0 then none else some (a.tdiv b)

/-- Go's `a % b` on integers: the remainder with the sign of `a`, or a panic
when dividing by zero. -/
def remainder? (a b : Int) : Option Int := if b = 0 then none else some (a.tmod b)

@[simp] theorem quotient?_zero (a : Int) : quotient? a 0 = none := rfl

@[simp] theorem remainder?_zero (a : Int) : remainder? a 0 = none := rfl

theorem quotient?_of_ne (a : Int) {b : Int} (nonzero : b ≠ 0) : quotient? a b = some (a.tdiv b) := by
  simp [quotient?, nonzero]

theorem remainder?_of_ne (a : Int) {b : Int} (nonzero : b ≠ 0) : remainder? a b = some (a.tmod b) := by
  simp [remainder?, nonzero]

end Lws
