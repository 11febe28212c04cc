import Mathlib

/-! Checks in the order a fallible function makes them. A sequence of checks stops
at its first refusal, so it succeeds exactly when every check of it succeeds; the
lemmas below turn a successful sequence into the conjunction of its conditions. -/

namespace Starring.Foundation

/-- An early `return Err(error)` under a condition. -/
def rejectIf {ε : Type} (condition : Prop) [Decidable condition] (error : ε) : Except ε Unit :=
  if condition then .error error else .ok ()

/-- `ok_or`: a missing value is refused with the given error. -/
def orReject {ε α : Type} (value : Option α) (error : ε) : Except ε α :=
  match value with
  | some found => .ok found
  | none => .error error

variable {ε : Type}

@[simp] theorem rejectIf_eq_ok {condition : Prop} [Decidable condition] {error : ε} {u : Unit} :
    rejectIf condition error = .ok u ↔ ¬condition := by
  unfold rejectIf
  split <;> simp_all

@[simp] theorem rejectIf_eq_error {condition : Prop} [Decidable condition] {error other : ε} :
    rejectIf condition error = .error other ↔ condition ∧ error = other := by
  unfold rejectIf
  split <;> simp_all

variable {α : Type}

@[simp] theorem orReject_eq_ok {value : Option α} {error : ε} {found : α} :
    orReject value error = .ok found ↔ value = some found := by
  cases value <;> simp [orReject]

@[simp] theorem orReject_eq_error {value : Option α} {error other : ε} :
    orReject value error = .error other ↔ value = none ∧ error = other := by
  cases value <;> simp [orReject]

variable {β : Type}

theorem bind_eq_ok {first : Except ε α} {next : α → Except ε β} {result : β} :
    (first >>= next) = .ok result ↔ ∃ value, first = .ok value ∧ next value = .ok result := by
  cases first <;> simp [bind, Except.bind]

/-- A check followed by more: both succeed. -/
@[simp] theorem check_bind_eq_ok {check : Except ε Unit} {next : Unit → Except ε β} {result : β} :
    (check >>= next) = .ok result ↔ check = .ok () ∧ next () = .ok result := by
  cases check <;> simp [bind, Except.bind]

@[simp] theorem orReject_bind_eq_ok {value : Option α} {error : ε} {next : α → Except ε β} {result : β} :
    (orReject value error >>= next) = .ok result ↔ ∃ found, value = some found ∧ next found = .ok result := by
  cases value <;> simp [orReject, bind, Except.bind]

@[simp] theorem pure_eq_ok (value result : α) : (pure value : Except ε α) = .ok result ↔ value = result := by
  simp [pure, Except.pure]

/-- Replacing the error of a check does not change when it succeeds. -/
@[simp] theorem mapError_eq_ok {ε' : Type} {check : Except ε α} {f : ε → ε'} {value : α} :
    check.mapError f = .ok value ↔ check = .ok value := by
  cases check <;> simp [Except.mapError]

/-- `is_ok` of a check. -/
def accepts {ε α : Type} (check : Except ε α) : Bool :=
  match check with
  | .ok _ => true
  | .error _ => false

@[simp] theorem accepts_eq_true (check : Except ε Unit) : accepts check = true ↔ check = .ok () := by
  cases check <;> simp [accepts]

theorem ok_or_error (check : Except ε α) : (∃ value, check = .ok value) ∨ ∃ error, check = .error error := by
  cases check with
  | ok value => exact .inl ⟨value, rfl⟩
  | error error => exact .inr ⟨error, rfl⟩

/-- The value of a computation that succeeds with one that passes a test. -/
theorem exists_ok_of_any (check : Except ε α) (holds : α → Bool) (any : check.toOption.any holds = true) :
    ∃ value, check = .ok value ∧ holds value = true := by
  cases check with
  | ok value => exact ⟨value, rfl, any⟩
  | error error => cases any

end Starring.Foundation
