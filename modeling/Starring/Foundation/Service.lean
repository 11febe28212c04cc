import Mathlib

/-! Calls to services. A call ends with a value or an error, and what is behind the service is
changed in either case. -/

namespace Starring.Foundation

/-- A computation that makes calls, on what is behind the services. -/
def Calls (ε σ α : Type) : Type := σ → Except ε α × σ

namespace Calls
variable {ε ε' σ α β : Type}

/-- The first error ends a computation. -/
instance : Monad (Calls ε σ) where
  pure value := fun state => (.ok value, state)
  bind call next := fun state =>
    match call state with
    | (.ok value, state) => next value state
    | (.error error, state) => (.error error, state)

/-- A value that is there without a call, or an error. -/
def ofExcept (value : Except ε α) : Calls ε σ α := fun state => (value, state)

/-- `map_err`. -/
def mapError (change : ε → ε') (call : Calls ε σ α) : Calls ε' σ α :=
  fun state => ((call state).1.mapError change, (call state).2)

/-- A change that cannot fail. -/
def modify (change : σ → σ) : Calls ε σ Unit := fun state => (.ok (), change state)

/-- The call, made with a log that keeps an entry for it. -/
def logged {γ : Type} (entry : Except ε α → γ) (call : Calls ε σ α) : Calls ε (σ × List γ) α :=
  fun state => ((call state.1).1, (call state.1).2, state.2 ++ [entry (call state.1).1])

/-- The call never fails. -/
def Answers (call : Calls ε σ α) : Prop := ∀ state, ∃ value last, call state = (.ok value, last)

variable {state last : σ}

@[simp] theorem pure_eq (value result : α) :
    (pure value : Calls ε σ α) state = (.ok result, last) ↔ value = result ∧ state = last := by
  simp [pure]

@[simp] theorem pure_ne (value : α) (error : ε) : ¬(pure value : Calls ε σ α) state = (.error error, last) := by
  simp [pure]

@[simp] theorem ofExcept_eq {value result : Except ε α} :
    (ofExcept value : Calls ε σ α) state = (result, last) ↔ value = result ∧ state = last := by
  simp [ofExcept]

variable {call : Calls ε σ α}

theorem bind_of_ok {value : α} (called : call state = (.ok value, last)) (next : α → Calls ε σ β) :
    (call >>= next) state = next value last := by
  simp [bind, called]

theorem bind_of_error {error : ε} (called : call state = (.error error, last)) (next : α → Calls ε σ β) :
    (call >>= next) state = (.error error, last) := by
  simp [bind, called]

instance : LawfulMonad (Calls ε σ) := LawfulMonad.mk' _
  (fun call => by
    funext state
    rcases called : call state with ⟨error | value, last⟩
    · exact bind_of_error called _
    · exact bind_of_ok called _)
  (fun _ _ => rfl)
  (fun call next later => by
    funext state
    rcases called : call state with ⟨error | value, last⟩
    · rw [bind_of_error (bind_of_error called next) later, bind_of_error called]
    · rw [bind_of_ok called]
      simp only [bind, called])

variable {next : α → Calls ε σ β}

theorem bind_ok {result : β} : (call >>= next) state = (.ok result, last) ↔
      ∃ value between, call state = (.ok value, between) ∧ next value between = (.ok result, last) := by
  rcases called : call state with ⟨error | value, after⟩
  · simp [bind_of_error called]
  · simp [bind_of_ok called]

theorem bind_error {error : ε} : (call >>= next) state = (.error error, last) ↔
      call state = (.error error, last) ∨
        ∃ value between, call state = (.ok value, between) ∧ next value between = (.error error, last) := by
  rcases called : call state with ⟨error | value, after⟩
  · simp [bind_of_error called]
  · simp [bind_of_ok called]

theorem mapError_ok {change : ε → ε'} {result : α} :
    (mapError change call) state = (.ok result, last) ↔ call state = (.ok result, last) := by
  unfold mapError
  rcases call state with ⟨error | value, after⟩
  · simp [Except.mapError]
  · simp [Except.mapError]

theorem ofExcept_bind_ok {value : Except ε α} {found : α} (same : value = .ok found) (next : α → Calls ε σ β) :
    (ofExcept value >>= next) = next found := by
  subst same
  rfl

theorem Answers.pure (value : α) : (Pure.pure value : Calls ε σ α).Answers := fun state => ⟨value, state, rfl⟩

theorem Answers.bind (first : call.Answers) (then_ : ∀ value, (next value).Answers) : (call >>= next).Answers := by
  intro state
  obtain ⟨value, between, called⟩ := first state
  obtain ⟨result, last, rest⟩ := then_ value between
  exact ⟨result, last, bind_ok.mpr ⟨value, between, called, rest⟩⟩

theorem Answers.mapError (answers : call.Answers) (change : ε → ε') : (call.mapError change).Answers := by
  intro state
  obtain ⟨value, last, called⟩ := answers state
  exact ⟨value, last, mapError_ok.mpr called⟩

theorem logged_eq {γ : Type} {entry : Except ε α → γ} {reply : Except ε α} {log log' : List γ} :
    (logged entry call) (state, log) = (reply, last, log') ↔ call state = (reply, last) ∧ log' = log ++ [entry reply] := by
  unfold logged
  rcases call state with ⟨reply', after⟩
  simp only [Prod.mk.injEq]
  constructor
  · rintro ⟨rfl, rfl, rfl⟩
    exact ⟨⟨rfl, rfl⟩, rfl⟩
  · rintro ⟨⟨rfl, rfl⟩, rfl⟩
    exact ⟨rfl, rfl, rfl⟩

theorem Answers.logged {γ : Type} (answers : call.Answers) (entry : Except ε α → γ) : (call.logged entry).Answers := by
  intro state
  obtain ⟨value, last, called⟩ := answers state.1
  exact ⟨value, (last, state.2 ++ [entry (.ok value)]), logged_eq.mpr ⟨called, rfl⟩⟩

end Calls

end Starring.Foundation
