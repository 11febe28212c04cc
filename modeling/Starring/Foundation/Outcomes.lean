import Starring.Foundation.Service

/-! What a computation leaves behind, whether it succeeds or fails. A statement about both ends is
proved along the text of the computation: a check has to be passed to go on, and
what has been done up to a failure is there when it fails. -/

namespace Starring.Foundation.Calls
variable {ε σ α β : Type}

/-- A check of the state. -/
def examine (check : σ → Except ε α) : Calls ε σ α := fun state => (check state, state)

def get : Calls ε σ σ := fun state => (.ok state, state)

/-- The computation ends as it should: with a value in the one way, or with an error in the other. -/
def Settles (call : Calls ε σ α) (done : α → σ → Prop) (failed : ε → σ → Prop) (state : σ) : Prop :=
  match call state with
  | (.ok value, last) => done value last
  | (.error error, last) => failed error last

variable {call : Calls ε σ α} {done done' : α → σ → Prop} {failed : ε → σ → Prop} {state last : σ}

variable {value : α}

theorem Settles.of_ok (settles : call.Settles done failed state) (called : call state = (.ok value, last)) :
    done value last := by
  rwa [Settles, called] at settles

theorem Settles.of_error {error : ε} (settles : call.Settles done failed state)
    (called : call state = (.error error, last)) : failed error last := by
  rwa [Settles, called] at settles

theorem Settles.imp (settles : call.Settles done failed state) (weaken : ∀ value last, done value last → done' value last) :
    call.Settles done' failed state := by
  rcases called : call state with ⟨error | value, last⟩
  · rw [Settles, called]
    exact settles.of_error called
  · rw [Settles, called]
    exact weaken _ _ (settles.of_ok called)

theorem settles_pure (holds : done value state) : (pure value : Calls ε σ α).Settles done failed state :=
  holds

theorem settles_modify {change : σ → σ} {next : Unit → Calls ε σ α}
    (settles : (next ()).Settles done failed (change state)) : (modify change >>= next).Settles done failed state :=
  settles

theorem settles_get {next : σ → Calls ε σ α} (settles : (next state).Settles done failed state) :
    (get >>= next).Settles done failed state :=
  settles

variable {next : α → Calls ε σ β} {after : β → σ → Prop}

theorem Settles.bind (settles : call.Settles (fun value last => (next value).Settles after failed last) failed state) :
    (call >>= next).Settles after failed state := by
  rcases called : call state with ⟨error | value, last⟩
  · rw [Settles, bind_of_error called]
    exact settles.of_error called
  · rw [Settles, bind_of_ok called]
    exact settles.of_ok called

section Unharmed
variable {harm : σ → σ → Prop} [Std.Refl harm]

/-- The rule for a check before anything is done; nothing has to be undone if it fails. -/
theorem settles_check {result : Except ε α} {next : α → Calls ε σ β} {after : β → σ → Prop}
    (goes : ∀ value, result = .ok value → (next value).Settles after (fun _ last => harm state last) state) :
    (ofExcept result >>= next).Settles after (fun _ last => harm state last) state := by
  cases result with
  | ok value => exact goes value rfl
  | error error => exact Std.Refl.refl state

theorem settles_examine {check : σ → Except ε α} {next : α → Calls ε σ β} {after : β → σ → Prop}
    (goes : ∀ value, check state = .ok value → (next value).Settles after (fun _ last => harm state last) state) :
    (examine check >>= next).Settles after (fun _ last => harm state last) state :=
  settles_check goes

theorem settles_last {result : Except ε α} (goes : ∀ value, result = .ok value → done value state) :
    (ofExcept result : Calls ε σ α).Settles done (fun _ last => harm state last) state := by
  cases result with
  | ok value => exact goes value rfl
  | error error => exact Std.Refl.refl state

end Unharmed

variable {result : Except ε α}

/-- The rule for a check that cannot fail. -/
theorem settles_ok (passes : result = .ok value) (goes : (next value).Settles after failed state) :
    (ofExcept result >>= next).Settles after failed state := by
  subst passes
  exact goes

theorem settles_examine_ok {check : σ → Except ε α} (passes : check state = .ok value)
    (goes : (next value).Settles after failed state) : (examine check >>= next).Settles after failed state :=
  settles_ok passes goes

theorem settles_last_ok (passes : result = .ok value) (goes : done value state) :
    (ofExcept result : Calls ε σ α).Settles done failed state := by
  subst passes
  exact goes

theorem settles_last_some (passes : ∃ value, result = .ok value) (goes : ∀ value, result = .ok value → done value state) :
    (ofExcept result : Calls ε σ α).Settles done failed state := by
  obtain ⟨value, passes⟩ := passes
  exact settles_last_ok passes (goes value passes)

end Starring.Foundation.Calls
