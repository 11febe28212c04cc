import Mathlib

/-! Programs that make calls to a shared world. A program is a tree of calls, so that it can be
interrupted, and other programs can make calls, between any two of its own. Its contract says
which calls it may make in which worlds; a program that keeps to its contract under
any interference keeps to it in every pool of programs. -/

namespace Starring.Foundation

/-- A program; what it does after a call depends on the reply. -/
inductive Process (κ : Type) (ρ : κ → Type) (α : Type) where
  | done (result : α)
  | call (request : κ) (next : ρ request → Process κ ρ α)

/-- A call with its reply. -/
structure Exchange (κ : Type) (ρ : κ → Type) where
  request : κ
  reply : ρ request

namespace Process
variable {κ : Type} {ρ : κ → Type} {α β : Type}

def bind : Process κ ρ α → (α → Process κ ρ β) → Process κ ρ β
  | done result, next => next result
  | call request later, next => call request fun reply => (later reply).bind next

/-- The calls of an undisturbed run, and the world after it; `serve` answers one call. -/
def drive {ω : Type} (serve : ω → (request : κ) → ρ request × ω) : Process κ ρ α → List (Exchange κ ρ) → ω →
    α × List (Exchange κ ρ) × ω
  | done result, own, world => (result, own, world)
  | call request next, own, world =>
    let answer := serve world request
    (next answer.1).drive serve (own ++ [⟨request, answer.1⟩]) answer.2

end Process

/-- What the programs of a system rely on and have to keep to. A task is what a program has been started for. -/
structure Contract (ω τ κ : Type) (ρ : κ → Type) where
  /-- what others may do to the world -/
  evolves : ω → ω → Prop
  /-- a call, its reply and the world after it -/
  answers : ω → (request : κ) → ρ request → ω → Prop
  /-- the calls that a program may make, after those it has made -/
  permitted : τ → List (Exchange κ ρ) → ω → κ → Prop
  refl : ∀ world, evolves world world
  trans : ∀ {first second third}, evolves first second → evolves second third → evolves first third

namespace Process
variable {ω τ κ : Type} {ρ : κ → Type} {α β : Type} (contract : Contract ω τ κ ρ) (task : τ)

/-- The program keeps to the contract whatever others do, and ends as it should. -/
def Safe (post : α → List (Exchange κ ρ) → ω → Prop) : Process κ ρ α → List (Exchange κ ρ) → ω → Prop
  | done result, own, world => ∀ later, contract.evolves world later → post result own later
  | call request next, own, world => ∀ later, contract.evolves world later →
      contract.permitted task own later request ∧
        ∀ reply after, contract.answers later request reply after →
          (next reply).Safe post (own ++ [⟨request, reply⟩]) after

variable {contract task} {post weaker : α → List (Exchange κ ρ) → ω → Prop} {process : Process κ ρ α}
  {own : List (Exchange κ ρ)} {world : ω}

theorem Safe.mono (weaken : ∀ result own world, post result own world → weaker result own world)
    (safe : process.Safe contract task post own world) : process.Safe contract task weaker own world := by
  induction process generalizing own world with
  | done result => exact fun later evolved => weaken _ _ _ (safe later evolved)
  | call request next ih =>
    intro later evolved
    obtain ⟨permitted, goes⟩ := safe later evolved
    exact ⟨permitted, fun reply after answered => ih reply (goes reply after answered)⟩

/-- The interference that a safe program can stand includes what has happened already. -/
theorem Safe.evolve {later : ω} (evolved : contract.evolves world later)
    (safe : process.Safe contract task post own world) : process.Safe contract task post own later := by
  cases process with
  | done result | call request next => exact fun last again => safe last (contract.trans evolved again)

theorem Safe.stable (safe : process.Safe contract task post own world) :
    process.Safe contract task (fun result own world => ∀ later, contract.evolves world later → post result own later)
      own world := by
  induction process generalizing own world with
  | done result => exact fun later evolved last again => safe last (contract.trans evolved again)
  | call request next ih =>
    intro later evolved
    obtain ⟨permitted, goes⟩ := safe later evolved
    exact ⟨permitted, fun reply after answered => ih reply (goes reply after answered)⟩

theorem Safe.bind {after : β → List (Exchange κ ρ) → ω → Prop} {next : α → Process κ ρ β}
    (safe : process.Safe contract task (fun result own world => (next result).Safe contract task after own world) own world) :
    (process.bind next).Safe contract task after own world := by
  induction process generalizing own world with
  | done result => exact safe world (contract.refl world)
  | call request later ih =>
    intro now evolved
    obtain ⟨permitted, goes⟩ := safe now evolved
    exact ⟨permitted, fun reply after answered => ih reply (goes reply after answered)⟩

end Process

/-- A program with local variables, which may fail. -/
def Routine (κ : Type) (ρ : κ → Type) (σ ε α : Type) : Type := σ → Process κ ρ (Except ε (α × σ))

namespace Routine
variable {κ : Type} {ρ : κ → Type} {σ ε α β : Type}

/-- The first error ends a program. -/
instance : Monad (Routine κ ρ σ ε) where
  pure value := fun state => .done (.ok (value, state))
  bind routine next := fun state => (routine state).bind fun
    | .ok (value, state) => next value state
    | .error error => .done (.error error)

/-- One call. -/
def perform (request : κ) : Routine κ ρ σ ε (ρ request) := fun state => .call request fun reply => .done (.ok (reply, state))

def throw (error : ε) : Routine κ ρ σ ε α := fun _ => .done (.error error)

/-- `?`. -/
def ofExcept : Except ε α → Routine κ ρ σ ε α
  | .ok value => pure value
  | .error error => throw error

def get : Routine κ ρ σ ε σ := fun state => .done (.ok (state, state))

def modify (change : σ → σ) : Routine κ ρ σ ε Unit := fun state => .done (.ok ((), change state))

/-- A change that may fail. -/
def update (change : σ → Except ε σ) : Routine κ ρ σ ε Unit := fun state => .done ((change state).map fun state => ((), state))

/-- What is to hold of the value and the variables, or of the error. -/
def outcome {ω : Type} (post : α → σ → List (Exchange κ ρ) → ω → Prop) (fail : ε → List (Exchange κ ρ) → ω → Prop) :
    Except ε (α × σ) → List (Exchange κ ρ) → ω → Prop
  | .ok (value, state) => post value state
  | .error error => fail error

variable {ω τ : Type} (contract : Contract ω τ κ ρ) (task : τ)

/-- The program keeps to the contract; the first condition is met if it returns, and the second if it fails. -/
def Ensures (routine : Routine κ ρ σ ε α) (post : α → σ → List (Exchange κ ρ) → ω → Prop)
    (fail : ε → List (Exchange κ ρ) → ω → Prop) (state : σ) (own : List (Exchange κ ρ)) (world : ω) : Prop :=
  (routine state).Safe contract task (outcome post fail) own world

variable {contract task} {routine : Routine κ ρ σ ε α} {post post' : α → σ → List (Exchange κ ρ) → ω → Prop}
  {fail fail' : ε → List (Exchange κ ρ) → ω → Prop} {state : σ} {own : List (Exchange κ ρ)} {world : ω}

theorem Ensures.mono (ensures : routine.Ensures contract task post fail state own world)
    (weaken : ∀ value state own world, post value state own world → post' value state own world)
    (weaken' : ∀ error own world, fail error own world → fail' error own world) :
    routine.Ensures contract task post' fail' state own world := by
  refine Process.Safe.mono (fun result own world holds => ?_) ensures
  cases result with
  | ok result => exact weaken _ _ _ _ holds
  | error error => exact weaken' _ _ _ holds

theorem ensures_pure {value : α} (holds : ∀ later, contract.evolves world later → post value state own later) :
    (pure value : Routine κ ρ σ ε α).Ensures contract task post fail state own world :=
  holds

theorem ensures_throw {error : ε} (holds : ∀ later, contract.evolves world later → fail error own later) :
    (throw error : Routine κ ρ σ ε α).Ensures contract task post fail state own world :=
  holds

variable {after : β → σ → List (Exchange κ ρ) → ω → Prop}

/-- The rule for a part that has been specified. -/
theorem Ensures.bind {next : α → Routine κ ρ σ ε β} (ensures : routine.Ensures contract task
      (fun value state own world => (next value).Ensures contract task after fail state own world) fail state own world) :
    (routine >>= next).Ensures contract task after fail state own world := by
  refine Process.Safe.bind ((Process.Safe.stable ensures).mono fun result own world holds => ?_)
  cases result with
  | ok result => exact holds world (contract.refl world)
  | error error => exact holds

/-- The rule for a call. -/
theorem ensures_call {request : κ} {next : ρ request → Routine κ ρ σ ε β}
    (goes : ∀ later, contract.evolves world later → contract.permitted task own later request ∧
      ∀ reply last, contract.answers later request reply last →
        (next reply).Ensures contract task after fail state (own ++ [⟨request, reply⟩]) last) :
    (perform request >>= next).Ensures contract task after fail state own world :=
  goes

/-- The rule for `?`. -/
theorem ensures_ofExcept {result : Except ε α} {next : α → Routine κ ρ σ ε β}
    (goes : ∀ value, result = .ok value → (next value).Ensures contract task after fail state own world)
    (stops : ∀ error, result = .error error → ∀ later, contract.evolves world later → fail error own later) :
    (ofExcept result >>= next).Ensures contract task after fail state own world := by
  cases result with
  | ok value => exact goes value rfl
  | error error => exact stops error rfl

/-- The rule for a loop, with an invariant that knows the items that are left. -/
theorem ensures_forM {ξ : Type} {body : ξ → Routine κ ρ σ ε Unit}
    (invariant : List ξ → σ → List (Exchange κ ρ) → ω → Prop)
    (stable : ∀ {left state own world later}, contract.evolves world later → invariant left state own world →
      invariant left state own later)
    (each : ∀ item left state own world, invariant (item :: left) state own world →
      (body item).Ensures contract task (fun _ => invariant left) fail state own world)
    {items : List ξ} (start : invariant items state own world) :
    (items.forM body).Ensures contract task (fun _ => invariant []) fail state own world := by
  induction items generalizing state own world with
  | nil => exact ensures_pure fun later evolved => stable evolved start
  | cons item items ih =>
    exact Ensures.bind ((each item items state own world start).mono (fun _ _ _ _ holds => ih holds) fun _ _ _ holds => holds)

end Routine

/-- A program that has been started. -/
structure Thread (τ κ : Type) (ρ : κ → Type) (α : Type) where
  task : τ
  process : Process κ ρ α
  own : List (Exchange κ ρ)

/-- The world and the programs that are running. -/
structure Pool (ι ω τ κ : Type) (ρ : κ → Type) (α : Type) where
  world : ω
  threads : ι → Option (Thread τ κ ρ α)

namespace Pool
variable {ι ω τ κ : Type} {ρ : κ → Type} {α : Type} {contract : Contract ω τ κ ρ} {pool later : Pool ι ω τ κ ρ α}

/-- A pool in which nothing has been started. -/
def idle (world : ω) : Pool ι ω τ κ ρ α := { world, threads := fun _ => none }

/-- The world is sound, and all programs keep to the contract from here on. -/
structure Keeps (contract : Contract ω τ κ ρ) (sound : ω → Prop) (pool : Pool ι ω τ κ ρ α) : Prop where
  world : sound pool.world
  threads : ∀ place thread, pool.threads place = some thread →
    thread.process.Safe contract thread.task (fun _ _ _ => True) thread.own pool.world

theorem Keeps.idle {sound : ω → Prop} {world : ω} (holds : sound world) :
    Keeps contract sound (idle world : Pool ι ω τ κ ρ α) :=
  ⟨holds, fun _ _ running => nomatch running⟩

theorem Keeps.permitted {sound : ω → Prop} (keeps : Keeps contract sound pool) {place : ι} {task : τ} {request : κ}
    {next : ρ request → Process κ ρ α} {own : List (Exchange κ ρ)}
    (running : pool.threads place = some ⟨task, .call request next, own⟩) :
    contract.permitted task own pool.world request :=
  (keeps.threads place _ running pool.world (contract.refl _)).1

variable [DecidableEq ι]

/-- One step of a pool. A program may be stopped at any time, whether it has ended or not. -/
inductive Step (contract : Contract ω τ κ ρ) (program : τ → Process κ ρ α) (outside : ω → ω → Prop) :
    Pool ι ω τ κ ρ α → Pool ι ω τ κ ρ α → Prop where
  | start (pool : Pool ι ω τ κ ρ α) (place : ι) (task : τ) (free : pool.threads place = none) :
    Step contract program outside pool
      { pool with threads := Function.update pool.threads place (some ⟨task, program task, []⟩) }
  | advance (pool : Pool ι ω τ κ ρ α) (place : ι) (task : τ) (request : κ) (next : ρ request → Process κ ρ α)
    (own : List (Exchange κ ρ)) (reply : ρ request) (after : ω)
    (running : pool.threads place = some ⟨task, .call request next, own⟩)
    (answered : contract.answers pool.world request reply after) :
    Step contract program outside pool
      { world := after
        threads := Function.update pool.threads place (some ⟨task, next reply, own ++ [⟨request, reply⟩]⟩) }
  | stop (pool : Pool ι ω τ κ ρ α) (place : ι) :
    Step contract program outside pool { pool with threads := Function.update pool.threads place none }
  | elsewhere (pool : Pool ι ω τ κ ρ α) (after : ω) (changed : outside pool.world after) :
    Step contract program outside pool { pool with world := after }

theorem of_update {β : Type} {values : ι → β} {here place : ι} {value result : β}
    (found : Function.update values here value place = result) :
    place = here ∧ value = result ∨ place ≠ here ∧ values place = result := by
  by_cases same : place = here
  · subst same
    exact .inl ⟨rfl, by rw [← found, Function.update_self]⟩
  · exact .inr ⟨same, by rw [← found, Function.update_of_ne same]⟩

variable {program : τ → Process κ ρ α} {outside : ω → ω → Prop}

section Keeping
variable {sound : ω → Prop}
  (begins : ∀ task world, sound world → (program task).Safe contract task (fun _ _ _ => True) [] world)
  (calls : ∀ {task own world request reply after}, sound world → contract.permitted task own world request →
    contract.answers world request reply after → contract.evolves world after ∧ sound after)
  (others : ∀ {world after}, sound world → outside world after → contract.evolves world after ∧ sound after)
include begins calls others

/-- What a permitted call does, and what happens elsewhere, is interference that the others have to stand. -/
theorem Keeps.step (keeps : Keeps contract sound pool) (step : Step contract program outside pool later) :
    Keeps contract sound later := by
  cases step with
  | start here task free =>
    refine ⟨keeps.world, fun place thread running => ?_⟩
    obtain ⟨rfl, same⟩ | ⟨-, running⟩ := of_update running
    · cases same
      exact begins task pool.world keeps.world
    · exact keeps.threads place thread running
  | advance here task request next own reply after was answered =>
    obtain ⟨permitted, goes⟩ := keeps.threads here _ was pool.world (contract.refl _)
    obtain ⟨evolved, sound⟩ := calls keeps.world permitted answered
    refine ⟨sound, fun place thread running => ?_⟩
    obtain ⟨rfl, same⟩ | ⟨-, running⟩ := of_update running
    · cases same
      exact goes reply after answered
    · exact (keeps.threads place thread running).evolve evolved
  | stop here =>
    refine ⟨keeps.world, fun place thread running => ?_⟩
    obtain ⟨-, same⟩ | ⟨-, running⟩ := of_update running
    · cases same
    · exact keeps.threads place thread running
  | elsewhere after changed =>
    obtain ⟨evolved, sound⟩ := others keeps.world changed
    exact ⟨sound, fun place thread running => (keeps.threads place thread running).evolve evolved⟩

theorem Keeps.run (keeps : Keeps contract sound pool)
    (steps : Relation.ReflTransGen (Step contract program outside) pool later) : Keeps contract sound later := by
  induction steps with
  | refl => exact keeps
  | tail _ step kept => exact kept.step begins calls others step

end Keeping

section Drive
variable {serve : ω → (request : κ) → ρ request × ω}
  (honest : ∀ world request, contract.answers world request (serve world request).1 (serve world request).2)
include honest

/-- An undisturbed run of one program is a run of the pool. -/
theorem drive_steps {place : ι} {task : τ} (process : Process κ ρ α) (own : List (Exchange κ ρ))
    (running : pool.threads place = some ⟨task, process, own⟩) :
    ∃ later, Relation.ReflTransGen (Step contract program outside) pool later ∧
      later.world = (process.drive serve own pool.world).2.2 := by
  induction process generalizing pool own with
  | done result => exact ⟨pool, .refl, rfl⟩
  | call request next ih =>
    have step : Step contract program outside pool _ :=
      .advance pool place task request next own _ _ running (honest pool.world request)
    let answer := serve pool.world request
    let threads := Function.update pool.threads place (some ⟨task, next answer.1, own ++ [⟨request, answer.1⟩]⟩)
    have goes : (Pool.mk answer.2 threads).threads place = some ⟨task, next answer.1, own ++ [⟨request, answer.1⟩]⟩ :=
      Function.update_self ..
    obtain ⟨later, steps, ends⟩ := ih answer.1 _ goes
    exact ⟨later, .head step steps, ends⟩

theorem drive_from_idle (place : ι) (task : τ) (world : ω) :
    ∃ later, Relation.ReflTransGen (Step contract program outside) (idle world : Pool ι ω τ κ ρ α) later ∧
      later.world = ((program task).drive serve [] world).2.2 := by
  have start : Step contract program outside (idle world : Pool ι ω τ κ ρ α) _ := .start (idle world) place task rfl
  let threads := Function.update (idle world : Pool ι ω τ κ ρ α).threads place (some ⟨task, program task, []⟩)
  have goes : (Pool.mk world threads).threads place = some ⟨task, program task, []⟩ := Function.update_self ..
  obtain ⟨later, steps, ends⟩ := drive_steps honest (program task) [] goes
  exact ⟨later, .head start steps, ends⟩

end Drive

end Pool

end Starring.Foundation
