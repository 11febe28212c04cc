import Starring.Executor.Rollback

/-! The calls that a job makes. Whatever the adapter answers, there is one call for each
operation up to the first that fails, and a job that failed is followed by the calls that
undo its steps, the last step first. -/

namespace Starring.Executor
open Foundation Planning List

inductive AdapterCall where
  | createRole (guild : GuildId) (spec : RoleSpec)
  | updateRole (guild : GuildId) (id : RoleId) (spec : RoleSpec)
  | deleteRole (guild : GuildId) (id : RoleId)
  | createChannel (guild : GuildId) (spec : ChannelSpec)
  | updateChannel (guild : GuildId) (id : ChannelId) (spec : ChannelSpec)
  | deleteChannel (guild : GuildId) (id : ChannelId)
  | upsertOverwrite (guild : GuildId) (channel : ChannelId) (target : OverwriteTarget) (allow deny : Permissions)

section
variable {σ : Type}

def noting {α : Type} (call : AdapterCall) (serve : σ → Except AdapterError α × σ) (state : σ × List AdapterCall) :
    Except AdapterError α × σ × List AdapterCall :=
  ((serve state.1).1, (serve state.1).2, state.2 ++ [call])

/-- The adapter with a log of the calls it has got. -/
def DiscordAdapter.recorded (adapter : DiscordAdapter σ) : DiscordAdapter (σ × List AdapterCall) where
  createRole guild spec := noting (.createRole guild spec) (adapter.createRole guild spec)
  updateRole guild id spec := noting (.updateRole guild id spec) (adapter.updateRole guild id spec)
  deleteRole guild id := noting (.deleteRole guild id) (adapter.deleteRole guild id)
  createChannel guild spec := noting (.createChannel guild spec) (adapter.createChannel guild spec)
  updateChannel guild id spec := noting (.updateChannel guild id spec) (adapter.updateChannel guild id spec)
  deleteChannel guild id := noting (.deleteChannel guild id) (adapter.deleteChannel guild id)
  upsertOverwrite guild channel target allow deny :=
    noting (.upsertOverwrite guild channel target allow deny) (adapter.upsertOverwrite guild channel target allow deny)

end

/-- What an operation asks for, of the resource that its key stands for. -/
def Asks (guild : GuildId) : Operation → AdapterCall → Prop
  | .createRole _ name permissions, call => call = .createRole guild { name, permissions }
  | .updateRole _ name permissions, call => ∃ id, call = .updateRole guild id { name, permissions }
  | .deleteRole _, call => ∃ id, call = .deleteRole guild id
  | .createChannel _ name channelType parent, call =>
    ∃ parentId, parentId.isSome = parent.isSome ∧ call = .createChannel guild { name, channelType, parentId }
  | .updateChannel _ name channelType, call => ∃ id, call = .updateChannel guild id { name, channelType, parentId := none }
  | .deleteChannel _, call => ∃ id, call = .deleteChannel guild id
  | .createOverwrite _ _ allow deny, call | .updateOverwrite _ _ allow deny, call =>
    ∃ channel target, call = .upsertOverwrite guild channel target allow deny

/-- A step is undone by deleting what it has created or by putting back what the snapshot has. -/
def StepResult.Reversible (snapshot : GuildState) (step : StepResult) : Prop :=
  match step.rollback with
  | none => True
  | some (.deleteRole id) => ∃ key, step.created = some (.role key id)
  | some (.deleteChannel id) => ∃ key, step.created = some (.channel key id)
  | some action => action.Captured snapshot

/-- What became of an operation, with the call that was made for it, if any. -/
inductive Tried (snapshot : GuildState) (guild : GuildId) (opId : OpId) (operation : Operation) :
    StepResult → List AdapterCall → Prop where
  | success {step call} (asked : Asks guild operation call) (named : step.opId = opId)
      (succeeded : step.outcome = .success) (reversible : step.Reversible snapshot) :
      Tried snapshot guild opId operation step [call]
  | failure (attempt : Option AdapterCall) (error : AdapterError) (asked : ∀ call ∈ attempt, Asks guild operation call) :
      Tried snapshot guild opId operation ⟨opId, failOutcome error, none, none⟩ attempt.toList

/-- The steps of a job over its nodes and the calls it makes. It is stopped by the first failure, and skips the rest. -/
inductive Trace (snapshot : GuildState) (guild : GuildId) :
    Bool → List OperationNode → List StepResult → List AdapterCall → Bool → Prop where
  | done {stopped} : Trace snapshot guild stopped [] [] [] stopped
  | skip {node nodes steps calls last} (rest : Trace snapshot guild true nodes steps calls last) :
      Trace snapshot guild true (node :: nodes) (⟨node.id, .skipped, none, none⟩ :: steps) calls last
  | run {node nodes step steps calls later last} (tried : Tried snapshot guild node.id node.operation step calls)
      (rest : Trace snapshot guild (step.outcome ≠ .success) nodes steps later last) :
      Trace snapshot guild false (node :: nodes) (step :: steps) (calls ++ later) last

section
variable {σ : Type} {snapshot : GuildState} {guild : GuildId} {opId : OpId} {operation : Operation}
  {context : ResourceResolutionContext} {state : σ × List AdapterCall} {call : AdapterCall}

variable (snapshot guild opId operation state) in
def Progress.Follows (progress : Progress (σ × List AdapterCall)) : Prop :=
  ∃ calls, progress.adapter.2 = state.2 ++ calls ∧ Tried snapshot guild opId operation progress.step calls

theorem follows_created {ι : Type} {serve : σ → Except AdapterError ι × σ} {resource : ι → CreatedResource}
    {undo : ι → RollbackAction} {bind : ι → ResourceResolutionContext} (asked : Asks guild operation call)
    (reversible : ∀ id, StepResult.Reversible snapshot ⟨opId, .success, some (resource id), some (undo id)⟩) :
    (created opId context (noting call serve state) resource undo bind).Follows snapshot guild opId operation state := by
  rw [created, noting]
  cases (serve state.1).1 with
  | ok id => exact ⟨[call], rfl, .success asked rfl rfl (reversible id)⟩
  | error error => exact ⟨[call], rfl, .failure (some call) error fun _ same => Option.some.inj same ▸ asked⟩

theorem follows_changed {serve : σ → Except AdapterError Unit × σ} {undo : Option RollbackAction}
    (asked : Asks guild operation call) (reversible : StepResult.Reversible snapshot ⟨opId, .success, none, undo⟩) :
    (changed opId context (noting call serve state) undo).Follows snapshot guild opId operation state := by
  rw [changed, noting]
  cases (serve state.1).1 with
  | ok _ => exact ⟨[call], rfl, .success asked rfl rfl reversible⟩
  | error error => exact ⟨[call], rfl, .failure (some call) error fun _ same => Option.some.inj same ▸ asked⟩

theorem follows_resolving {ι : Type} {resolved : Except ResolutionError (ι × ResourceResolutionContext)}
    {next : ι → ResourceResolutionContext → Progress (σ × List AdapterCall)}
    (follows : ∀ id context, (next id context).Follows snapshot guild opId operation state) :
    (resolving opId context state resolved next).Follows snapshot guild opId operation state := by
  cases resolved with
  | ok found => exact follows found.1 found.2
  | error error =>
    refine ⟨[], (append_nil state.2).symm, .failure none ⟨.unknown, "unresolved: " ++ error.text⟩ ?_⟩
    simp

theorem follows_runCreateChannel {adapter : DiscordAdapter σ} {key : ResourceKey} {name : Option String}
    {channelType : Option ChannelType} {parent : Option ResourceKey} {parentId : Option ChannelId}
    (given : parentId.isSome = parent.isSome) :
    (runCreateChannel opId adapter.recorded guild key name channelType parentId context state).Follows snapshot guild opId
      (.createChannel key name channelType parent) state :=
  follows_created ⟨parentId, given, rfl⟩ fun _ => ⟨key, rfl⟩

theorem reversible_found {α : Type} {rows : List α} {condition : α → Bool} {action : α → RollbackAction}
    (each : ∀ row, rows.find? condition = some row →
      StepResult.Reversible snapshot ⟨opId, .success, none, some (action row)⟩) :
    StepResult.Reversible snapshot ⟨opId, .success, none, (rows.find? condition).map action⟩ := by
  cases found : rows.find? condition with
  | none => trivial
  | some row => exact each row found

variable (snapshot guild opId context state) in
theorem follows_runOp (adapter : DiscordAdapter σ) (operation : Operation) :
    (runOp opId adapter.recorded snapshot guild operation context state).Follows snapshot guild opId operation state := by
  cases operation with
  | createRole key name permissions => exact follows_created rfl fun _ => ⟨key, rfl⟩
  | createChannel key name channelType parent =>
    cases parent with
    | none => exact follows_runCreateChannel rfl
    | some parent => exact follows_resolving fun id _ => follows_runCreateChannel rfl
  | updateRole key name permissions | updateChannel key name channelType =>
    exact follows_resolving fun id _ => follows_changed ⟨id, rfl⟩ (reversible_found fun _ found => found)
  | deleteRole key | deleteChannel key =>
    refine follows_resolving fun id _ => follows_changed ⟨id, rfl⟩ (reversible_found fun row found => ?_)
    obtain rfl : row.id = id := by simpa using find?_some found
    exact found
  | createOverwrite channel target allow deny | updateOverwrite channel target allow deny =>
    exact follows_resolving fun id _ => follows_resolving fun target _ => follows_changed ⟨id, target, rfl⟩ rfl

end

section
variable {σ : Type} (adapter : DiscordAdapter σ) (request : ApprovedExecutionRequest)

theorem foldl_runNode_trace (nodes : List OperationNode) (job : Job (σ × List AdapterCall)) :
    ∃ steps calls, Trace request.snapshot request.guildId job.stopped nodes steps calls
        (nodes.foldl (runNode adapter.recorded request) job).stopped ∧
      (nodes.foldl (runNode adapter.recorded request) job).steps = job.steps ++ steps ∧
      (nodes.foldl (runNode adapter.recorded request) job).adapter.2 = job.adapter.2 ++ calls := by
  induction nodes generalizing job with
  | nil => exact ⟨[], [], .done, (append_nil _).symm, (append_nil _).symm⟩
  | cons node nodes ih =>
    obtain ⟨steps, later, trace, sameSteps, sameCalls⟩ := ih (runNode adapter.recorded request job node)
    rw [foldl_cons, sameSteps, sameCalls]
    cases active : job.stopped with
    | true =>
      simp only [runNode, active, if_true] at trace ⊢
      exact ⟨_, later, .skip trace, append_assoc _ _ _, rfl⟩
    | false =>
      obtain ⟨calls, logged, tried⟩ :=
        follows_runOp request.snapshot request.guildId node.id job.context job.adapter adapter node.operation
      simp only [runNode, active, Bool.false_eq_true, if_false] at trace ⊢
      exact ⟨_, calls ++ later, .run tried trace, append_assoc _ _ _, by rw [logged, append_assoc]⟩

end

/-- The calls that a rollback action makes: none only for an overwrite that was not there. -/
def RollbackAction.calls (guild : GuildId) : RollbackAction → List AdapterCall
  | deleteRole id => [.deleteRole guild id]
  | restoreRole id before => [.updateRole guild id ⟨some before.name, some before.permissions⟩]
  | recreateRole before => [.createRole guild ⟨some before.name, some before.permissions⟩]
  | deleteChannel id => [.deleteChannel guild id]
  | restoreChannel id before => [.updateChannel guild id (restoringSpec before)]
  | recreateChannel before => [.createChannel guild (restoringSpec before)]
  | restoreOverwrite channel target before =>
    before.toList.map fun overwrite => .upsertOverwrite guild channel target overwrite.allow overwrite.deny

section
variable {σ : Type} (adapter : DiscordAdapter σ) (guild : GuildId)

theorem runRollback_calls (action : RollbackAction) (state : σ × List AdapterCall) :
    (runRollback adapter.recorded guild action state).2.2 = state.2 ++ action.calls guild := by
  cases action with
  | restoreOverwrite channel target before =>
    cases before with
    | none => exact (append_nil state.2).symm
    | some overwrite => rfl
  | _ => rfl

theorem rollbackStep_calls (progress : List RollbackStepResult × σ × List AdapterCall) (step : StepResult) :
    (rollbackStep adapter.recorded guild progress step).1.map RollbackStepResult.action =
        progress.1.map RollbackStepResult.action ++ step.undo.toList ∧
      (rollbackStep adapter.recorded guild progress step).2.2 =
        progress.2.2 ++ step.undo.toList.flatMap (RollbackAction.calls guild) := by
  rw [rollbackStep, StepResult.undo]
  split
  next action succeeded recorded => simp [succeeded, recorded, runRollback_calls]
  next differs =>
    cases outcome : step.outcome <;> cases recorded : step.rollback <;> simp
    exact differs _ outcome recorded

/-- A rollback tries every action that was recorded, the last first, whatever has become of those before it. -/
theorem rollback_calls (steps : List StepResult) (progress : List RollbackStepResult × σ × List AdapterCall) :
    (steps.foldl (rollbackStep adapter.recorded guild) progress).1.map RollbackStepResult.action =
        progress.1.map RollbackStepResult.action ++ steps.filterMap StepResult.undo ∧
      (steps.foldl (rollbackStep adapter.recorded guild) progress).2.2 =
        progress.2.2 ++ (steps.filterMap StepResult.undo).flatMap (RollbackAction.calls guild) := by
  induction steps generalizing progress with
  | nil => simp
  | cons step steps ih =>
    obtain ⟨tried, called⟩ := rollbackStep_calls adapter guild progress step
    obtain ⟨later, laterCalls⟩ := ih (rollbackStep adapter.recorded guild progress step)
    rw [foldl_cons, later, laterCalls, tried, called]
    cases undo : step.undo <;> simp [undo]

variable (request : ApprovedExecutionRequest)

theorem execute_trace (state : σ) (log : List AdapterCall) :
    (∃ error, execute adapter.recorded request (state, log) = (.error error, state, log)) ∨
    ∃ result last order calls stopped, execute adapter.recorded request (state, log) = (.ok result, last) ∧
      request.approval.canExecute = true ∧ request.operationGraph.topologicalOrder = .ok order ∧
      Trace request.snapshot request.guildId false (request.operationGraph.nodesOf order) result.steps calls stopped ∧
      result.status = (if stopped then .failed else .succeeded) ∧ last.2 = log ++ calls := by
  cases approved : request.approval.canExecute with
  | false => exact .inl ⟨.notApproved, by rw [execute, approved]; rfl⟩
  | true =>
    cases ordered : request.operationGraph.topologicalOrder with
    | error error => exact .inl ⟨.graphCycle, by rw [execute, approved, ordered]; rfl⟩
    | ok order =>
      obtain ⟨job, ran, same⟩ := execute_eq adapter.recorded request approved ordered (state, log)
      obtain ⟨steps, calls, trace, sameSteps, sameCalls⟩ := foldl_runNode_trace adapter request
        (request.operationGraph.nodesOf order) ⟨[], false,
          .new request.normalized (inMemoryMatchResolver request.snapshot) request.guildId, (state, log)⟩
      rw [ran] at trace sameSteps sameCalls
      obtain rfl : job.steps = steps := sameSteps
      exact .inr ⟨_, _, order, calls, job.stopped, same, rfl, rfl, trace, rfl, sameCalls⟩

end

end Starring.Executor
