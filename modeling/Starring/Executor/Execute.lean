import Starring.Planning.Plan
import Starring.Planning.VirtualApply

/-! The executor of approved plans. It carries out the operations of a graph one by one
against an adapter, stops at the first failure, and can undo what has succeeded. -/

namespace Starring.Executor
open Foundation Planning

structure RoleSpec where
  name : Option String
  permissions : Option Permissions
  deriving DecidableEq

structure ChannelSpec where
  name : Option String
  channelType : Option ChannelType
  parentId : Option ChannelId
  deriving DecidableEq

inductive AdapterErrorKind where
  | rateLimited
  | timeout
  | network
  | serverError
  | forbidden
  | missingPermissions
  | roleHierarchy
  | notFound
  | badRequest
  | unknown
  deriving DecidableEq

structure AdapterError where
  kind : AdapterErrorKind
  message : String
  deriving DecidableEq

def AdapterError.isRetryable (self : AdapterError) : Bool :=
  match self.kind with
  | .rateLimited | .timeout | .network | .serverError => true
  | .forbidden | .missingPermissions | .roleHierarchy | .notFound | .badRequest | .unknown => false

/-- The trait through which Discord is reached. A call returns a value or an error, and changes what
is behind the adapter. -/
structure DiscordAdapter (σ : Type) where
  createRole : GuildId → RoleSpec → σ → Except AdapterError RoleId × σ
  updateRole : GuildId → RoleId → RoleSpec → σ → Except AdapterError Unit × σ
  deleteRole : GuildId → RoleId → σ → Except AdapterError Unit × σ
  createChannel : GuildId → ChannelSpec → σ → Except AdapterError ChannelId × σ
  updateChannel : GuildId → ChannelId → ChannelSpec → σ → Except AdapterError Unit × σ
  deleteChannel : GuildId → ChannelId → σ → Except AdapterError Unit × σ
  upsertOverwrite : GuildId → ChannelId → OverwriteTarget → Permissions → Permissions → σ →
    Except AdapterError Unit × σ

inductive Verdict where
  | allow
  | warn
  | requireApproval
  | deny
  deriving DecidableEq

inductive ApprovalState where
  | blocked
  | readyToExecute
  | pendingApproval
  | approved
  | rejected
  deriving DecidableEq

structure Rejection where
  rejectedBy : UserId
  reason : String
  deriving DecidableEq

structure ApprovalRequest where
  verdict : Verdict
  requiredApprovals : Nat
  approvals : List UserId
  rejection : Option Rejection
  deriving DecidableEq

namespace ApprovalRequest
variable (self : ApprovalRequest)

def state : ApprovalState :=
  if self.verdict = .deny then .blocked
  else if self.rejection.isSome then .rejected
  else if self.requiredApprovals = 0 then .readyToExecute
  else if self.approvals.length ≥ self.requiredApprovals then .approved
  else .pendingApproval

def canExecute : Bool :=
  match self.state with
  | .readyToExecute | .approved => true
  | .blocked | .pendingApproval | .rejected => false

end ApprovalRequest

structure ApprovedExecutionRequest where
  operationGraph : OperationGraph
  normalized : NormalizedDesiredState
  approval : ApprovalRequest
  snapshot : GuildState
  guildId : GuildId

inductive ExecutorError where
  | notApproved
  | graphCycle
  deriving DecidableEq

inductive StepOutcome where
  | success
  | failedRetryable (error : AdapterError)
  | failedFatal (error : AdapterError)
  | skipped
  deriving DecidableEq

inductive CreatedResource where
  | role (key : ResourceKey) (id : RoleId)
  | channel (key : ResourceKey) (id : ChannelId)
  deriving DecidableEq

inductive RollbackAction where
  | deleteRole (id : RoleId)
  | restoreRole (id : RoleId) (before : Role)
  | recreateRole (before : Role)
  | deleteChannel (id : ChannelId)
  | restoreChannel (id : ChannelId) (before : Channel)
  | recreateChannel (before : Channel)
  | restoreOverwrite (channel : ChannelId) (target : OverwriteTarget) (before : Option PermissionOverwrite)
  deriving DecidableEq

structure StepResult where
  opId : OpId
  outcome : StepOutcome
  created : Option CreatedResource
  rollback : Option RollbackAction
  deriving DecidableEq

inductive JobStatus where
  | succeeded
  | failed
  deriving DecidableEq

structure JobResult where
  status : JobStatus
  steps : List StepResult
  deriving DecidableEq

def failOutcome (error : AdapterError) : StepOutcome :=
  if error.isRetryable then .failedRetryable error else .failedFatal error

end Starring.Executor

namespace Starring.Planning

def ResolutionError.text : ResolutionError → String
  | unresolvedKey key => "unresolved key: " ++ key
  | missingIdentity key => "missing identity for key: " ++ key

end Starring.Planning

namespace Starring.Executor
open Foundation Planning

def resolutionStep (opId : OpId) (error : ResolutionError) : StepResult :=
  { opId, outcome := .failedFatal { kind := .unknown, message := "unresolved: " ++ error.text }, created := none
    rollback := none }

/-- A step, with the context and the state of the adapter after it. -/
structure Progress (σ : Type) where
  step : StepResult
  context : ResourceResolutionContext
  adapter : σ

section
variable {σ : Type} (opId : OpId)

/-- A call that creates something has been answered. -/
def created {ι : Type} (context : ResourceResolutionContext) (reply : Except AdapterError ι × σ)
    (resource : ι → CreatedResource) (undo : ι → RollbackAction) (bind : ι → ResourceResolutionContext) : Progress σ :=
  match reply.1 with
  | .ok id =>
    { step := { opId, outcome := .success, created := some (resource id), rollback := some (undo id) }
      context := bind id, adapter := reply.2 }
  | .error error =>
    { step := { opId, outcome := failOutcome error, created := none, rollback := none }, context, adapter := reply.2 }

/-- A call that changes something has been answered. -/
def changed (context : ResourceResolutionContext) (reply : Except AdapterError Unit × σ)
    (undo : Option RollbackAction) : Progress σ :=
  match reply.1 with
  | .ok _ => { step := { opId, outcome := .success, created := none, rollback := undo }, context, adapter := reply.2 }
  | .error error =>
    { step := { opId, outcome := failOutcome error, created := none, rollback := none }, context, adapter := reply.2 }

/-- A key is looked up first, and the step ends if it cannot be resolved. -/
def resolving {ι : Type} (context : ResourceResolutionContext) (state : σ)
    (resolved : Except ResolutionError (ι × ResourceResolutionContext))
    (next : ι → ResourceResolutionContext → Progress σ) : Progress σ :=
  match resolved with
  | .ok (id, context) => next id context
  | .error error => { step := resolutionStep opId error, context, adapter := state }

variable (adapter : DiscordAdapter σ) (snapshot : GuildState) (guild : GuildId)

def runCreateChannel (key : ResourceKey) (name : Option String) (channelType : Option ChannelType)
    (parentId : Option ChannelId) (context : ResourceResolutionContext) (state : σ) : Progress σ :=
  created opId context (adapter.createChannel guild { name, channelType, parentId } state) (.channel key) .deleteChannel
    (context.bindChannel key)

def runOverwrite (channel : ResourceKey) (target : NormalizedTarget) (allow deny : Permissions)
    (context : ResourceResolutionContext) (state : σ) : Progress σ :=
  resolving opId context state (context.resolveChannelKey channel) fun channelId context =>
    resolving opId context state (context.resolveTarget target) fun target context =>
      let before := (snapshot.channels.find? fun held => held.id = channelId).bind fun held =>
        held.overwrites.find? fun overwrite => overwrite.target = target
      changed opId context (adapter.upsertOverwrite guild channelId target allow deny state)
        (some (.restoreOverwrite channelId target before))

def runOp (operation : Operation) (context : ResourceResolutionContext) (state : σ) : Progress σ :=
  match operation with
  | .createRole key name permissions =>
    created opId context (adapter.createRole guild { name, permissions } state) (.role key) .deleteRole
      (context.bindRole key)
  | .updateRole key name permissions =>
    resolving opId context state (context.resolveRoleKey key) fun id context =>
      let before := snapshot.roles.find? fun role => role.id = id
      changed opId context (adapter.updateRole guild id { name, permissions } state) (before.map (.restoreRole id))
  | .deleteRole key =>
    resolving opId context state (context.resolveRoleKey key) fun id context =>
      let before := snapshot.roles.find? fun role => role.id = id
      changed opId context (adapter.deleteRole guild id state) (before.map .recreateRole)
  | .createChannel key name channelType parent =>
    match parent with
    | some parent =>
      resolving opId context state (context.resolveChannelKey parent) fun parentId context =>
        runCreateChannel opId adapter guild key name channelType (some parentId) context state
    | none => runCreateChannel opId adapter guild key name channelType none context state
  | .updateChannel key name channelType =>
    resolving opId context state (context.resolveChannelKey key) fun id context =>
      let before := snapshot.channels.find? fun channel => channel.id = id
      changed opId context (adapter.updateChannel guild id { name, channelType, parentId := none } state)
        (before.map (.restoreChannel id))
  | .deleteChannel key =>
    resolving opId context state (context.resolveChannelKey key) fun id context =>
      let before := snapshot.channels.find? fun channel => channel.id = id
      changed opId context (adapter.deleteChannel guild id state) (before.map .recreateChannel)
  | .createOverwrite channel target allow deny | .updateOverwrite channel target allow deny =>
    runOverwrite opId adapter snapshot guild channel target allow deny context state

end

structure Job (σ : Type) where
  steps : List StepResult
  stopped : Bool
  context : ResourceResolutionContext
  adapter : σ

section
variable {σ : Type} (adapter : DiscordAdapter σ) (request : ApprovedExecutionRequest)

def runNode (job : Job σ) (node : OperationNode) : Job σ :=
  if job.stopped then
    { job with
      steps := job.steps ++ [{ opId := node.id, outcome := .skipped, created := none, rollback := none }] }
  else
    let progress := runOp node.id adapter request.snapshot request.guildId node.operation job.context job.adapter
    { steps := job.steps ++ [progress.step], stopped := progress.step.outcome ≠ .success, context := progress.context
      adapter := progress.adapter }

/-- An id that no node has is passed over. -/
def runId (job : Job σ) (id : OpId) : Job σ :=
  match request.operationGraph.nodes.find? fun node => node.id = id with
  | some node => runNode adapter request job node
  | none => job

def execute (state : σ) : Except ExecutorError JobResult × σ :=
  if !request.approval.canExecute then (.error .notApproved, state)
  else
    match request.operationGraph.topologicalOrder with
    | .error _ => (.error .graphCycle, state)
    | .ok order =>
      let context := ResourceResolutionContext.new request.normalized (inMemoryMatchResolver request.snapshot)
        request.guildId
      let job := order.foldl (runId adapter request) { steps := [], stopped := false, context, adapter := state }
      (.ok { status := if job.stopped then .failed else .succeeded, steps := job.steps }, job.adapter)

theorem foldl_runId (order : List OpId) (job : Job σ) :
    order.foldl (runId adapter request) job =
      (request.operationGraph.nodesOf order).foldl (runNode adapter request) job := by
  induction order generalizing job with
  | nil => rfl
  | cons id order ih =>
    rw [List.foldl_cons, OperationGraph.nodesOf_cons, List.foldl_append, ih, runId]
    cases request.operationGraph.nodes.find? fun node => node.id = id <;> rfl

theorem execute_eq {order : List OpId} (approved : request.approval.canExecute = true)
    (ordered : request.operationGraph.topologicalOrder = .ok order) (state : σ) :
    ∃ job, (request.operationGraph.nodesOf order).foldl (runNode adapter request)
        { steps := [], stopped := false, adapter := state
          context := .new request.normalized (inMemoryMatchResolver request.snapshot) request.guildId } = job ∧
      execute adapter request state =
        (.ok { status := if job.stopped then .failed else .succeeded, steps := job.steps }, job.adapter) := by
  refine ⟨_, rfl, ?_⟩
  rw [execute, approved, ordered, ← foldl_runId]
  rfl

theorem execute_inv {state last : σ} {result : JobResult} (executed : execute adapter request state = (.ok result, last)) :
    ∃ order job, (request.operationGraph.nodesOf order).foldl (runNode adapter request)
        { steps := [], stopped := false, adapter := state
          context := .new request.normalized (inMemoryMatchResolver request.snapshot) request.guildId } = job ∧
      result = { status := if job.stopped then .failed else .succeeded, steps := job.steps } ∧ last = job.adapter := by
  cases approved : request.approval.canExecute with
  | false =>
    rw [execute, approved] at executed
    cases executed
  | true =>
    cases ordered : request.operationGraph.topologicalOrder with
    | error error =>
      rw [execute, approved, ordered] at executed
      cases executed
    | ok order =>
      obtain ⟨job, ran, same⟩ := execute_eq adapter request approved ordered state
      obtain ⟨result_, last_⟩ := Prod.mk.inj (executed.symm.trans same)
      exact ⟨order, job, ran, Except.ok.inj result_, last_⟩

end

inductive RollbackStatus where
  | notRequired
  | succeeded
  | incomplete
  | failed
  deriving DecidableEq

inductive RollbackOutcome where
  | undone
  | failed (error : AdapterError)
  | skipped (reason : String)
  deriving DecidableEq

structure RollbackStepResult where
  sourceOpId : OpId
  action : RollbackAction
  outcome : RollbackOutcome
  deriving DecidableEq

structure RollbackReport where
  status : RollbackStatus
  steps : List RollbackStepResult
  deriving DecidableEq

structure JobRun where
  job : JobResult
  rollback : RollbackReport
  deriving DecidableEq

def RollbackOutcome.ofReply {α : Type} : Except AdapterError α → RollbackOutcome
  | .ok _ => undone
  | .error error => failed error

def rollbackStatus (steps : List RollbackStepResult) : RollbackStatus :=
  if steps = [] then .notRequired
  else if steps.all fun step => step.outcome matches .undone then .succeeded
  else if steps.all fun step => step.outcome matches .failed _ then .failed
  else .incomplete

section
variable {σ : Type}

def answered {α : Type} (reply : Except AdapterError α × σ) : RollbackOutcome × σ := (.ofReply reply.1, reply.2)

variable (adapter : DiscordAdapter σ) (guild : GuildId)

/-- A recreated resource gets another id, which nobody keeps. -/
def runRollback (action : RollbackAction) (state : σ) : RollbackOutcome × σ :=
  match action with
  | .deleteRole id => answered (adapter.deleteRole guild id state)
  | .restoreRole id before =>
    answered (adapter.updateRole guild id { name := some before.name, permissions := some before.permissions } state)
  | .recreateRole before =>
    answered (adapter.createRole guild { name := some before.name, permissions := some before.permissions } state)
  | .deleteChannel id => answered (adapter.deleteChannel guild id state)
  | .restoreChannel id before =>
    answered (adapter.updateChannel guild id
      { name := some before.name, channelType := some before.channelType, parentId := before.parentId } state)
  | .recreateChannel before =>
    answered (adapter.createChannel guild
      { name := some before.name, channelType := some before.channelType, parentId := before.parentId } state)
  | .restoreOverwrite channel target before =>
    match before with
    | some overwrite => answered (adapter.upsertOverwrite guild channel target overwrite.allow overwrite.deny state)
    | none => (.skipped "delete overwrite is not supported in Phase 15", state)

def rollbackStep (progress : List RollbackStepResult × σ) (step : StepResult) : List RollbackStepResult × σ :=
  match step.outcome, step.rollback with
  | .success, some action =>
    let reply := runRollback adapter guild action progress.2
    (progress.1 ++ [{ sourceOpId := step.opId, action, outcome := reply.1 }], reply.2)
  | _, _ => progress

def rollback (job : JobResult) (state : σ) : RollbackReport × σ :=
  let progress := job.steps.reverse.foldl (rollbackStep adapter guild) ([], state)
  ({ status := rollbackStatus progress.1, steps := progress.1 }, progress.2)

def executeWithRollback (request : ApprovedExecutionRequest) (state : σ) : Except ExecutorError JobRun × σ :=
  match execute adapter request state with
  | (.error error, state) => (.error error, state)
  | (.ok job, state) =>
    match job.status with
    | .succeeded => (.ok { job, rollback := { status := .notRequired, steps := [] } }, state)
    | .failed =>
      let report := rollback adapter request.guildId job state
      (.ok { job, rollback := report.1 }, report.2)

end

end Starring.Executor
