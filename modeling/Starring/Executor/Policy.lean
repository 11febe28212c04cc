import Starring.Executor.Trace
import Starring.Foundation.Runs

/-! The policy that judges a graph, the approval of what it has judged, and what the two of
them guarantee about the calls of a job. -/

namespace Starring.Executor
open Foundation Planning List ApprovalRequest

def Verdict.rank : Verdict → Nat
  | allow => 0
  | warn => 1
  | requireApproval => 2
  | deny => 3

theorem Verdict.rank_injective : Function.Injective rank := by
  intro first second same
  cases first <;> cases second <;> first | rfl | cases same

instance : LinearOrder Verdict := LinearOrder.lift' Verdict.rank Verdict.rank_injective

structure Finding where
  ruleId : String
  verdict : Verdict
  target : String
  message : String

structure PolicyDecision where
  verdict : Verdict
  findings : List Finding

structure PolicyRule where
  id : String
  evaluate : OperationGraph → List Finding

/-- The rules look at one operation after the other. -/
def PolicyRule.flagging (id : String) (flag : String → Operation → Option Finding) : PolicyRule where
  id := id
  evaluate graph := graph.nodes.filterMap fun node => flag id node.operation

def privilegedMask : Permissions :=
  [.manageGuild, .manageRoles, .manageChannels, .kickMembers, .banMembers, .mentionEveryone, .moderateMembers].foldl
    Permissions.union .administrator

/-- The permissions that an operation grants, and to what. -/
def granted : Operation → Option (Permissions × String)
  | .createRole key _ permissions | .updateRole key _ permissions => permissions.map (·, "role:" ++ key.value)
  | .createOverwrite channel _ allow _ | .updateOverwrite channel _ allow _ => some (allow, "overwrite:" ++ channel.value)
  | _ => none

def privilegedPermissionRule : PolicyRule :=
  .flagging "privileged-permission" fun ruleId operation => (granted operation).bind fun grant =>
    if grant.1.intersects privilegedMask then
      some { ruleId, verdict := .deny, target := grant.2, message := "privileged permission granted" }
    else none

def destructiveOperationRule : PolicyRule :=
  .flagging "destructive-operation" fun ruleId operation =>
    match operation with
    | .deleteRole key =>
      some { ruleId, verdict := .requireApproval, target := "role:" ++ key.value, message := "role deletion" }
    | .deleteChannel key =>
      some { ruleId, verdict := .requireApproval, target := "channel:" ++ key.value, message := "channel deletion" }
    | _ => none

def everyoneChangeRule : PolicyRule :=
  .flagging "everyone-change" fun ruleId operation =>
    match operation with
    | .createOverwrite channel .everyone _ _ | .updateOverwrite channel .everyone _ _ =>
      some { ruleId, verdict := .requireApproval, target := "overwrite:" ++ channel.value ++ ":everyone",
             message := "changes @everyone access" }
    | _ => none

def evaluate (rules : List PolicyRule) (graph : OperationGraph) : PolicyDecision :=
  let findings := rules.flatMap fun rule => rule.evaluate graph
  { verdict := (findings.map Finding.verdict).max?.getD .allow, findings }

def withDefaultRules : List PolicyRule := [privilegedPermissionRule, destructiveOperationRule, everyoneChangeRule]

inductive ApprovalError where
  | blocked
  | alreadyRejected
  | alreadyApproved
  | duplicateApproval
  | notRequired
  deriving DecidableEq

def requiredFor : Verdict → Nat
  | .allow | .warn | .deny => 0
  | .requireApproval => 1

namespace ApprovalRequest

def new (verdict : Verdict) : ApprovalRequest :=
  { verdict, requiredApprovals := requiredFor verdict, approvals := [], rejection := none }

def gate (self : ApprovalRequest) : Except ApprovalError Unit :=
  match self.state with
  | .blocked => .error .blocked
  | .rejected => .error .alreadyRejected
  | .readyToExecute => .error .notRequired
  | .approved => .error .alreadyApproved
  | .pendingApproval => .ok ()

def approve (self : ApprovalRequest) (user : UserId) : Except ApprovalError Unit × ApprovalRequest :=
  match self.gate with
  | .error error => (.error error, self)
  | .ok _ =>
    if user ∈ self.approvals then (.error .duplicateApproval, self)
    else (.ok (), { self with approvals := self.approvals ++ [user] })

def reject (self : ApprovalRequest) (user : UserId) (reason : String) : Except ApprovalError Unit × ApprovalRequest :=
  match self.gate with
  | .error error => (.error error, self)
  | .ok _ => (.ok (), { self with rejection := some { rejectedBy := user, reason } })

end ApprovalRequest

inductive ApprovalCall where
  | approve (user : UserId)
  | reject (user : UserId) (reason : String)

def ApprovalCall.serve : ApprovalCall → ApprovalRequest → Except ApprovalError Unit × ApprovalRequest
  | approve user, request => request.approve user
  | reject user reason, request => request.reject user reason

open ApprovalCall

/-- A request that needs nobody, or has been decided, serves no call. -/
theorem serve_settled {request : ApprovalRequest} (settled : request.state ≠ .pendingApproval) (call : ApprovalCall) :
    ∃ error, call.serve request = (.error error, request) := by
  have closed : ∃ error, request.gate = .error error := by
    rw [gate]
    cases same : request.state <;> first | exact absurd same settled | exact ⟨_, rfl⟩
  obtain ⟨error, closed⟩ := closed
  cases call <;> exact ⟨error, by simp only [serve, ApprovalRequest.approve, ApprovalRequest.reject, closed]⟩

theorem run_settled {request : ApprovalRequest} (settled : request.state ≠ .pendingApproval) (calls : List ApprovalCall) :
    final serve request calls = request ∧
      ∀ event ∈ history serve request calls, event.answer ≠ .ok () ∧ event.after = request := by
  induction calls with
  | nil => exact ⟨rfl, fun _ mem => absurd mem not_mem_nil⟩
  | cons call calls ih =>
    obtain ⟨error, served⟩ := serve_settled settled call
    simpa [final, history, event, served] using ih

/-- What lets a request with this verdict be executed after these calls. -/
def Cleared (verdict : Verdict) (calls : List ApprovalCall) : Prop :=
  verdict = .allow ∨ verdict = .warn ∨ verdict = .requireApproval ∧ ∃ user rest, calls = .approve user :: rest

/-- Whatever the verdict, a request is settled by the first call on it. -/
theorem settled_serve (verdict : Verdict) (call : ApprovalCall) (calls : List ApprovalCall) :
    (call.serve (new verdict)).2.state ≠ .pendingApproval ∧
      ((call.serve (new verdict)).2.canExecute = true ↔ Cleared verdict (call :: calls)) := by
  cases verdict <;> cases call <;>
    simp [serve, ApprovalRequest.approve, ApprovalRequest.reject, gate, new, state, canExecute, requiredFor, Cleared]

theorem canExecute_final (verdict : Verdict) (calls : List ApprovalCall) :
    (final serve (new verdict) calls).canExecute = true ↔ Cleared verdict calls := by
  cases calls with
  | nil => cases verdict <;> simp [final, Cleared] <;> decide
  | cons call calls =>
    obtain ⟨settled, can⟩ := settled_serve verdict call calls
    rw [final, (run_settled settled calls).1, can]

/-- The first call decides; every later one is refused and changes nothing. -/
theorem approval_decided_once (verdict : Verdict) (calls : List ApprovalCall) :
    ((final serve (new verdict) calls).canExecute = true ↔ Cleared verdict calls) ∧
    ∀ event ∈ (history serve (new verdict) calls).tail, event.answer ≠ .ok () ∧
      event.after = final serve (new verdict) calls := by
  refine ⟨canExecute_final verdict calls, ?_⟩
  cases calls with
  | nil => exact fun _ mem => absurd mem not_mem_nil
  | cons call calls =>
    obtain ⟨same, refused⟩ := run_settled (settled_serve verdict call calls).1 calls
    exact fun event mem => ⟨(refused event mem).1, (refused event mem).2.trans same.symm⟩

def privileged (operation : Operation) : Bool := (granted operation).any fun grant => grant.1.intersects privilegedMask

/-- Operations that delete something or change what everyone may do in a channel. -/
def sensitive : Operation → Bool
  | .deleteRole _ | .deleteChannel _ | .createOverwrite _ .everyone _ _ | .updateOverwrite _ .everyone _ _ => true
  | _ => false

theorem mem_verdicts (graph : OperationGraph) (verdict : Verdict) :
    verdict ∈ (evaluate withDefaultRules graph).findings.map Finding.verdict ↔ ∃ node ∈ graph.nodes,
      verdict = .deny ∧ privileged node.operation = true ∨
        verdict = .requireApproval ∧ sensitive node.operation = true := by
  simp only [evaluate, withDefaultRules, flatMap_cons, flatMap_nil, append_nil, map_append, mem_append,
    privilegedPermissionRule, destructiveOperationRule, everyoneChangeRule, PolicyRule.flagging, map_filterMap,
    mem_filterMap, ← exists_or, ← and_or_left]
  refine exists_congr fun node => and_congr_right fun _ => or_congr ?_ ?_
  · rw [privileged]
    cases granted node.operation <;> grind
  · cases node.operation <;> grind [sensitive]

/-- A graph gets the worst verdict that one of its operations calls for. -/
theorem verdict_eq (graph : OperationGraph) :
    (evaluate withDefaultRules graph).verdict =
      if graph.nodes.any fun node => privileged node.operation then .deny
      else if graph.nodes.any fun node => sensitive node.operation then .requireApproval else .allow := by
  have verdicts := mem_verdicts graph
  have worst : (evaluate withDefaultRules graph).verdict =
    ((evaluate withDefaultRules graph).findings.map Finding.verdict).max?.getD .allow := rfl
  rw [worst]
  generalize (evaluate withDefaultRules graph).findings.map Finding.verdict = found at verdicts ⊢
  simp only [any_eq_true]
  split
  next denied =>
    have most : found.max? = some .deny :=
      max?_eq_some_iff.mpr ⟨by grind, fun other _ => by cases other <;> decide⟩
    rw [most]
    rfl
  next =>
    split
    next =>
      have most : found.max? = some .requireApproval := max?_eq_some_iff.mpr ⟨by grind, by grind⟩
      rw [most]
      rfl
    next =>
      obtain rfl : found = [] := eq_nil_iff_forall_not_mem.mpr (by grind)
      rfl

/-- The diff has a change that is compiled to the operation. -/
def Plans (desired : NormalizedDesiredState) (result : DiffResult) (operation : Operation) : Prop :=
  ∃ change ∈ result.changes, Compiles desired change.op change.target operation

def AdapterCall.granted : AdapterCall → Option Permissions
  | createRole _ spec | updateRole _ _ spec => spec.permissions
  | upsertOverwrite _ _ _ allow _ => some allow
  | _ => none

theorem Asks.privileged {guild : GuildId} {operation : Operation} {call : AdapterCall} (asks : Asks guild operation call)
    {permissions : Permissions} (grants : call.granted = some permissions)
    (risky : permissions.intersects privilegedMask = true) : privileged operation = true := by
  cases operation <;> simp only [Asks] at asks <;> grind [AdapterCall.granted, granted, privileged]

/-- Permissions that a role or an overwrite of the guild has. -/
def Holds (snapshot : GuildState) (permissions : Permissions) : Prop :=
  (∃ role ∈ snapshot.roles, role.permissions = permissions) ∨
    ∃ channel ∈ snapshot.channels, ∃ overwrite ∈ channel.overwrites, overwrite.allow = permissions

section
variable {snapshot : GuildState} {guild : GuildId}

theorem Trace.asked {nodes : List OperationNode} {steps : List StepResult} {calls : List AdapterCall}
    {stopped last : Bool} (trace : Trace snapshot guild stopped nodes steps calls last) :
    (∀ call ∈ calls, ∃ node ∈ nodes, Asks guild node.operation call) ∧ ∀ step ∈ steps, step.Reversible snapshot := by
  induction trace with
  | done => simp
  | skip rest ih => grind [StepResult.Reversible]
  | run tried rest ih => cases tried <;> grind [StepResult.Reversible]

theorem StepResult.Reversible.holds {step : StepResult} {action : RollbackAction} {call : AdapterCall}
    {permissions : Permissions} (reversible : step.Reversible snapshot) (recorded : step.rollback = some action)
    (mem : call ∈ action.calls guild) (grants : call.granted = some permissions) : Holds snapshot permissions := by
  rw [StepResult.Reversible, recorded] at reversible
  cases action with
  | restoreRole _ before | recreateRole before =>
    obtain rfl := mem_singleton.mp mem
    exact .inl ⟨before, mem_of_find?_eq_some reversible, Option.some.inj grants⟩
  | restoreOverwrite channel target before =>
    obtain ⟨overwrite, here, rfl⟩ := mem_map.mp mem
    obtain rfl := Option.mem_toList.mp here
    obtain ⟨held, found, there⟩ := Option.bind_eq_some_iff.mp reversible.symm
    exact .inr ⟨held, mem_of_find?_eq_some found, overwrite, mem_of_find?_eq_some there, Option.some.inj grants⟩
  | _ =>
    obtain rfl := mem_singleton.mp mem
    cases grants

end

section
variable {σ : Type} (adapter : DiscordAdapter σ) (request : ApprovedExecutionRequest)

theorem executeWithRollback_calls {state middle : σ × List AdapterCall} {job : JobResult} {call : AdapterCall}
    (executed : execute adapter.recorded request state = (.ok job, middle))
    (mem : call ∈ (executeWithRollback adapter.recorded request state).2.2) :
    call ∈ middle.2 ∨ ∃ step ∈ job.steps, ∃ action, step.rollback = some action ∧ call ∈ action.calls request.guildId := by
  rw [executeWithRollback, executed] at mem
  dsimp only at mem
  split at mem
  next => exact .inl mem
  next =>
    have undone := (rollback_calls adapter request.guildId job.steps.reverse ([], middle)).2
    rw [rollback, undone] at mem
    grind [StepResult.undo]

/-- A graph that the policy has judged makes calls only if nothing in it grants a privileged permission, and, if it
deletes something or changes the access of everyone, only if the first decision was an approval. No call grants a
privileged permission, except one that a rollback gives back. -/
theorem policy_enforced (decisions : List ApprovalCall) (state : σ) :
    let verdict := (evaluate withDefaultRules request.operationGraph).verdict
    let approval := final serve (new verdict) decisions
    let calls := (executeWithRollback adapter.recorded { request with approval } (state, [])).2.2
    (calls ≠ [] → ∀ node ∈ request.operationGraph.nodes, privileged node.operation = false ∧
      (sensitive node.operation = true → ∃ user rest, decisions = .approve user :: rest)) ∧
    ∀ call ∈ calls, ∀ permissions, call.granted = some permissions → permissions.intersects privilegedMask = true →
      Holds request.snapshot permissions := by
  intro verdict approval calls
  obtain ⟨error, same⟩ | ⟨job, middle, order, forward, stopped, same, able, -, trace, -, logged⟩ :=
    execute_trace adapter { request with approval } state []
  · have none : calls = [] := by simp only [calls, executeWithRollback, same]
    rw [none]
    simp
  · obtain ⟨asked, reversible⟩ := trace.asked
    have judged : ∀ node ∈ request.operationGraph.nodes, privileged node.operation = false ∧
        (sensitive node.operation = true → ∃ user rest, decisions = .approve user :: rest) := by
      have cleared := (canExecute_final verdict decisions).mp able
      have worst : verdict = _ := verdict_eq request.operationGraph
      grind [Cleared]
    refine ⟨fun _ => judged, fun call mem permissions grants risky => ?_⟩
    obtain mem | ⟨step, here, action, recorded, mem⟩ := executeWithRollback_calls adapter _ same mem
    · rw [logged] at mem
      obtain ⟨node, here, asks⟩ := asked call mem
      obtain ⟨id, -, found⟩ := mem_filterMap.mp here
      have harmless := (judged node (mem_of_find?_eq_some found)).1
      exact absurd (asks.privileged grants risky) (by simp [harmless])
    · exact (reversible step here).holds recorded mem grants

end

end Starring.Executor
