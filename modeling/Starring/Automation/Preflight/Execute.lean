import Starring.Automation.Preflight.Prepare

/-! Carrying out a prepared plan. What the steps create is kept by entry, and nothing is
rendered or looked up by a key any more. -/

namespace Starring.Automation
open Foundation Calls

structure PreflightExecutionState where
  roles : Std.ExtTreeMap ActionEntryId RoleId
  channels : Std.ExtTreeMap ActionEntryId ChannelId
  messages : Std.ExtTreeMap ActionEntryId InstanceMessageRef
  instances : Std.ExtTreeMap ActionEntryId InstanceId

def snapshotDrift : AdapterError := badRequest "action plan preflight failed: SnapshotDrift"

def executionInvariant (entry : ActionEntryId) : AdapterError :=
  badRequest ("action plan preflight failed: ExecutionInvariant \x7b entry: ActionEntryIdV1(" ++ toString entry.val ++ ") \x7d")

def ensureOutput (entry producer : ActionEntryId) : Except AdapterError Unit :=
  rejectIf (entry ≠ producer) (executionInvariant entry)

def resolveProducedEntries {ι : Type} {kind : ProducerOutputKind} (created : Std.ExtTreeMap ActionEntryId ι)
    (entry : ActionEntryId) (refs : StringMap (CreatedOutputRef kind)) : Except AdapterError (StringMap ι) :=
  refs.toList.foldlM (fun resolved item => do
    let id ← orReject created[item.2.producer]? (executionInvariant entry)
    .ok (resolved.insert item.1 id)) ∅

namespace PreflightExecutionState
variable (self : PreflightExecutionState) (entry : ActionEntryId)

def resolveRole : PreflightRoleRef → Except AdapterError RoleId
  | .existing id | .ofInstance id => .ok id
  | .produced reference => orReject self.roles[reference.producer]? (executionInvariant entry)

def resolveChannel : PreflightChannelRef → Except AdapterError ChannelId
  | .existing id => .ok id
  | .produced reference => orReject self.channels[reference.producer]? (executionInvariant entry)

def resolveTarget (guildId : GuildId) : PreflightOverwriteTarget → Except AdapterError OverwriteTarget
  | .everyone => .ok (.role ⟨guildId.value⟩)
  | .role role => (self.resolveRole entry role).map .role

def resolveInstance : PreflightInstanceRef → Except AdapterError InstanceId
  | .existing id => .ok id
  | .registered reference => orReject self.instances[reference.producer]? (executionInvariant entry)

def resolveResources (refs : PreflightInstanceResourceRefs) : Except AdapterError InstanceResources := do
  let roles ← resolveProducedEntries self.roles entry refs.roles
  let channels ← resolveProducedEntries self.channels entry refs.channels
  let messages ← resolveProducedEntries self.messages entry refs.messages
  .ok { roles, channels, messages }

end PreflightExecutionState

def PreflightButtonSpec.resolved (self : PreflightButtonSpec) : PostPanelButtonSpec where
  label := self.label
  route := match self.route with
    | .static key => .static key
    | .instanceAction instanceId _ action => .instanceAction instanceId action

/-- The state of a run between two steps, with what it will return. -/
structure PreflightProgress where
  state : PreflightExecutionState
  output : RunResult

section Running
variable {σ : Type} (services : AutomationServices σ)

def executePlanAction (context : RuntimeContext) (progress : PreflightProgress) (action : PreparedPlanAction) :
    Calls AdapterError σ PreflightProgress :=
  let state := progress.state
  let output := progress.output
  match action with
  | .grantRole entry role target => do
    let role ← ofExcept (state.resolveRole entry role)
    services.grantRole context.guildId target role
    pure progress
  | .respondEphemeral _ content => do
    services.respondEphemeral content
    pure progress
  | .openModal _ modal => do
    services.openModal modal
    pure progress
  | .createChannel entry outputRef key name => do
    ofExcept (ensureOutput entry outputRef.producer)
    let id ← services.createChannel context.guildId { name }
    pure { state := { state with channels := state.channels.insert outputRef.producer id }
           output := { output with created := output.created ++ [.channel entry.val key name id] } }
  | .createRole entry outputRef key name => do
    ofExcept (ensureOutput entry outputRef.producer)
    let id ← services.createRole context.guildId { name }
    pure { state := { state with roles := state.roles.insert outputRef.producer id }
           output := { output with created := output.created ++ [.role entry.val key name id] } }
  | .upsertOverwrite entry channel target allow deny => do
    let channel ← ofExcept (state.resolveChannel entry channel)
    let target ← ofExcept (state.resolveTarget entry context.guildId target)
    services.upsertOverwrite context.guildId channel target allow deny
    pure progress
  | .postPanel entry outputRef key channel content buttons => do
    ofExcept (ensureOutput entry outputRef.producer)
    let channel ← ofExcept (state.resolveChannel entry channel)
    let id ← services.postPanel context.guildId channel { content, buttons := buttons.map PreflightButtonSpec.resolved }
    pure { state := { state with messages := state.messages.insert outputRef.producer { channel, id } }
           output := { output with created := output.created ++ [.message entry.val key channel id] } }
  | .deferEphemeral _ => do
    services.deferEphemeral
    pure progress
  | .editResponse _ content => do
    let output ← editResponse services content output
    pure { progress with output }
  | .registerInstance entry outputRef key id kind resources => do
    ofExcept (ensureOutput entry outputRef.producer)
    let resources ← ofExcept (state.resolveResources entry resources)
    (services.registerInstance
      { id, guildId := context.guildId, rulesetKey := context.rulesetKey, rulesetVersion := context.rulesetVersion
        kind, createdBy := context.actor, resources, status := .active }).mapError instanceRegisterError
    pure { state := { state with instances := state.instances.insert outputRef.producer id }
           output := { output with created := output.created ++ [.ofInstance entry.val key id] } }
  | .teardownInstance entry instanceRef => do
    let instanceId ← ofExcept (state.resolveInstance entry instanceRef)
    let outcome ← (services.teardown context.guildId instanceId).mapError teardownError
    pure { progress with output := { output with
             teardowns := output.teardowns ++
               [{ actionIndex := entry.val, instanceId, teardown := outcome, response := .sent }] } }

def executePreflightedActionPlan (plan : PreflightedActionPlan) (expected : ActionPlanSnapshotIdentity) :
    Calls AdapterError σ RunResult := do
  ofExcept (rejectIf (plan.snapshotIdentity ≠ expected) snapshotDrift)
  let progress ← plan.prepared.actions.foldlM (executePlanAction services plan.prepared.context)
    { state := { roles := ∅, channels := ∅, messages := ∅, instances := ∅ }, output := { created := [], teardowns := [] } }
  pure progress.output

end Running

end Starring.Automation
