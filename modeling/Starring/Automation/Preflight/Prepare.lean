import Starring.Automation.Preflight.Types

/-! The preparation of a plan. Texts are rendered and references are resolved for all steps at
once; on the way, a record is kept of what the plan needs to know about the guild and on
which earlier steps each step depends. -/

namespace Starring.Automation
open Foundation Calls

namespace CanonicalBytes

def u16 (value : Nat) : List UInt8 := bigEndian 2 value
def u32 (value : Nat) : List UInt8 := bigEndian 4 value
def u64 (value : UInt64) : List UInt8 := bigEndian 8 value.toNat
def bool (value : Bool) : List UInt8 := [if value then 1 else 0]
def string (value : String) : List UInt8 := u32 value.utf8ByteSize ++ utf8 value
def entry (value : ActionEntryId) : List UInt8 := u16 value.val

def listed {α : Type} (encode : α → List UInt8) (items : List α) : List UInt8 := u16 items.length ++ items.flatMap encode

def optionalU16 : Option UInt16 → List UInt8
  | some value => bool true ++ u16 value.toNat
  | none => bool false

def dependency : ActionInputDependency → List UInt8
  | .static => [0]
  | .priorEffect producer => 1 :: entry producer
  | .freshObservation observation => [2, .ofNat observation.tag]

def snapshotRequest (request : ActionPlanSnapshotRequest) : List UInt8 :=
  u64 request.guildId.value ++ u64 request.actor.value ++
    listed (fun observation => [.ofNat observation.tag]) request.observations.toList ++
    listed u64 request.existingRoles.toList ++ listed u64 request.existingChannels.toList

def roleRef : PreflightRoleRef → List UInt8
  | .existing id => 0 :: u64 id.value
  | .ofInstance id => 1 :: u64 id.value
  | .produced reference => 2 :: entry reference.producer

def channelRef : PreflightChannelRef → List UInt8
  | .existing id => 0 :: u64 id.value
  | .produced reference => 1 :: entry reference.producer

def overwriteTarget : PreflightOverwriteTarget → List UInt8
  | .everyone => [0]
  | .role role => 1 :: roleRef role

def modalFieldStyle : ModalFieldStyle → UInt8
  | .short => 0
  | .paragraph => 1

def modalInputPolicy : ModalInputPolicy → UInt8
  | .preserve => 0
  | .trimUnicodeWhitespace => 1

def modalField (field : ModalFieldSpec) : List UInt8 :=
  string field.key ++ string field.label ++ [modalFieldStyle field.style] ++ bool field.required ++
    optionalU16 field.minLength ++ optionalU16 field.maxLength ++ [modalInputPolicy field.inputPolicy]

def button (button : PreflightButtonSpec) : List UInt8 :=
  string button.label ++ match button.route with
    | .static key => 0 :: string key
    | .instanceAction instanceId producer action =>
      1 :: (string instanceId.value ++
        (match producer with
          | some reference => bool true ++ entry reference.producer
          | none => bool false) ++ string action)

def manifest {kind : ProducerOutputKind} (refs : StringMap (CreatedOutputRef kind)) : List UInt8 :=
  listed (fun item => string item.1 ++ entry item.2.producer) refs.toList

def instanceRef : PreflightInstanceRef → List UInt8
  | .existing id => 0 :: string id.value
  | .registered reference => 1 :: entry reference.producer

def action : PreparedPlanAction → List UInt8
  | .grantRole place role target => 0 :: (entry place ++ roleRef role ++ u64 target.value)
  | .respondEphemeral place content => 1 :: (entry place ++ string content)
  | .openModal place modal => 2 :: (entry place ++ string modal.key ++ string modal.title ++ listed modalField modal.fields)
  | .createChannel place output key name => 3 :: (entry place ++ entry output.producer ++ string key ++ string name)
  | .createRole place output key name => 4 :: (entry place ++ entry output.producer ++ string key ++ string name)
  | .upsertOverwrite place channel target allow deny =>
    5 :: (entry place ++ channelRef channel ++ overwriteTarget target ++ u64 allow.bits ++ u64 deny.bits)
  | .postPanel place output key channel content buttons =>
    6 :: (entry place ++ entry output.producer ++ string key ++ channelRef channel ++ string content ++ listed button buttons)
  | .deferEphemeral place => 7 :: entry place
  | .editResponse place content => 8 :: (entry place ++ string content)
  | .registerInstance place output key id kind resources =>
    9 :: (entry place ++ entry output.producer ++ string key ++ string id.value ++ string kind.value ++
      manifest resources.roles ++ manifest resources.channels ++ manifest resources.messages)
  | .teardownInstance place reference => 10 :: (entry place ++ instanceRef reference)

end CanonicalBytes

/-- What is noted while the steps are prepared. -/
structure PreparationEvidence where
  snapshotRequest : ActionPlanSnapshotRequest
  dependencies : Std.ExtTreeMap ActionEntryId (Std.ExtTreeSet ActionInputDependency)

/-- What the digest of a prepared plan is taken of. -/
def canonicalDigestMaterial (context : RuntimeContext) (actions : List PreparedPlanAction)
    (evidence : PreparationEvidence) : Except ActionPlanPreflightError (List UInt8) := do
  let bytes := CanonicalBytes.string "automation-core-action-preflight-v1" ++ CanonicalBytes.u64 context.guildId.value ++
    CanonicalBytes.u64 context.actor.value ++ CanonicalBytes.string context.rulesetKey ++
    bigEndian 8 context.rulesetVersion.number.get ++ CanonicalBytes.snapshotRequest evidence.snapshotRequest ++
    CanonicalBytes.listed (fun item => CanonicalBytes.entry item.1 ++
      CanonicalBytes.listed CanonicalBytes.dependency item.2.toList) evidence.dependencies.toList ++
    CanonicalBytes.listed CanonicalBytes.action actions
  rejectIf (bytes.length > maxPreflightDigestMaterialBytes)
    (.digestMaterialTooLarge bytes.length maxPreflightDigestMaterialBytes)
  .ok bytes

structure Producer where
  entry : ActionEntryId
  kind : ProducerOutputKind
  deriving DecidableEq

def ActionEntryId.fromIndex (index : Nat) : Except ActionPlanPreflightError ActionEntryId :=
  if bounded : index < maxPreflightActions then .ok ⟨index, bounded⟩
  else .error (.tooManyActions (index + 1) maxPreflightActions)

def validateContext (context : RuntimeContext) : Except ActionPlanPreflightError Unit :=
  rejectIf (context.guildId.value = 0 ∨ context.actor.value = 0 ∨ boundedKey context.rulesetKey = false ∨
    (context.resolvedInstance.any fun found => found.resolved.guildId ≠ context.guildId) = true) .invalidContext

/-- What a step creates is entered under its key, once. -/
def indexProducer (producers : StringMap Producer) (step : PlannedAction × Nat) :
    Except ActionPlanPreflightError (StringMap Producer) := do
  let entry ← ActionEntryId.fromIndex step.2
  match step.1.created with
  | none => .ok producers
  | some (key, kind) =>
    rejectIf (boundedKey key = false) (.invalidKey entry)
    match producers[key]? with
    | some first => .error (.duplicateProducerKey key first.entry entry)
    | none => .ok (producers.insert key { entry, kind })

def indexProducers (plan : ActionPlan) : Except ActionPlanPreflightError (StringMap Producer) :=
  plan.steps.zipIdx.foldlM indexProducer ∅

/-- The entries that register an instance, in the order of the plan. -/
def instanceEntries (producers : StringMap Producer) : List ActionEntryId :=
  ((producers.toList.filter fun item => item.2.kind = .ofInstance).map fun item => item.2.entry).mergeSort

section Preallocation
variable {σ : Type} (generate : Calls String σ InstanceId)

def preallocateInstance (ids : Std.ExtTreeMap ActionEntryId InstanceId) (entry : ActionEntryId) :
    Calls ActionPlanPreflightError σ (Std.ExtTreeMap ActionEntryId InstanceId) := do
  let id ← generate.mapError (.instanceIdGeneration entry)
  ofExcept (rejectIf (ids.toList.any (fun item => item.2 = id) = true) (.duplicatePreallocatedInstanceId entry))
  pure (ids.insert entry id)

def preallocateInstances (producers : StringMap Producer) :
    Calls ActionPlanPreflightError σ (Std.ExtTreeMap ActionEntryId InstanceId) :=
  (instanceEntries producers).foldlM (preallocateInstance generate) ∅

end Preallocation

abbrev Preparing (α : Type) := Calls ActionPlanPreflightError PreparationEvidence α

section Steps
variable (context : RuntimeContext) (producers : StringMap Producer)
  (preallocated : Std.ExtTreeMap ActionEntryId InstanceId) (entry : ActionEntryId)

def depend (dependency : ActionInputDependency) : Preparing Unit :=
  .modify fun evidence =>
    let known := evidence.dependencies.getD entry ∅
    { evidence with dependencies := evidence.dependencies.insert entry (known.insert dependency) }

/-- A change to what the plan needs to know about the guild. -/
def request (change : ActionPlanSnapshotRequest → ActionPlanSnapshotRequest) : Preparing Unit :=
  .modify fun evidence => { evidence with snapshotRequest := change evidence.snapshotRequest }

def observe (observation : FreshObservation) : Preparing Unit := do
  request fun needed => { needed with observations := needed.observations.insert observation }
  depend entry (.freshObservation observation)

def observeRoleState : Preparing Unit := do
  observe entry .guildRoles
  observe entry .botMember

def observeChannelState : Preparing Unit := do
  observe entry .guildChannels
  observe entry .guildRoles
  observe entry .botMember

def observeActor : Preparing Unit := observe entry .actorMember

def requireRole (id : RoleId) : Preparing Unit :=
  request fun needed => { needed with existingRoles := needed.existingRoles.insert id.value }

def requireChannel (id : ChannelId) : Preparing Unit :=
  request fun needed => { needed with existingChannels := needed.existingChannels.insert id.value }

def preflightRender (source : String) (sanitize : SanitizeContext) : Except ActionPlanPreflightError String :=
  (TemplateString.parse source >>= fun template => template.render context.inputs sanitize).mapError (.template entry)

def findProducer (key : String) (expected : ProducerOutputKind) : Except ActionPlanPreflightError Producer := do
  let producer ← orReject producers[key]? (.unknownProducer entry key expected)
  rejectIf (producer.kind ≠ expected) (.producerTypeMismatch entry key expected producer.kind)
  .ok producer

/-- A producer that has to come before the step. -/
def resolvePriorProducer (key : String) (expected : ProducerOutputKind) : Preparing (CreatedOutputRef expected) := do
  let producer ← ofExcept (findProducer producers entry key expected)
  ofExcept (rejectIf (producer.entry ≥ entry) (.producerNotPrior entry producer.entry))
  depend entry (.priorEffect producer.entry)
  pure ⟨producer.entry⟩

def contextInstance : Except ActionPlanPreflightError AutomationInstance := do
  let found ← orReject context.resolvedInstance (.instanceContextMissing entry)
  rejectIf (found.resolved.guildId ≠ context.guildId) (.instanceContextGuildMismatch entry)
  .ok found.resolved

def resolvePreflightRole : PlannedRole → Preparing PreflightRoleRef
  | .resolved id => do
    ofExcept (rejectIf (id.value = 0) (.requiredRoleMissing id))
    requireRole id
    pure (.existing id)
  | .created key => do
    let reference ← resolvePriorProducer producers entry key .role
    pure (.produced reference)
  | .ofInstance aliasName => do
    ofExcept (rejectIf (boundedKey aliasName = false) (.invalidKey entry))
    let found ← ofExcept (contextInstance context entry)
    let id ← ofExcept (orReject found.resources.roles[aliasName]? (.instanceResourceMissing entry aliasName))
    requireRole id
    pure (.ofInstance id)

def resolvePreflightChannel : PlannedChannel → Preparing PreflightChannelRef
  | .resolved id => do
    ofExcept (rejectIf (id.value = 0) (.requiredChannelMissing id))
    requireChannel id
    pure (.existing id)
  | .created key => do
    let reference ← resolvePriorProducer producers entry key .channel
    pure (.produced reference)

/-- A button may lead to an instance that is registered later. -/
def resolveButton (button : ButtonSpec) : Except ActionPlanPreflightError PreflightButtonSpec :=
  match button.route with
  | .static key => .ok { label := button.label, route := .static key }
  | .instanceAction .event action => do
    let found ← contextInstance context entry
    .ok { label := button.label, route := .instanceAction found.id none action }
  | .instanceAction (.created reference) action => do
    let producer ← findProducer producers entry reference.created .ofInstance
    let instanceId ← orReject preallocated[producer.entry]? (.executionInvariant entry)
    .ok { label := button.label, route := .instanceAction instanceId (some ⟨producer.entry⟩) action }

def resolveManifestRefs (kind : ProducerOutputKind) (refs : StringMap CreatedRef) :
    Preparing (StringMap (CreatedOutputRef kind)) :=
  refs.toList.foldlM (fun resolved item => do
    ofExcept (rejectIf (boundedKey item.1 = false) (.invalidKey entry))
    let reference ← resolvePriorProducer producers entry item.2.created kind
    pure (resolved.insert item.1 reference)) ∅

def resolvePreflightManifest (resources : InstanceResourceRefs) : Preparing PreflightInstanceResourceRefs := do
  let roles ← resolveManifestRefs producers entry .role resources.roles
  let channels ← resolveManifestRefs producers entry .channel resources.channels
  let messages ← resolveManifestRefs producers entry .message resources.messages
  pure { roles, channels, messages }

def resolveTeardownInstance : InstanceRef → Preparing PreflightInstanceRef
  | .event => do
    let found ← ofExcept (contextInstance context entry)
    found.resources.roles.toList.forM fun item => requireRole item.2
    found.resources.channels.toList.forM fun item => requireChannel item.2
    found.resources.messages.toList.forM fun item => requireChannel item.2.channel
    pure (.existing found.id)
  | .created reference => do
    let registered ← resolvePriorProducer producers entry reference.created .ofInstance
    pure (.registered registered)

def resolvePreflightTarget : PlannedOverwriteTarget → Preparing PreflightOverwriteTarget
  | .everyone => pure .everyone
  | .role role => do
    let role ← resolvePreflightRole context producers entry role
    pure (.role role)

def preparePlanAction : PlannedAction → Preparing PreparedPlanAction
  | .grantRole role target => do
    ofExcept (rejectIf (target ≠ context.actor) (.unsupportedGrantTarget entry))
    observeRoleState entry
    observeActor entry
    let role ← resolvePreflightRole context producers entry role
    pure (.grantRole entry role target)
  | .respondEphemeral content => do
    let content ← ofExcept (preflightRender context entry content .ephemeralMessageContent)
    pure (.respondEphemeral entry content)
  | .openModal modal => do
    ofExcept (validateModalShape entry modal)
    pure (.openModal entry modal)
  | .createChannel key name => do
    observeChannelState entry
    let name ← ofExcept (preflightRender context entry name .channelName)
    pure (.createChannel entry ⟨entry⟩ key name)
  | .createRole key name => do
    observeRoleState entry
    let name ← ofExcept (preflightRender context entry name .roleName)
    pure (.createRole entry ⟨entry⟩ key name)
  | .upsertOverwrite channel target allow deny => do
    ofExcept (rejectIf (allow.intersects deny = true ∨ allow.isEmpty = true ∧ deny.isEmpty = true)
      (.conflictingOverwrite entry))
    observeRoleState entry
    observeChannelState entry
    let channel ← resolvePreflightChannel producers entry channel
    let target ← resolvePreflightTarget context producers entry target
    pure (.upsertOverwrite entry channel target allow deny)
  | .postPanel key channel content buttons => do
    ofExcept (validateButtonsShape entry buttons)
    observeRoleState entry
    observeChannelState entry
    let channel ← resolvePreflightChannel producers entry channel
    let content ← ofExcept (preflightRender context entry content .ephemeralMessageContent)
    let buttons ← ofExcept (buttons.mapM (resolveButton context producers preallocated entry))
    pure (.postPanel entry ⟨entry⟩ key channel content buttons)
  | .deferEphemeral => pure (.deferEphemeral entry)
  | .editResponse content => do
    let content ← ofExcept (preflightRender context entry content .ephemeralMessageContent)
    pure (.editResponse entry content)
  | .registerInstance key kind resources => do
    ofExcept (rejectIf (boundedKey kind.value = false) (.invalidKey entry))
    let id ← ofExcept (orReject preallocated[entry]? (.executionInvariant entry))
    let resources ← resolvePreflightManifest producers entry resources
    pure (.registerInstance entry ⟨entry⟩ key id kind resources)
  | .teardownInstance instanceRef => do
    observeRoleState entry
    observeChannelState entry
    let instanceRef ← resolveTeardownInstance context producers entry instanceRef
    pure (.teardownInstance entry instanceRef)

end Steps

def preparePlanStep (context : RuntimeContext) (producers : StringMap Producer)
    (preallocated : Std.ExtTreeMap ActionEntryId InstanceId) (step : PlannedAction × Nat) : Preparing PreparedPlanAction := do
  let entry ← ofExcept (ActionEntryId.fromIndex step.2)
  depend entry .static
  preparePlanAction context producers preallocated entry step.1

/-- Only the ids of the instances come from outside. -/
def prepareActionPlan {σ : Type} (generate : Calls String σ InstanceId) (context : RuntimeContext) (plan : ActionPlan) :
    Calls ActionPlanPreflightError σ PreparedActionPlan := do
  ofExcept (validateContext context)
  ofExcept (rejectIf (plan.steps.length > maxPreflightActions)
    (.tooManyActions plan.steps.length maxPreflightActions))
  let producers ← ofExcept (indexProducers plan)
  let preallocated ← preallocateInstances generate producers
  ofExcept do
    let (prepared, evidence) := plan.steps.zipIdx.mapM (preparePlanStep context producers preallocated)
      { snapshotRequest := { guildId := context.guildId, actor := context.actor, observations := ∅, existingRoles := ∅
                             existingChannels := ∅ }
        dependencies := ∅ }
    let actions ← prepared
    let digestMaterial ← canonicalDigestMaterial context actions evidence
    .ok { context, actions, snapshotRequest := evidence.snapshotRequest, dependencies := evidence.dependencies
          digestMaterial }

end Starring.Automation
