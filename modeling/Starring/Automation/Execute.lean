import Starring.Automation.Prepare
import Starring.Foundation.Service

/-! Carrying out a plan. The steps are made one after the other; each step is first prepared,
that is its texts are rendered and its references are resolved by what the steps before
it have created, and then handed to the services. -/

namespace Starring.Automation
open Foundation
open Planning (ResourceBindingMap)

structure CreateChannelSpec where
  name : String
  deriving DecidableEq

structure CreateRoleSpec where
  name : String
  deriving DecidableEq

inductive ResolvedButtonRoute where
  | static (key : String)
  | instanceAction (instanceId : InstanceId) (action : String)
  deriving DecidableEq

structure PostPanelButtonSpec where
  label : String
  route : ResolvedButtonRoute
  deriving DecidableEq

structure PostPanelSpec where
  content : String
  buttons : List PostPanelButtonSpec
  deriving DecidableEq

inductive TeardownOutcome where
  | completed
  | resumedAndCompleted
  | alreadyDeleted
  | inProgress
  deriving DecidableEq

/-- The services a plan is carried out with. The errors of `generate`, `registerInstance` and
`teardown` reach the executor only as the text that `Debug` prints for them. -/
structure AutomationServices (σ : Type) where
  grantRole : GuildId → UserId → RoleId → Calls AdapterError σ Unit
  createChannel : GuildId → CreateChannelSpec → Calls AdapterError σ ChannelId
  createRole : GuildId → CreateRoleSpec → Calls AdapterError σ RoleId
  upsertOverwrite : GuildId → ChannelId → OverwriteTarget → Permissions → Permissions → Calls AdapterError σ Unit
  postPanel : GuildId → ChannelId → PostPanelSpec → Calls AdapterError σ MessageId
  respondEphemeral : String → Calls AdapterError σ Unit
  openModal : ModalPresentation → Calls AdapterError σ Unit
  deferEphemeral : Calls AdapterError σ Unit
  editResponse : String → Calls AdapterError σ Unit
  registerInstance : AutomationInstance → Calls String σ Unit
  generate : Calls String σ InstanceId
  teardown : GuildId → InstanceId → Calls String σ TeardownOutcome

inductive ServiceEvent where
  | grantRole (guild : GuildId) (member : UserId) (role : RoleId) (reply : Except AdapterError Unit)
  | createChannel (guild : GuildId) (spec : CreateChannelSpec) (reply : Except AdapterError ChannelId)
  | createRole (guild : GuildId) (spec : CreateRoleSpec) (reply : Except AdapterError RoleId)
  | upsertOverwrite (guild : GuildId) (channel : ChannelId) (target : OverwriteTarget) (allow deny : Permissions)
    (reply : Except AdapterError Unit)
  | postPanel (guild : GuildId) (channel : ChannelId) (spec : PostPanelSpec) (reply : Except AdapterError MessageId)
  | respondEphemeral (content : String) (reply : Except AdapterError Unit)
  | openModal (modal : ModalPresentation) (reply : Except AdapterError Unit)
  | deferEphemeral (reply : Except AdapterError Unit)
  | editResponse (content : String) (reply : Except AdapterError Unit)
  | registerInstance (registered : AutomationInstance) (reply : Except String Unit)
  | generate (reply : Except String InstanceId)
  | teardown (guild : GuildId) (instanceId : InstanceId) (reply : Except String TeardownOutcome)

/-- The services, with a log of the calls made to them. -/
def AutomationServices.logged {σ : Type} (services : AutomationServices σ) :
    AutomationServices (σ × List ServiceEvent) where
  grantRole guild member role := (services.grantRole guild member role).logged (.grantRole guild member role)
  createChannel guild spec := (services.createChannel guild spec).logged (.createChannel guild spec)
  createRole guild spec := (services.createRole guild spec).logged (.createRole guild spec)
  upsertOverwrite guild channel target allow deny :=
    (services.upsertOverwrite guild channel target allow deny).logged (.upsertOverwrite guild channel target allow deny)
  postPanel guild channel spec := (services.postPanel guild channel spec).logged (.postPanel guild channel spec)
  respondEphemeral content := (services.respondEphemeral content).logged (.respondEphemeral content)
  openModal modal := (services.openModal modal).logged (.openModal modal)
  deferEphemeral := services.deferEphemeral.logged .deferEphemeral
  editResponse content := (services.editResponse content).logged (.editResponse content)
  registerInstance registered := (services.registerInstance registered).logged (.registerInstance registered)
  generate := services.generate.logged .generate
  teardown guild instanceId := (services.teardown guild instanceId).logged (.teardown guild instanceId)

def badRequest (message : String) : AdapterError := { kind := .badRequest, message }

def unresolvedPlannedInstance (key : String) : AdapterError := badRequest ("unresolved planned instance: " ++ key)
def unresolvedManifest (key : String) : AdapterError := badRequest ("unresolved manifest ref: " ++ key)
def instanceIdError (error : String) : AdapterError := badRequest ("instance id error: " ++ error)
def unresolvedCreatedRole (key : String) : AdapterError := badRequest ("unresolved created role: " ++ key)
def unresolvedCreatedChannel (key : String) : AdapterError := badRequest ("unresolved created channel: " ++ key)
def eventInstanceMissing : AdapterError := badRequest "InstanceContextMissing: button route"

def instanceContextMissing (aliasName : String) : AdapterError :=
  badRequest ("InstanceContextMissing: role alias=" ++ aliasName)

def instanceResourceNotFound (instanceId : InstanceId) (aliasName : String) : AdapterError :=
  badRequest ("InstanceResourceNotFound: instance=" ++ instanceId.value ++ ", resource=role, alias=" ++ aliasName)

def instanceRegisterError (error : String) : AdapterError := badRequest ("instance register error: " ++ error)
def teardownError (error : String) : AdapterError := badRequest ("instance teardown error: " ++ error)

/-- The text that `Debug` prints; `quote` prints a string. -/
def TemplateError.debug (quote : String → String) : TemplateError → String
  | badSyntax source => "BadSyntax(" ++ quote source ++ ")"
  | unsupportedVariable expr => "UnsupportedVariable(" ++ quote expr ++ ")"
  | missingInput key => "MissingInput(" ++ quote key ++ ")"
  | tooLong limit actual =>
    "TooLong \x7b limit: " ++ toString limit ++ ", actual: " ++ toString actual ++ " \x7d"
  | emptyAfterSanitize => "EmptyAfterSanitize"

def templateError (quote : String → String) (error : TemplateError) : AdapterError :=
  badRequest ("template error: " ++ error.debug quote)

structure ExecutionState where
  createdRoles : StringMap RoleId
  createdChannels : StringMap ChannelId
  createdMessages : StringMap InstanceMessageRef
  plannedInstances : StringMap InstanceId
  createdInstances : StringMap InstanceId

def resolveEntries {ι : Type} (created : StringMap ι) (refs : StringMap CreatedRef) : Except AdapterError (StringMap ι) :=
  refs.toList.foldlM (fun resolved entry => do
    let id ← orReject created[entry.2.created]? (unresolvedManifest entry.2.created)
    .ok (resolved.insert entry.1 id)) ∅

namespace ExecutionState
variable (self : ExecutionState) (context : RuntimeContext)

def resolveRole : PlannedRole → Except AdapterError RoleId
  | .resolved id => .ok id
  | .created key => orReject self.createdRoles[key]? (unresolvedCreatedRole key)
  | .ofInstance aliasName => do
    let found ← orReject context.resolvedInstance (instanceContextMissing aliasName)
    orReject found.resolved.resources.roles[aliasName]? (instanceResourceNotFound found.resolved.id aliasName)

def resolveChannel : PlannedChannel → Except AdapterError ChannelId
  | .resolved id => .ok id
  | .created key => orReject self.createdChannels[key]? (unresolvedCreatedChannel key)

/-- The instance of the event, if the event is about one. -/
def eventInstance : Except AdapterError InstanceId :=
  orReject (context.resolvedInstance.map fun found => found.resolved.id) eventInstanceMissing

def resolveButtonInstance : InstanceRef → Except AdapterError InstanceId
  | .created reference =>
    orReject self.plannedInstances[reference.created]? (unresolvedPlannedInstance reference.created)
  | .event => eventInstance context

def resolvePanelButton (button : ButtonSpec) : Except AdapterError PostPanelButtonSpec :=
  match button.route with
  | .static key => .ok { label := button.label, route := .static key }
  | .instanceAction instanceRef action => do
    let instanceId ← self.resolveButtonInstance context instanceRef
    .ok { label := button.label, route := .instanceAction instanceId action }

def resolvePanelButtons (buttons : List ButtonSpec) : Except AdapterError (List PostPanelButtonSpec) :=
  buttons.mapM (self.resolvePanelButton context)

def resolveInstanceRef : InstanceRef → Except AdapterError InstanceId
  | .event => eventInstance context
  | .created reference =>
    orReject (self.createdInstances[reference.created]?.or self.plannedInstances[reference.created]?)
      (unresolvedPlannedInstance reference.created)

def resolveManifest (refs : InstanceResourceRefs) : Except AdapterError InstanceResources := do
  let roles ← resolveEntries self.createdRoles refs.roles
  let channels ← resolveEntries self.createdChannels refs.channels
  let messages ← resolveEntries self.createdMessages refs.messages
  .ok { roles, channels, messages }

end ExecutionState

inductive PreparedAction where
  | grantRole (role : RoleId) (target : UserId)
  | respondEphemeral (content : String)
  | openModal (modal : ModalPresentation)
  | createChannel (actionIndex : Nat) (key name : String)
  | createRole (actionIndex : Nat) (key name : String)
  | upsertOverwrite (channel : ChannelId) (target : OverwriteTarget) (allow deny : Permissions)
  | postPanel (actionIndex : Nat) (key : String) (channel : ChannelId) (spec : PostPanelSpec)
  | deferEphemeral
  | editResponse (content : String)
  | registerInstance (actionIndex : Nat) (key : String) (id : InstanceId) (registered : AutomationInstance)
  | teardownInstance (actionIndex : Nat) (instanceId : InstanceId)

section Preparing
variable (quote : String → String)

def renderText (source : String) (context : RuntimeContext) (sanitize : SanitizeContext) : Except AdapterError String :=
  (TemplateString.parse source >>= fun template => template.render context.inputs sanitize).mapError (templateError quote)

def prepareTarget (context : RuntimeContext) (state : ExecutionState) :
    PlannedOverwriteTarget → Except AdapterError OverwriteTarget
  | .everyone => .ok (.role ⟨context.guildId.value⟩)
  | .role role => (state.resolveRole context role).map .role

def prepareAction (actionIndex : Nat) (step : PlannedAction) (context : RuntimeContext) (state : ExecutionState) :
    Except AdapterError PreparedAction :=
  match step with
  | .grantRole role target => do
    let role ← state.resolveRole context role
    .ok (.grantRole role target)
  | .respondEphemeral content => do
    let content ← renderText quote content context .ephemeralMessageContent
    .ok (.respondEphemeral content)
  | .openModal modal => .ok (.openModal modal)
  | .createChannel key name => do
    let name ← renderText quote name context .channelName
    .ok (.createChannel actionIndex key name)
  | .createRole key name => do
    let name ← renderText quote name context .roleName
    .ok (.createRole actionIndex key name)
  | .upsertOverwrite channel target allow deny => do
    let channel ← state.resolveChannel channel
    let target ← prepareTarget context state target
    .ok (.upsertOverwrite channel target allow deny)
  | .postPanel key channel content buttons => do
    let channel ← state.resolveChannel channel
    let content ← renderText quote content context .ephemeralMessageContent
    let buttons ← state.resolvePanelButtons context buttons
    .ok (.postPanel actionIndex key channel { content, buttons })
  | .deferEphemeral => .ok .deferEphemeral
  | .editResponse content => do
    let content ← renderText quote content context .ephemeralMessageContent
    .ok (.editResponse content)
  | .registerInstance key kind resources => do
    let id ← orReject state.plannedInstances[key]? (unresolvedPlannedInstance key)
    let resources ← state.resolveManifest resources
    .ok (.registerInstance actionIndex key id
      { id, guildId := context.guildId, rulesetKey := context.rulesetKey, rulesetVersion := context.rulesetVersion
        kind, createdBy := context.actor, resources, status := .active })
  | .teardownInstance instanceRef => do
    let instanceId ← state.resolveInstanceRef context instanceRef
    .ok (.teardownInstance actionIndex instanceId)

end Preparing

inductive ResponseDeliveryOutcome where
  | sent
  | failed
  deriving DecidableEq

structure TeardownActionResult where
  actionIndex : Nat
  instanceId : InstanceId
  teardown : TeardownOutcome
  response : ResponseDeliveryOutcome
  deriving DecidableEq

inductive CreatedResource where
  | channel (actionIndex : Nat) (key name : String) (id : ChannelId)
  | role (actionIndex : Nat) (key name : String) (id : RoleId)
  | message (actionIndex : Nat) (key : String) (channel : ChannelId) (id : MessageId)
  | ofInstance (actionIndex : Nat) (key : String) (id : InstanceId)
  deriving DecidableEq

structure RunResult where
  created : List CreatedResource
  teardowns : List TeardownActionResult
  deriving DecidableEq

/-- The state of a run between two steps, with what it will return. -/
structure Progress where
  state : ExecutionState
  output : RunResult

section Running
variable {σ : Type} (services : AutomationServices σ)

/-- The ids of the instances that the plan registers are drawn before the first step. -/
def planInstance (planned : StringMap InstanceId) (step : PlannedAction) : Calls AdapterError σ (StringMap InstanceId) :=
  match step with
  | .registerInstance key _ _ =>
    if key ∈ planned then pure planned
    else do
      let id ← services.generate.mapError instanceIdError
      pure (planned.insert key id)
  | _ => pure planned

def ExecutionState.prepare (plan : ActionPlan) : Calls AdapterError σ ExecutionState := do
  let plannedInstances ← plan.steps.foldlM (planInstance services) ∅
  pure { createdRoles := ∅, createdChannels := ∅, createdMessages := ∅, plannedInstances, createdInstances := ∅ }

/-- A response that cannot be edited is an error, unless instances have been torn down. -/
def editResponse (content : String) (output : RunResult) : Calls AdapterError σ RunResult := fun behind =>
  match services.editResponse content behind with
  | (.ok _, behind) => (.ok output, behind)
  | (.error error, behind) =>
    if output.teardowns = [] then (.error error, behind)
    else (.ok { output with teardowns := output.teardowns.map fun done => { done with response := .failed } }, behind)

def executeAction (guildId : GuildId) (action : PreparedAction) (progress : Progress) : Calls AdapterError σ Progress :=
  let state := progress.state
  let output := progress.output
  match action with
  | .grantRole role target => do
    services.grantRole guildId target role
    pure progress
  | .respondEphemeral content => do
    services.respondEphemeral content
    pure progress
  | .openModal modal => do
    services.openModal modal
    pure progress
  | .createChannel actionIndex key name => do
    let id ← services.createChannel guildId { name }
    pure { state := { state with createdChannels := state.createdChannels.insert key id }
           output := { output with created := output.created ++ [.channel actionIndex key name id] } }
  | .createRole actionIndex key name => do
    let id ← services.createRole guildId { name }
    pure { state := { state with createdRoles := state.createdRoles.insert key id }
           output := { output with created := output.created ++ [.role actionIndex key name id] } }
  | .upsertOverwrite channel target allow deny => do
    services.upsertOverwrite guildId channel target allow deny
    pure progress
  | .postPanel actionIndex key channel spec => do
    let id ← services.postPanel guildId channel spec
    pure { state := { state with createdMessages := state.createdMessages.insert key { channel, id } }
           output := { output with created := output.created ++ [.message actionIndex key channel id] } }
  | .deferEphemeral => do
    services.deferEphemeral
    pure progress
  | .editResponse content => do
    let output ← editResponse services content output
    pure { progress with output }
  | .registerInstance actionIndex key id registered => do
    (services.registerInstance registered).mapError instanceRegisterError
    pure { state := { state with createdInstances := state.createdInstances.insert key id }
           output := { output with created := output.created ++ [.ofInstance actionIndex key id] } }
  | .teardownInstance actionIndex instanceId => do
    let outcome ← (services.teardown guildId instanceId).mapError teardownError
    pure { progress with output := { output with
             teardowns := output.teardowns ++ [{ actionIndex, instanceId, teardown := outcome, response := .sent }] } }

variable (quote : String → String)

/-- One step: prepared in the state that the steps before it have left, then carried out. -/
def runStep (context : RuntimeContext) (progress : Progress) (step : PlannedAction × Nat) :
    Calls AdapterError σ Progress := do
  let action ← Calls.ofExcept (prepareAction quote step.2 step.1 context progress.state)
  executeAction services context.guildId action progress

def executePlan (context : RuntimeContext) (plan : ActionPlan) : Calls AdapterError σ RunResult := do
  let state ← ExecutionState.prepare services plan
  let progress ← plan.steps.zipIdx.foldlM (runStep services quote context)
    { state, output := { created := [], teardowns := [] } }
  pure progress.output

/-- The failure message is sent if it can be; what becomes of it is ignored. -/
def executePreparedEvent (prepared : PreparedEventExecution) (failureMessage : String) : Calls AdapterError σ Unit := do
  if prepared.leadingDeferEphemeral then services.deferEphemeral
  fun behind =>
    match executePlan services quote prepared.context prepared.plan behind with
    | (.ok _, behind) => (.ok (), behind)
    | (.error error, behind) =>
      match prepared.leadingDeferEphemeral, renderText quote failureMessage prepared.context .ephemeralMessageContent with
      | true, .ok rendered => (.error error, (services.editResponse rendered behind).2)
      | _, _ => (.error error, behind)

end Running

end Starring.Automation
