import Starring.Automation.Validate

/-! From an event to a plan. The first rule whose trigger matches is turned into steps, with
the resources that exist already resolved by the bindings. -/

namespace Starring.Automation
open Foundation
open Planning (ResourceBindingMap)

inductive EventKind where
  | buttonClick (component : String)
  | modalSubmit (modal : String) (inputs : StringMap String)
  | instanceAction (instanceId : InstanceId) (action : String)

structure RuntimeEvent where
  guildId : GuildId
  actor : UserId
  kind : EventKind

structure ResolvedInstanceContext where
  resolved : AutomationInstance
  action : String

structure RunningRuleSetIdentity where
  key : String
  version : InstanceRuleSetVersion

structure RuntimeContext where
  guildId : GuildId
  actor : UserId
  rulesetKey : String
  rulesetVersion : InstanceRuleSetVersion
  inputs : StringMap String
  resolvedInstance : Option ResolvedInstanceContext

def RuntimeContext.fromEvent (event : RuntimeEvent) (identity : RunningRuleSetIdentity) : RuntimeContext where
  guildId := event.guildId
  actor := event.actor
  rulesetKey := identity.key
  rulesetVersion := identity.version
  inputs := match event.kind with
    | .modalSubmit _ inputs => inputs
    | .buttonClick _ | .instanceAction _ _ => ∅
  resolvedInstance := none

structure ModalPresentation where
  key : String
  title : String
  fields : List ModalFieldSpec
  deriving DecidableEq

inductive PlannedRole where
  | resolved (id : RoleId)
  | created (key : String)
  | ofInstance (aliasName : String)
  deriving DecidableEq

inductive PlannedChannel where
  | resolved (id : ChannelId)
  | created (key : String)
  deriving DecidableEq

inductive PlannedOverwriteTarget where
  | everyone
  | role (role : PlannedRole)
  deriving DecidableEq

inductive PlannedAction where
  | grantRole (role : PlannedRole) (target : UserId)
  | respondEphemeral (content : String)
  | openModal (modal : ModalPresentation)
  | createChannel (key name : String)
  | createRole (key name : String)
  | upsertOverwrite (channel : PlannedChannel) (target : PlannedOverwriteTarget) (allow deny : Permissions)
  | postPanel (key : String) (channel : PlannedChannel) (content : String) (buttons : List ButtonSpec)
  | deferEphemeral
  | editResponse (content : String)
  | registerInstance (key : String) (kind : InstanceKind) (resources : InstanceResourceRefs)
  | teardownInstance (instanceRef : InstanceRef)

structure ActionPlan where
  steps : List PlannedAction

def triggerMatches : TriggerSpec → EventKind → Bool
  | .buttonClick component, .buttonClick clicked => component == clicked
  | .modalSubmit modal, .modalSubmit submitted _ => modal == submitted
  | .instanceAction action, .instanceAction _ received => action == received
  | _, _ => false

def resolveRole (bindings : ResourceBindingMap) : RoleRef → Option PlannedRole
  | .existing key => bindings.roleBindings[key]?.map .resolved
  | .created reference => some (.created reference.created)
  | .ofInstance .event aliasName => some (.ofInstance aliasName)
  | .ofInstance (.created _) _ => none

def resolveChannel (bindings : ResourceBindingMap) : ChannelRef → Option PlannedChannel
  | .existing key => bindings.channelBindings[key]?.map .resolved
  | .created reference => some (.created reference.created)

def resolveTarget (bindings : ResourceBindingMap) : OverwriteTargetSpec → Option PlannedOverwriteTarget
  | .everyone => some .everyone
  | .role role => (resolveRole bindings role).map .role

/-- The step of an action, if everything it names can be found. -/
def interpretAction (event : RuntimeEvent) (ruleset : InteractionRuleSet) (bindings : ResourceBindingMap) :
    ActionSpec → Option PlannedAction
  | .grantRole role .actor => (resolveRole bindings role).map fun role => .grantRole role event.actor
  | .respondEphemeral content => some (.respondEphemeral content)
  | .openModal modal =>
    (ruleset.modals.find? fun candidate => candidate.key == modal).map fun spec =>
      .openModal { key := spec.key, title := spec.title, fields := spec.fields }
  | .createChannel key name => some (.createChannel key name)
  | .createRole key name => some (.createRole key name)
  | .upsertOverwrite channel target allow deny => do
    let channel ← resolveChannel bindings channel
    let target ← resolveTarget bindings target
    some (.upsertOverwrite channel target allow deny)
  | .postPanel key channel content buttons =>
    (resolveChannel bindings channel).map fun channel => .postPanel key channel content buttons
  | .deferEphemeral => some .deferEphemeral
  | .editResponse content => some (.editResponse content)
  | .registerInstance key kind resources => some (.registerInstance key kind resources)
  | .teardownInstance instanceRef => some (.teardownInstance instanceRef)

def interpretRule (event : RuntimeEvent) (ruleset : InteractionRuleSet) (bindings : ResourceBindingMap)
    (rule : InteractionRule) : Option ActionPlan :=
  (rule.actions.mapM (interpretAction event ruleset bindings)).map ActionPlan.mk

def interpret (event : RuntimeEvent) (ruleset : InteractionRuleSet) (bindings : ResourceBindingMap) :
    Option ActionPlan := do
  let rule ← ruleset.rules.find? fun rule => triggerMatches rule.trigger event.kind
  interpretRule event ruleset bindings rule

end Starring.Automation
