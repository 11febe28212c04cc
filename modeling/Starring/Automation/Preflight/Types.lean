import Starring.Automation.Creation

/-! Plans that are prepared as a whole before anything is called. A step is known by its
place in the plan, its entry, and what it creates is referred to by this entry. -/

namespace Starring.Automation
open Foundation

def maxPreflightActions : Nat := 256
def maxPreflightDigestMaterialBytes : Nat := 1048576

abbrev ActionEntryId := Fin maxPreflightActions

/-- The same four kinds as in the checks of a ruleset. -/
abbrev ProducerOutputKind := CreatedKind

/-- The output of an earlier step, of a known kind. -/
structure CreatedOutputRef (kind : ProducerOutputKind) where
  producer : ActionEntryId
  deriving DecidableEq

abbrev CreatedRoleOutputRef := CreatedOutputRef .role
abbrev CreatedChannelOutputRef := CreatedOutputRef .channel
abbrev CreatedMessageOutputRef := CreatedOutputRef .message
abbrev CreatedInstanceOutputRef := CreatedOutputRef .ofInstance

inductive FreshObservation where
  | guildRoles
  | guildChannels
  | botMember
  | actorMember
  deriving DecidableEq

namespace FreshObservation

/-- `observation_tag`, which is also the place in the order. -/
def tag : FreshObservation → Nat
  | guildRoles => 0
  | guildChannels => 1
  | botMember => 2
  | actorMember => 3

instance : Ord FreshObservation := ⟨compareOn tag⟩

instance : Std.TransOrd FreshObservation := inferInstanceAs (Std.TransCmp (compareOn tag))

end FreshObservation

inductive ActionInputDependency where
  | static
  | priorEffect (entry : ActionEntryId)
  | freshObservation (observation : FreshObservation)
  deriving DecidableEq

namespace ActionInputDependency

def rank : ActionInputDependency → Nat
  | static => 0
  | priorEffect _ => 1
  | freshObservation _ => 2

def place : ActionInputDependency → Nat
  | static => 0
  | priorEffect entry => entry.val
  | freshObservation observation => observation.tag

instance : Ord ActionInputDependency := ⟨compareLex (compareOn rank) (compareOn place)⟩

instance : Std.TransOrd ActionInputDependency :=
  inferInstanceAs (Std.TransCmp (compareLex (compareOn rank) (compareOn place)))

end ActionInputDependency

/-- Ids in ascending order. -/
abbrev IdSet := Std.ExtTreeSet UInt64

structure ActionPlanSnapshotRequest where
  guildId : GuildId
  actor : UserId
  observations : Std.ExtTreeSet FreshObservation
  existingRoles : IdSet
  existingChannels : IdSet

/-- `ActionPlanSnapshotIdentityV1::new`: one to 128 visible ASCII characters. -/
def isSnapshotIdentity (value : String) : Bool :=
  value != "" && value.utf8ByteSize ≤ 128 && (utf8 value).all fun byte => 33 ≤ byte.toNat && byte.toNat ≤ 126

structure ActionPlanSnapshotIdentity where
  value : String
  checked : isSnapshotIdentity value = true
  deriving DecidableEq

inductive PreflightRoleRef where
  | existing (id : RoleId)
  | ofInstance (id : RoleId)
  | produced (reference : CreatedRoleOutputRef)
  deriving DecidableEq

inductive PreflightChannelRef where
  | existing (id : ChannelId)
  | produced (reference : CreatedChannelOutputRef)
  deriving DecidableEq

inductive PreflightOverwriteTarget where
  | everyone
  | role (role : PreflightRoleRef)
  deriving DecidableEq

inductive PreflightInstanceRef where
  | existing (id : InstanceId)
  | registered (reference : CreatedInstanceOutputRef)
  deriving DecidableEq

inductive PreflightButtonRoute where
  | static (key : String)
  | instanceAction (instanceId : InstanceId) (producer : Option CreatedInstanceOutputRef) (action : String)
  deriving DecidableEq

structure PreflightButtonSpec where
  label : String
  route : PreflightButtonRoute
  deriving DecidableEq

structure PreflightInstanceResourceRefs where
  roles : StringMap CreatedRoleOutputRef
  channels : StringMap CreatedChannelOutputRef
  messages : StringMap CreatedMessageOutputRef

inductive PreparedPlanAction where
  | grantRole (entry : ActionEntryId) (role : PreflightRoleRef) (target : UserId)
  | respondEphemeral (entry : ActionEntryId) (content : String)
  | openModal (entry : ActionEntryId) (modal : ModalPresentation)
  | createChannel (entry : ActionEntryId) (output : CreatedChannelOutputRef) (key name : String)
  | createRole (entry : ActionEntryId) (output : CreatedRoleOutputRef) (key name : String)
  | upsertOverwrite (entry : ActionEntryId) (channel : PreflightChannelRef) (target : PreflightOverwriteTarget)
    (allow deny : Permissions)
  | postPanel (entry : ActionEntryId) (output : CreatedMessageOutputRef) (key : String) (channel : PreflightChannelRef)
    (content : String) (buttons : List PreflightButtonSpec)
  | deferEphemeral (entry : ActionEntryId)
  | editResponse (entry : ActionEntryId) (content : String)
  | registerInstance (entry : ActionEntryId) (output : CreatedInstanceOutputRef) (key : String) (id : InstanceId)
    (kind : InstanceKind) (resources : PreflightInstanceResourceRefs)
  | teardownInstance (entry : ActionEntryId) (instanceRef : PreflightInstanceRef)

structure PreparedActionPlan where
  context : RuntimeContext
  actions : List PreparedPlanAction
  snapshotRequest : ActionPlanSnapshotRequest
  dependencies : Std.ExtTreeMap ActionEntryId (Std.ExtTreeSet ActionInputDependency)
  digestMaterial : List UInt8

/-- A plan that has been held against a snapshot of the guild. -/
structure PreflightedActionPlan where
  prepared : PreparedActionPlan
  snapshotIdentity : ActionPlanSnapshotIdentity

/-- The errors of the preparation, and the two that the execution can make of them. -/
inductive ActionPlanPreflightError where
  | tooManyActions (count limit : Nat)
  | invalidContext
  | invalidKey (entry : ActionEntryId)
  | duplicateProducerKey (key : String) (first duplicate : ActionEntryId)
  | unknownProducer (entry : ActionEntryId) (key : String) (expected : ProducerOutputKind)
  | producerTypeMismatch (entry : ActionEntryId) (key : String) (expected actual : ProducerOutputKind)
  | producerNotPrior (entry producer : ActionEntryId)
  | instanceContextMissing (entry : ActionEntryId)
  | instanceContextGuildMismatch (entry : ActionEntryId)
  | instanceResourceMissing (entry : ActionEntryId) (aliasName : String)
  | instanceIdGeneration (entry : ActionEntryId) (error : String)
  | duplicatePreallocatedInstanceId (entry : ActionEntryId)
  | unsupportedGrantTarget (entry : ActionEntryId)
  | template (entry : ActionEntryId) (error : TemplateError)
  | invalidModal (entry : ActionEntryId)
  | invalidPanel (entry : ActionEntryId)
  | conflictingOverwrite (entry : ActionEntryId)
  | digestMaterialTooLarge (size limit : Nat)
  | requiredRoleMissing (role : RoleId)
  | requiredChannelMissing (channel : ChannelId)
  | snapshotDrift
  | executionInvariant (entry : ActionEntryId)

/-- The number of characters lies between the bounds. -/
def boundedText (value : String) (least most : Nat) : Bool := least ≤ value.length && value.length ≤ most

def boundedKey (value : String) : Bool := boundedText value 1 100

def invalidModalField (field : ModalFieldSpec) : Bool :=
  !boundedText field.key 1 100 || !boundedText field.label 1 45 || field.maxLength == some 0 ||
    field.maxLength.any (· > discordModalInputMaxLength) || field.minLength.any (· > discordModalInputMaxLength) ||
    field.minLength.any fun least => field.maxLength.any (least > ·)

def validateModalShape (entry : ActionEntryId) (modal : ModalPresentation) : Except ActionPlanPreflightError Unit :=
  rejectIf (!boundedText modal.key 1 100 || !boundedText modal.title 1 45 || modal.fields.isEmpty ||
    modal.fields.length > 5 || modal.fields.any invalidModalField) (.invalidModal entry)

def ButtonRoute.boundedKey : ButtonRoute → Bool
  | static key => Automation.boundedKey key
  | instanceAction _ action => Automation.boundedKey action

def validateButtonsShape (entry : ActionEntryId) (buttons : List ButtonSpec) : Except ActionPlanPreflightError Unit :=
  rejectIf (buttons.length > 5 || buttons.any fun button => !boundedText button.label 1 80 || !button.route.boundedKey)
    (.invalidPanel entry)

end Starring.Automation
