import Starring.Domain.Guild

/-! Interaction rulesets. A rule answers one kind of event with a list of actions; what an
action creates is named by a key, and later actions of the rule refer to it by that key. -/

namespace Starring.Automation
open Foundation

/-- A `BTreeMap` whose keys are strings. -/
abbrev StringMap (ι : Type) := Std.ExtTreeMap String ι

/-- `InstanceId::parse`: one to 32 ASCII letters, digits, underscores or dashes. -/
def isInstanceId (value : String) : Bool :=
  value != "" && value.utf8ByteSize ≤ 32 &&
    (utf8 value).all fun byte => isAsciiAlphanumeric byte || byte == 95 || byte == 45

structure InstanceId where
  value : String
  parsed : isInstanceId value = true
  deriving DecidableEq

structure InstanceRuleSetVersion where
  number : NonZeroU32
  deriving DecidableEq

structure InstanceKind where
  value : String
  deriving DecidableEq

structure InstanceMessageRef where
  channel : ChannelId
  id : MessageId
  deriving DecidableEq

structure InstanceResources where
  roles : StringMap RoleId
  channels : StringMap ChannelId
  messages : StringMap InstanceMessageRef

inductive InstanceStatus where
  | active
  | deleting
  | disabled
  | deleted
  deriving DecidableEq

structure AutomationInstance where
  id : InstanceId
  guildId : GuildId
  rulesetKey : String
  rulesetVersion : InstanceRuleSetVersion
  kind : InstanceKind
  createdBy : UserId
  resources : InstanceResources
  status : InstanceStatus

structure CreatedRef where
  created : String
  deriving DecidableEq

inductive InstanceRef where
  | event
  | created (reference : CreatedRef)
  deriving DecidableEq

structure InstanceResourceRefs where
  roles : StringMap CreatedRef
  channels : StringMap CreatedRef
  messages : StringMap CreatedRef

inductive RoleRef where
  | existing (key : ResourceKey)
  | created (reference : CreatedRef)
  | ofInstance (instanceRef : InstanceRef) (aliasName : String)
  deriving DecidableEq

inductive ChannelRef where
  | existing (key : ResourceKey)
  | created (reference : CreatedRef)
  deriving DecidableEq

inductive OverwriteTargetSpec where
  | everyone
  | role (role : RoleRef)
  deriving DecidableEq

inductive ActionTarget where
  | actor
  deriving DecidableEq

inductive ButtonRoute where
  | static (key : String)
  | instanceAction (instanceRef : InstanceRef) (action : String)
  deriving DecidableEq

structure ButtonSpec where
  label : String
  route : ButtonRoute
  deriving DecidableEq

structure PanelSpec where
  key : String
  channel : ResourceKey
  content : String
  buttons : List ButtonSpec
  deriving DecidableEq

inductive ModalFieldStyle where
  | short
  | paragraph
  deriving DecidableEq

inductive ModalInputPolicy where
  | preserve
  | trimUnicodeWhitespace
  deriving DecidableEq

structure ModalFieldSpec where
  key : String
  label : String
  style : ModalFieldStyle
  required : Bool
  minLength : Option UInt16
  maxLength : Option UInt16
  inputPolicy : ModalInputPolicy
  deriving DecidableEq

structure ModalSpec where
  key : String
  title : String
  fields : List ModalFieldSpec
  deriving DecidableEq

def discordModalInputMaxLength : UInt16 := 4000

inductive TriggerSpec where
  | buttonClick (component : String)
  | modalSubmit (modal : String)
  | instanceAction (action : String)
  deriving DecidableEq

inductive ActionSpec where
  | grantRole (role : RoleRef) (target : ActionTarget)
  | respondEphemeral (content : String)
  | openModal (modal : String)
  | createChannel (key name : String)
  | createRole (key name : String)
  | upsertOverwrite (channel : ChannelRef) (target : OverwriteTargetSpec) (allow deny : Permissions)
  | postPanel (key : String) (channel : ChannelRef) (content : String) (buttons : List ButtonSpec)
  | deferEphemeral
  | editResponse (content : String)
  | registerInstance (key : String) (kind : InstanceKind) (resources : InstanceResourceRefs)
  | teardownInstance (instanceRef : InstanceRef)

structure InteractionRule where
  key : String
  trigger : TriggerSpec
  actions : List ActionSpec

structure InteractionRuleSet where
  version : UInt32
  panels : List PanelSpec
  modals : List ModalSpec
  rules : List InteractionRule

end Starring.Automation
