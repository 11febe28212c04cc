import Starring.Foundation.Tables
import Starring.Planning.Operations

/-! A dry run of an operation graph on a guild. Keys are resolved against the guild
the plan was made for, and remembered; created resources get ids above all others. -/

namespace Starring.Planning
open Foundation

structure ResourceBindingMap where
  roleBindings : Std.ExtTreeMap ResourceKey RoleId
  channelBindings : Std.ExtTreeMap ResourceKey ChannelId

inductive ResolutionError where
  | unresolvedKey (key : String)
  | missingIdentity (key : String)
  deriving DecidableEq

structure ResourceResolutionContext where
  bindings : ResourceBindingMap
  normalized : NormalizedDesiredState
  resolver : ResourceResolver
  guildId : GuildId

/-- The id a key is bound to, or the one of the resource it resolves to, which is bound from then on. -/
def resolveKey {ρ ι : Type} (bindings : Std.ExtTreeMap ResourceKey ι) (key : ResourceKey)
    (resolved : Option (ResolveResult ρ)) (id : ρ → ι) :
    Except ResolutionError (ι × Std.ExtTreeMap ResourceKey ι) :=
  match bindings[key]? with
  | some bound => .ok (bound, bindings)
  | none =>
    match resolved with
    | none => .error (.missingIdentity key.value)
    | some (.existing current) => .ok (id current, bindings.insert key (id current))
    | some .missing | some (.conflict _) => .error (.unresolvedKey key.value)

namespace ResourceResolutionContext
variable (self : ResourceResolutionContext)

def new (normalized : NormalizedDesiredState) (resolver : ResourceResolver) (guildId : GuildId) :
    ResourceResolutionContext :=
  { bindings := ⟨∅, ∅⟩, normalized, resolver, guildId }

def bindRole (key : ResourceKey) (id : RoleId) : ResourceResolutionContext :=
  { self with bindings := { self.bindings with roleBindings := self.bindings.roleBindings.insert key id } }

def bindChannel (key : ResourceKey) (id : ChannelId) : ResourceResolutionContext :=
  { self with bindings := { self.bindings with channelBindings := self.bindings.channelBindings.insert key id } }

/-- What the first role with the key resolves to. -/
def resolvedRole (key : ResourceKey) : Option (ResolveResult Role) :=
  (self.normalized.roles.find? fun role => role.identity.key = key).map fun role =>
    self.resolver.resolveRole role.identity role.name

def resolvedChannel (key : ResourceKey) : Option (ResolveResult Channel) :=
  (self.normalized.channels.find? fun channel => channel.identity.key = key).map fun channel =>
    self.resolver.resolveChannel channel.identity channel.name

def resolveRoleKey (key : ResourceKey) : Except ResolutionError (RoleId × ResourceResolutionContext) := do
  let (id, roleBindings) ← resolveKey self.bindings.roleBindings key (self.resolvedRole key) Role.id
  return (id, { self with bindings := { self.bindings with roleBindings } })

def resolveChannelKey (key : ResourceKey) : Except ResolutionError (ChannelId × ResourceResolutionContext) := do
  let (id, channelBindings) ← resolveKey self.bindings.channelBindings key (self.resolvedChannel key) Channel.id
  return (id, { self with bindings := { self.bindings with channelBindings } })

def resolveTarget : NormalizedTarget → Except ResolutionError (OverwriteTarget × ResourceResolutionContext)
  | .everyone => .ok (.role ⟨self.guildId.value⟩, self)
  | .role key => do
    let (id, resources) ← self.resolveRoleKey key
    return (.role id, resources)
  | .member id => do
    let raw ← orReject (parseU64 id) (.unresolvedKey id)
    return (.member ⟨raw⟩, self)

end ResourceResolutionContext

inductive VirtualApplyError where
  | unresolvedKey (key : String)
  | missingIdentity (key : String)
  | graphCycle
  deriving DecidableEq

def VirtualApplyError.ofResolution : ResolutionError → VirtualApplyError
  | .unresolvedKey key => .unresolvedKey key
  | .missingIdentity key => .missingIdentity key

structure VirtualApplyResult where
  after : GuildState
  applied : List OpId
  syntheticRoles : Std.ExtTreeMap ResourceKey RoleId
  syntheticChannels : Std.ExtTreeMap ResourceKey ChannelId
  warnings : List String

structure ApplyContext where
  after : GuildState
  resources : ResourceResolutionContext
  nextId : UInt64
  syntheticRoles : Std.ExtTreeMap ResourceKey RoleId
  syntheticChannels : Std.ExtTreeMap ResourceKey ChannelId
  applied : List OpId
  warnings : List String

/-- The largest id of the guild, its roles and its channels. -/
def maxId (current : GuildState) : UInt64 :=
  let roles := current.roles.foldl (fun largest role => max largest role.id.value) current.guild.id.value
  current.channels.foldl (fun largest channel => max largest channel.id.value) roles

namespace ApplyContext

def new (current : GuildState) (normalized : NormalizedDesiredState) (resolver : ResourceResolver) : ApplyContext where
  after := current
  resources := .new normalized resolver current.guild.id
  nextId := maxId current + 1
  syntheticRoles := ∅
  syntheticChannels := ∅
  applied := []
  warnings := []

variable (self : ApplyContext)

def resolveRoleKey (key : ResourceKey) : Except VirtualApplyError (RoleId × ApplyContext) := do
  let (id, resources) ← (self.resources.resolveRoleKey key).mapError .ofResolution
  return (id, { self with resources })

def resolveChannelKey (key : ResourceKey) : Except VirtualApplyError (ChannelId × ApplyContext) := do
  let (id, resources) ← (self.resources.resolveChannelKey key).mapError .ofResolution
  return (id, { self with resources })

def resolveTarget (target : NormalizedTarget) : Except VirtualApplyError (OverwriteTarget × ApplyContext) := do
  let (target, resources) ← (self.resources.resolveTarget target).mapError .ofResolution
  return (target, { self with resources })

def setRoles (roles : List Role) : ApplyContext := { self with after := { self.after with roles } }
def setChannels (channels : List Channel) : ApplyContext := { self with after := { self.after with channels } }

end ApplyContext

def newRole (id : RoleId) (name : Option String) (permissions : Option Permissions) : Role :=
  { id, name := name.getD "", permissions := permissions.getD .empty, position := 0, managed := false }

def newChannel (id : ChannelId) (name : Option String) (channelType : Option ChannelType)
    (parentId : Option ChannelId) : Channel :=
  { id, name := name.getD "", channelType := channelType.getD .text, parentId, position := 0, overwrites := [] }

def changeRole (name : Option String) (permissions : Option Permissions) (role : Role) : Role :=
  { role with name := name.getD role.name, permissions := permissions.getD role.permissions }

def changeChannel (name : Option String) (channelType : Option ChannelType) (channel : Channel) : Channel :=
  { channel with name := name.getD channel.name, channelType := channelType.getD channel.channelType }

/-- The overwrites of the target give way to one. -/
def changeOverwrite (target : OverwriteTarget) (allow deny : Permissions) (channel : Channel) : Channel :=
  { channel with
    overwrites := (channel.overwrites.filter fun overwrite => overwrite.target ≠ target) ++
      [{ target, allow, deny }] }

namespace ApplyContext
variable (self : ApplyContext)

def createRole (key : ResourceKey) (name : Option String) (permissions : Option Permissions) : ApplyContext :=
  let id : RoleId := ⟨self.nextId⟩
  { self with
    after := { self.after with roles := self.after.roles ++ [newRole id name permissions] }
    resources := self.resources.bindRole key id
    nextId := self.nextId + 1
    syntheticRoles := self.syntheticRoles.insert key id }

def bindNewChannel (key : ResourceKey) : ApplyContext :=
  let id : ChannelId := ⟨self.nextId⟩
  { self with
    resources := self.resources.bindChannel key id
    nextId := self.nextId + 1
    syntheticChannels := self.syntheticChannels.insert key id }

def resolveParent : Option ResourceKey → Except VirtualApplyError (Option ChannelId × ApplyContext)
  | some parent => do
    let (parentId, context) ← self.resolveChannelKey parent
    return (some parentId, context)
  | none => .ok (none, self)

/-- The new channel is bound before its parent is resolved. -/
def createChannel (key : ResourceKey) (name : Option String) (channelType : Option ChannelType)
    (parent : Option ResourceKey) : Except VirtualApplyError ApplyContext := do
  let id : ChannelId := ⟨self.nextId⟩
  let (parentId, context) ← (self.bindNewChannel key).resolveParent parent
  return context.setChannels (context.after.channels ++ [newChannel id name channelType parentId])

def putOverwrite (channel : ResourceKey) (target : NormalizedTarget) (allow deny : Permissions) :
    Except VirtualApplyError ApplyContext := do
  let (channelId, context) ← self.resolveChannelKey channel
  let (target, context) ← context.resolveTarget target
  if context.after.channels.any fun held => held.id = channelId then
    return context.setChannels
      (modifyFirst (fun held => held.id = channelId) (changeOverwrite target allow deny) context.after.channels)
  else return { context with warnings := context.warnings ++ ["overwrite channel not found: " ++ channel.value] }

def applyOperation : Operation → Except VirtualApplyError ApplyContext
  | .createRole key name permissions => .ok (self.createRole key name permissions)
  | .updateRole key name permissions => do
    let (id, context) ← self.resolveRoleKey key
    return context.setRoles (modifyFirst (fun role => role.id = id) (changeRole name permissions) context.after.roles)
  | .deleteRole key => do
    let (id, context) ← self.resolveRoleKey key
    return context.setRoles (context.after.roles.filter fun role => role.id ≠ id)
  | .createChannel key name channelType parent => self.createChannel key name channelType parent
  | .updateChannel key name channelType => do
    let (id, context) ← self.resolveChannelKey key
    return context.setChannels
      (modifyFirst (fun channel => channel.id = id) (changeChannel name channelType) context.after.channels)
  | .deleteChannel key => do
    let (id, context) ← self.resolveChannelKey key
    return context.setChannels (context.after.channels.filter fun channel => channel.id ≠ id)
  | .createOverwrite channel target allow deny | .updateOverwrite channel target allow deny =>
    self.putOverwrite channel target allow deny

/-- An id that no node has is passed over. -/
def applyNode (graph : OperationGraph) (id : OpId) : Except VirtualApplyError ApplyContext :=
  match graph.nodes.find? fun node => node.id = id with
  | none => .ok self
  | some node => do
    let context ← self.applyOperation node.operation
    return { context with applied := context.applied ++ [id] }

def intoResult : VirtualApplyResult where
  after := self.after
  applied := self.applied
  syntheticRoles := self.syntheticRoles
  syntheticChannels := self.syntheticChannels
  warnings := self.warnings

end ApplyContext

def apply (current : GuildState) (graph : OperationGraph) (normalized : NormalizedDesiredState)
    (resolver : ResourceResolver) : Except VirtualApplyError VirtualApplyResult := do
  let order ← graph.topologicalOrder.mapError fun _ => .graphCycle
  let context ← order.foldlM (fun context id => context.applyNode graph id)
    (ApplyContext.new current normalized resolver)
  return context.intoResult

end Starring.Planning
