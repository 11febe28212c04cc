import Starring.Domain.Guild

/-! Guilds under other ids. A renaming moves role ids and channel ids wherever a guild
mentions them; a guild none of whose ids are moved stays what it is. -/

namespace Starring
open List

structure Renaming where
  role : Equiv.Perm RoleId
  channel : Equiv.Perm ChannelId

section
variable (relabel : Renaming)

def OverwriteTarget.rename : OverwriteTarget → OverwriteTarget
  | role id => role (relabel.role id)
  | member id => member id

def PermissionOverwrite.rename (overwrite : PermissionOverwrite) : PermissionOverwrite :=
  { overwrite with target := overwrite.target.rename relabel }

def Role.rename (role : Role) : Role := { role with id := relabel.role role.id }

def Channel.rename (channel : Channel) : Channel :=
  { channel with
    id := relabel.channel channel.id
    parentId := channel.parentId.map relabel.channel
    overwrites := channel.overwrites.map (PermissionOverwrite.rename relabel) }

def Member.rename (member : Member) : Member := { member with roles := member.roles.map relabel.role }

def GuildState.rename (state : GuildState) : GuildState :=
  { state with
    roles := state.roles.map (Role.rename relabel)
    channels := state.channels.map (Channel.rename relabel)
    members := state.members.map (Member.rename relabel) }

theorem OverwriteTarget.rename_injective : Function.Injective (OverwriteTarget.rename relabel) := by
  intro first second same
  cases first <;> cases second <;> simp_all [OverwriteTarget.rename]

end

def OverwriteTarget.roleIds : OverwriteTarget → List RoleId
  | role id => [id]
  | member _ => []

section
variable {relabel : Renaming}

theorem PermissionOverwrite.rename_of_fixed {overwrite : PermissionOverwrite}
    (fixed : ∀ id ∈ overwrite.target.roleIds, relabel.role id = id) : overwrite.rename relabel = overwrite := by
  obtain ⟨target, allow, deny⟩ := overwrite
  cases target with
  | member id => rfl
  | role id => simp [PermissionOverwrite.rename, OverwriteTarget.rename, fixed id (mem_singleton_self id)]

/-- Only the id of a channel is renamed if neither its parent nor the roles of its overwrites are. -/
theorem Channel.rename_of_fixed {channel : Channel}
    (parent : ∀ id, channel.parentId = some id → relabel.channel id = id)
    (targets : ∀ overwrite ∈ channel.overwrites, ∀ id ∈ overwrite.target.roleIds, relabel.role id = id) :
    channel.rename relabel = { channel with id := relabel.channel channel.id } := by
  have under : channel.parentId.map relabel.channel = channel.parentId := by
    cases held : channel.parentId with
    | none => rfl
    | some id => rw [Option.map_some, parent id held]
  have overwrites : channel.overwrites.map (PermissionOverwrite.rename relabel) = channel.overwrites := by
    refine (map_congr_left fun overwrite mem => ?_).trans (map_id _)
    exact PermissionOverwrite.rename_of_fixed (targets overwrite mem)
  rw [Channel.rename, under, overwrites]

end

/-- The role ids that a guild mentions. The id of the guild is the one of everyone. -/
def GuildState.roleIds (state : GuildState) : List RoleId :=
  ⟨state.guild.id.value⟩ :: state.roles.map Role.id ++
    state.channels.flatMap (fun channel => channel.overwrites.flatMap fun overwrite => overwrite.target.roleIds) ++
    state.members.flatMap Member.roles

def GuildState.channelIds (state : GuildState) : List ChannelId :=
  state.channels.map Channel.id ++ state.channels.filterMap Channel.parentId

namespace Renaming
variable (relabel : Renaming) (state : GuildState)

structure Keeps : Prop where
  role : ∀ id ∈ state.roleIds, relabel.role id = id
  channel : ∀ id ∈ state.channelIds, relabel.channel id = id

variable {relabel state} (keeps : relabel.Keeps state)
include keeps

theorem Keeps.everyone : relabel.role ⟨state.guild.id.value⟩ = ⟨state.guild.id.value⟩ :=
  keeps.role _ mem_cons_self

theorem Keeps.role_id {role : Role} (mem : role ∈ state.roles) : relabel.role role.id = role.id := by
  refine keeps.role _ (mem_append_left _ (mem_append_left _ (mem_cons_of_mem _ ?_)))
  exact mem_map_of_mem mem

theorem Keeps.channel_id {channel : Channel} (mem : channel ∈ state.channels) : relabel.channel channel.id = channel.id :=
  keeps.channel _ (mem_append_left _ (mem_map_of_mem mem))

theorem Keeps.channel_rename {channel : Channel} (mem : channel ∈ state.channels) : channel.rename relabel = channel := by
  rw [Channel.rename_of_fixed, keeps.channel_id mem]
  · exact fun id held => keeps.channel id (mem_append_right _ (mem_filterMap.mpr ⟨channel, mem, held⟩))
  · intro overwrite held id target
    refine keeps.role id (mem_append_left _ (mem_append_right _ ?_))
    exact mem_flatMap.mpr ⟨channel, mem, mem_flatMap.mpr ⟨overwrite, held, target⟩⟩

theorem Keeps.rename : state.rename relabel = state := by
  have roles : state.roles.map (Role.rename relabel) = state.roles := by
    refine (map_congr_left fun role mem => ?_).trans (map_id _)
    rw [Role.rename, keeps.role_id mem]
    rfl
  have channels : state.channels.map (Channel.rename relabel) = state.channels := by
    refine (map_congr_left fun channel mem => ?_).trans (map_id _)
    exact keeps.channel_rename mem
  have members : state.members.map (Member.rename relabel) = state.members := by
    refine (map_congr_left fun member mem => ?_).trans (map_id _)
    have held : member.roles.map relabel.role = member.roles := by
      refine (map_congr_left fun id held => ?_).trans (map_id _)
      exact keeps.role id (mem_append_right _ (mem_flatMap.mpr ⟨member, mem, held⟩))
    rw [Member.rename, held]
    rfl
  rw [GuildState.rename, roles, channels, members]

end Renaming

end Starring
