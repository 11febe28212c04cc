import Starring.Executor.Execute

/-! A guild behind the adapter. A call takes full effect or is refused and changes
nothing; whether it is refused may depend on how many calls there were and on whether
the resource that it addresses exists. Created resources get the ids of a supply. -/

namespace Starring.Executor
open Foundation Planning

structure Store where
  guild : GuildState
  calls : Nat
  made : Nat

section
variable (ids : Nat → UInt64) (refuses : Nat → Bool → Option AdapterError)

def Store.serve {α : Type} (store : Store) (known : Bool) (value : α) (effect : GuildState → GuildState) (made : Nat) :
    Except AdapterError α × Store :=
  match refuses store.calls known with
  | some error => (.error error, { store with calls := store.calls + 1 })
  | none => (.ok value, { guild := effect store.guild, calls := store.calls + 1, made := store.made + made })

/-- A parent that is not given stays. -/
def ChannelSpec.change (spec : ChannelSpec) (channel : Channel) : Channel :=
  { changeChannel spec.name spec.channelType channel with parentId := spec.parentId.or channel.parentId }

def guildStore : DiscordAdapter Store where
  createRole _ spec store :=
    store.serve refuses true ⟨ids store.made⟩
      (fun guild => { guild with roles := guild.roles ++ [newRole ⟨ids store.made⟩ spec.name spec.permissions] }) 1
  updateRole _ id spec store :=
    store.serve refuses (store.guild.roles.any fun role => role.id = id) ()
      (fun guild => { guild with
        roles := modifyFirst (fun role => role.id = id) (changeRole spec.name spec.permissions) guild.roles }) 0
  deleteRole _ id store :=
    store.serve refuses (store.guild.roles.any fun role => role.id = id) ()
      (fun guild => { guild with roles := guild.roles.filter fun role => role.id ≠ id }) 0
  createChannel _ spec store :=
    store.serve refuses true ⟨ids store.made⟩
      (fun guild => { guild with
        channels := guild.channels ++ [newChannel ⟨ids store.made⟩ spec.name spec.channelType spec.parentId] }) 1
  updateChannel _ id spec store :=
    store.serve refuses (store.guild.channels.any fun channel => channel.id = id) ()
      (fun guild => { guild with
        channels := modifyFirst (fun channel => channel.id = id) spec.change guild.channels }) 0
  deleteChannel _ id store :=
    store.serve refuses (store.guild.channels.any fun channel => channel.id = id) ()
      (fun guild => { guild with channels := guild.channels.filter fun channel => channel.id ≠ id }) 0
  upsertOverwrite _ id target allow deny store :=
    store.serve refuses (store.guild.channels.any fun channel => channel.id = id) ()
      (fun guild => { guild with
        channels := modifyFirst (fun channel => channel.id = id) (changeOverwrite target allow deny) guild.channels }) 0

end

end Starring.Executor
