import Starring.Executor.Store
import Starring.Foundation.UndoLog
import Starring.Planning.Relabelling

/-! What an execution records to be undone. The rollback actions of the steps so far are
undo logs of the roles and of the channels, whatever calls the guild has refused. -/

namespace Starring.Executor
open Foundation Foundation.UndoLog Planning List RollbackAction

structure RoleView where
  id : RoleId
  name : String
  permissions : Permissions
  deriving DecidableEq

/-- A channel without its position, and its overwrites in no order. -/
structure ChannelView where
  id : ChannelId
  name : String
  channelType : ChannelType
  parentId : Option ChannelId
  overwrites : Multiset PermissionOverwrite
  deriving DecidableEq

def roleView (role : Role) : RoleView := { id := role.id, name := role.name, permissions := role.permissions }

def channelView (channel : Channel) : ChannelView :=
  { id := channel.id, name := channel.name, channelType := channel.channelType, parentId := channel.parentId
    overwrites := channel.overwrites }

namespace ChannelView

def change (spec : ChannelSpec) (view : ChannelView) : ChannelView :=
  { view with
    name := spec.name.getD view.name
    channelType := spec.channelType.getD view.channelType
    parentId := spec.parentId.or view.parentId }

def putOverwrite (target : OverwriteTarget) (allow deny : Permissions) (view : ChannelView) : ChannelView :=
  { view with
    overwrites := view.overwrites.filter (fun overwrite => overwrite.target ≠ target) + {⟨target, allow, deny⟩} }

theorem putOverwrite_putOverwrite (target : OverwriteTarget) (allow deny first second : Permissions) (view : ChannelView) :
    putOverwrite target allow deny (putOverwrite target first second view) = putOverwrite target allow deny view := by
  simp [putOverwrite, Multiset.filter_add, Multiset.filter_filter, Multiset.filter_singleton]

theorem putOverwrite_comm {target other : OverwriteTarget} (differs : target ≠ other)
    (allow deny first second : Permissions) (view : ChannelView) :
    putOverwrite target allow deny (putOverwrite other first second view) =
      putOverwrite other first second (putOverwrite target allow deny view) := by
  simp only [putOverwrite, Multiset.filter_add, Multiset.filter_singleton, ne_eq, differs, Ne.symm differs,
    not_false_eq_true, if_true]
  have swap : ({⟨other, first, second⟩} : Multiset PermissionOverwrite) + {⟨target, allow, deny⟩} =
      {⟨target, allow, deny⟩} + {⟨other, first, second⟩} := Multiset.add_comm _ _
  rw [Multiset.filter_comm, Multiset.add_assoc, Multiset.add_assoc, swap]

end ChannelView

theorem channelView_change (spec : ChannelSpec) (channel : Channel) :
    (channelView channel).change spec = channelView (spec.change channel) := rfl

theorem channelView_putOverwrite (target : OverwriteTarget) (allow deny : Permissions) (channel : Channel) :
    (channelView channel).putOverwrite target allow deny = channelView (changeOverwrite target allow deny channel) := by
  simp [channelView, ChannelView.putOverwrite, changeOverwrite]
  rfl

def RollbackAction.roleUndo : RollbackAction → Option (Undo Role RoleId)
  | deleteRole id => some (.remove id)
  | restoreRole id before => some (.put id (changeRole (some before.name) (some before.permissions)))
  | recreateRole before => some (.bring before.id)
  | deleteChannel _ | restoreChannel _ _ | recreateChannel _ | restoreOverwrite _ _ _ => none

def restoringSpec (before : Channel) : ChannelSpec :=
  { name := some before.name, channelType := some before.channelType, parentId := before.parentId }

def RollbackAction.channelUndo : RollbackAction → Option (Undo ChannelView ChannelId)
  | deleteChannel id => some (.remove id)
  | restoreChannel id before => some (.put id (ChannelView.change (restoringSpec before)))
  | recreateChannel before => some (.bring before.id)
  | restoreOverwrite channel target (some before) =>
    some (.put channel (ChannelView.putOverwrite target before.allow before.deny))
  | restoreOverwrite _ _ none => some .stuck
  | deleteRole _ | restoreRole _ _ | recreateRole _ => none

/-- What the action restores is what the snapshot has. -/
def RollbackAction.Captured (snapshot : GuildState) : RollbackAction → Prop
  | restoreRole id before => snapshot.roles.find? (fun role => role.id = id) = some before
  | recreateRole before => snapshot.roles.find? (fun role => role.id = before.id) = some before
  | restoreChannel id before => snapshot.channels.find? (fun channel => channel.id = id) = some before
  | recreateChannel before => snapshot.channels.find? (fun channel => channel.id = before.id) = some before
  | restoreOverwrite channel target before =>
    before = (snapshot.channels.find? fun held => held.id = channel).bind fun held =>
      held.overwrites.find? fun overwrite => overwrite.target = target
  | deleteRole _ | deleteChannel _ => True

section
variable (snapshot : GuildState) (ids : Nat → UInt64)

/-- What has been done to the guild is recorded, the last action first. -/
structure Undoable (pending : List RollbackAction) (names : Names) (store : Store) : Prop where
  roles : Records Role.id snapshot.roles store.guild.roles (pending.filterMap roleUndo)
  channels : Records ChannelView.id (snapshot.channels.map channelView) (store.guild.channels.map channelView)
    (pending.filterMap channelUndo)
  captured : ∀ action ∈ pending, action.Captured snapshot
  roleNames : ∀ key id, names.role key = some id →
    (∃ role ∈ snapshot.roles, role.id = id) ∨ .deleteRole id ∈ pending
  channelNames : ∀ key id, names.channel key = some id →
    (∃ channel ∈ snapshot.channels, channel.id = id) ∨ .deleteChannel id ∈ pending
  rolesGiven : ∀ id, .deleteRole id ∈ pending → ∃ made < store.made, id = ⟨ids made⟩
  channelsGiven : ∀ id, .deleteChannel id ∈ pending → ∃ made < store.made, id = ⟨ids made⟩
  untouched : pending = [] → store.guild = snapshot

structure Unused (made : Nat) : Prop where
  first : ∀ earlier < made, ids earlier ≠ ids made
  role : ⟨ids made⟩ ∉ snapshot.roleIds
  channel : ⟨ids made⟩ ∉ snapshot.channelIds

end

section
variable {snapshot : GuildState} {ids : Nat → UInt64} {pending : List RollbackAction} {names : Names} {store : Store}

theorem remove_mem_roleUndo {id : RoleId} :
    .remove id ∈ pending.filterMap roleUndo ↔ .deleteRole id ∈ pending := by
  rw [mem_filterMap]
  constructor
  · rintro ⟨action, mem, same⟩
    cases action <;> cases same
    exact mem
  · exact fun mem => ⟨_, mem, rfl⟩

variable {id : ChannelId}

theorem remove_mem_channelUndo :
    .remove id ∈ pending.filterMap channelUndo ↔ .deleteChannel id ∈ pending := by
  rw [mem_filterMap]
  constructor
  · rintro ⟨action, mem, same⟩
    cases action with
    | deleteChannel other =>
      cases same
      exact mem
    | restoreOverwrite channel target before => cases before <;> cases same
    | deleteRole | restoreRole | recreateRole | restoreChannel | recreateChannel => cases same
  · exact fun mem => ⟨_, mem, rfl⟩

theorem exists_of_find? {α : Type} {rows : List α} {condition : α → Bool} {row : α}
    (found : rows.find? condition = some row) : ∃ row ∈ rows, condition row = true :=
  ⟨row, mem_of_find?_eq_some found, find?_some found⟩

theorem map_modifyFirst {change : Channel → Channel} {changed : ChannelView → ChannelView}
    (commutes : ∀ channel, changed (channelView channel) = channelView (change channel)) (id : ChannelId)
    (rows : List Channel) :
    (modifyFirst (fun channel => channel.id = id) change rows).map channelView =
      modifyFirst (fun view => view.id = id) changed (rows.map channelView) := by
  refine (modifyFirst_map (fun channel => ?_) commutes rows).symm
  rfl

theorem records_change {base rows : List Channel} {change : Channel → Channel} {changed : ChannelView → ChannelView}
    {log : List (Undo ChannelView ChannelId)}
    (commutes : ∀ channel, changed (channelView channel) = channelView (change channel))
    (records : Records ChannelView.id (base.map channelView)
      (modifyFirst (fun view => view.id = id) changed (rows.map channelView)) log) :
    Records ChannelView.id (base.map channelView)
      ((modifyFirst (fun channel => channel.id = id) change rows).map channelView) log := by
  rw [map_modifyFirst commutes]
  exact records

theorem records_filter {base rows : List Channel} {log : List (Undo ChannelView ChannelId)}
    (records : Records ChannelView.id (base.map channelView)
      ((rows.map channelView).filter fun view => view.id ≠ id) log) :
    Records ChannelView.id (base.map channelView) ((rows.filter fun channel => channel.id ≠ id).map channelView) log := by
  rw [filter_map] at records
  exact records

namespace Undoable
variable (undoable : Undoable snapshot ids pending names store)
include undoable

theorem called (calls : Nat) : Undoable snapshot ids pending names { store with calls } := { undoable with }

variable {guild : GuildState} {calls : Nat}

theorem extend {action : RollbackAction} {after : Names} {made : Nat} (later : store.made ≤ made)
    (roles : Records Role.id snapshot.roles guild.roles ((action :: pending).filterMap roleUndo))
    (channels : Records ChannelView.id (snapshot.channels.map channelView) (guild.channels.map channelView)
      ((action :: pending).filterMap channelUndo)) (captured : action.Captured snapshot)
    (roleNames : ∀ key id, after.role key = some id → names.role key = some id ∨ action = .deleteRole id)
    (channelNames : ∀ key id, after.channel key = some id → names.channel key = some id ∨ action = .deleteChannel id)
    (rolesGiven : ∀ id, action = .deleteRole id → ∃ earlier < made, id = ⟨ids earlier⟩)
    (channelsGiven : ∀ id, action = .deleteChannel id → ∃ earlier < made, id = ⟨ids earlier⟩) :
    Undoable snapshot ids (action :: pending) after { guild, calls, made } where
  roles := roles
  channels := channels
  captured other mem := (mem_cons.mp mem).elim (fun same => same ▸ captured) (undoable.captured other)
  roleNames key id found := by
    obtain before | rfl := roleNames key id found
    · exact (undoable.roleNames key id before).imp (fun known => known) (mem_cons_of_mem _)
    · exact .inr mem_cons_self
  channelNames key id found := by
    obtain before | rfl := channelNames key id found
    · exact (undoable.channelNames key id before).imp (fun known => known) (mem_cons_of_mem _)
    · exact .inr mem_cons_self
  rolesGiven id mem := by
    obtain new | older := mem_cons.mp mem
    · exact rolesGiven id new.symm
    · obtain ⟨earlier, before, given⟩ := undoable.rolesGiven id older
      exact ⟨earlier, before.trans_le later, given⟩
  channelsGiven id mem := by
    obtain new | older := mem_cons.mp mem
    · exact channelsGiven id new.symm
    · obtain ⟨earlier, before, given⟩ := undoable.channelsGiven id older
      exact ⟨earlier, before.trans_le later, given⟩
  untouched empty := (cons_ne_nil _ _ empty).elim

theorem addRole (unused : Unused snapshot ids store.made) (key : ResourceKey) (name : Option String)
    (permissions : Option Permissions) (calls : Nat) :
    Undoable snapshot ids (.deleteRole ⟨ids store.made⟩ :: pending) (names.bindRole key ⟨ids store.made⟩)
      { guild := { store.guild with roles := store.guild.roles ++ [newRole ⟨ids store.made⟩ name permissions] }
        calls, made := store.made + 1 } := by
  refine undoable.extend (Nat.le_succ _) (undoable.roles.add (fun first mem same => ?_) fun added => ?_) undoable.channels
    trivial (fun other id found => ?_) (fun _ _ found => .inl found)
    (fun id same => ⟨store.made, Nat.lt_succ_self _, (deleteRole.inj same).symm⟩) (by simp)
  · have same : first.id = ⟨ids store.made⟩ := same
    have known : first.id ∈ snapshot.roleIds :=
      mem_append_left _ (mem_append_left _ (mem_cons_of_mem _ (mem_map_of_mem mem)))
    exact unused.role (same ▸ known)
  · obtain ⟨earlier, before, given⟩ := undoable.rolesGiven _ (remove_mem_roleUndo.mp added)
    exact unused.first earlier before (RoleId.mk.inj given).symm
  · by_cases same : other = key
    · exact .inr (by simpa [Names.bindRole, same] using found)
    · exact .inl (by simpa [Names.bindRole, same] using found)

theorem addChannel (unused : Unused snapshot ids store.made) (key : ResourceKey) (name : Option String)
    (channelType : Option ChannelType) (parentId : Option ChannelId) (calls : Nat) :
    Undoable snapshot ids (.deleteChannel ⟨ids store.made⟩ :: pending) (names.bindChannel key ⟨ids store.made⟩)
      { guild := { store.guild with
          channels := store.guild.channels ++ [newChannel ⟨ids store.made⟩ name channelType parentId] }
        calls, made := store.made + 1 } := by
  refine undoable.extend (Nat.le_succ _) undoable.roles ?_ trivial (fun _ _ found => .inl found)
    (fun other id found => ?_) (by simp)
    fun id same => ⟨store.made, Nat.lt_succ_self _, (deleteChannel.inj same).symm⟩
  · rw [map_append]
    refine undoable.channels.add (fun first mem same => ?_) fun added => ?_
    · have same : first.id = ⟨ids store.made⟩ := same
      obtain ⟨channel, inBase, rfl⟩ := mem_map.mp mem
      exact unused.channel (same ▸ mem_append_left _ (mem_map.mpr ⟨channel, inBase, rfl⟩))
    · obtain ⟨earlier, before, given⟩ := undoable.channelsGiven _ (remove_mem_channelUndo.mp added)
      exact unused.first earlier before (ChannelId.mk.inj given).symm
  · by_cases same : other = key
    · exact .inr (by simpa [Names.bindChannel, same] using found)
    · exact .inl (by simpa [Names.bindChannel, same] using found)

theorem record {action : RollbackAction}
    (roles : Records Role.id snapshot.roles guild.roles ((action :: pending).filterMap roleUndo))
    (channels : Records ChannelView.id (snapshot.channels.map channelView) (guild.channels.map channelView)
      ((action :: pending).filterMap channelUndo)) (captured : action.Captured snapshot)
    (noRole : ∀ id, action ≠ .deleteRole id) (noChannel : ∀ id, action ≠ .deleteChannel id) :
    Undoable snapshot ids (action :: pending) names { store with guild, calls } :=
  undoable.extend (Nat.le_refl _) roles channels captured (fun _ _ found => .inl found) (fun _ _ found => .inl found)
    (fun id same => (noRole id same).elim) fun id same => (noChannel id same).elim

theorem amend (some_ : pending ≠ [])
    (roles : Records Role.id snapshot.roles guild.roles (pending.filterMap roleUndo))
    (channels : Records ChannelView.id (snapshot.channels.map channelView) (guild.channels.map channelView)
      (pending.filterMap channelUndo)) :
    Undoable snapshot ids pending names { store with guild, calls } :=
  { undoable with roles, channels, untouched := fun empty => (some_ empty).elim }

variable {key : ResourceKey}

theorem role_added {id : RoleId} (named : names.role key = some id)
    (missing : snapshot.roles.find? (fun role => role.id = id) = none) : .deleteRole id ∈ pending := by
  refine (undoable.roleNames key id named).resolve_left fun ⟨role, mem, same⟩ => ?_
  exact find?_eq_none.mp missing role mem (decide_eq_true same)

variable {id : ChannelId}

theorem channel_added (named : names.channel key = some id)
    (missing : snapshot.channels.find? (fun channel => channel.id = id) = none) : .deleteChannel id ∈ pending := by
  refine (undoable.channelNames key id named).resolve_left fun ⟨channel, mem, same⟩ => ?_
  exact find?_eq_none.mp missing channel mem (decide_eq_true same)

theorem updateRole {id : RoleId} (named : names.role key = some id) (name : Option String)
    (permissions : Option Permissions) (calls : Nat) : Undoable snapshot ids
      (((snapshot.roles.find? fun role => role.id = id).map (restoreRole id)).toList ++ pending) names
      { store with
        guild := { store.guild with
          roles := modifyFirst (fun role => role.id = id) (changeRole name permissions) store.guild.roles }
        calls } := by
  cases found : snapshot.roles.find? fun role => role.id = id with
  | none =>
    have added := undoable.role_added named found
    refine undoable.amend (ne_nil_of_mem added) ?_ undoable.channels
    exact undoable.roles.changeAdded (remove_mem_roleUndo.mpr added) fun _ => rfl
  | some before =>
    refine undoable.record ?_ undoable.channels found nofun nofun
    refine undoable.roles.change (fun _ => rfl) (fun _ => rfl) (fun _ => rfl) fun other mem row => ?_
    obtain ⟨action, held, same⟩ := mem_filterMap.mp mem
    cases action <;> cases same
    obtain rfl : before = _ := Option.some.inj (found.symm.trans (undoable.captured _ held))
    rfl

theorem deleteRole {id : RoleId} (named : names.role key = some id) (present : ∃ role ∈ store.guild.roles, role.id = id)
    (calls : Nat) : Undoable snapshot ids
      (((snapshot.roles.find? fun role => role.id = id).map recreateRole).toList ++ pending) names
      { store with
        guild := { store.guild with roles := store.guild.roles.filter fun role => role.id ≠ id }
        calls } := by
  cases found : snapshot.roles.find? fun role => role.id = id with
  | none =>
    have added := undoable.role_added named found
    refine undoable.amend (ne_nil_of_mem added) ?_ undoable.channels
    exact undoable.roles.dropAdded (remove_mem_roleUndo.mpr added)
  | some before =>
    have same : before.id = id := by simpa using find?_some found
    subst same
    refine undoable.record ?_ undoable.channels found nofun nofun
    exact undoable.roles.drop ⟨before, mem_of_find?_eq_some found, rfl⟩ present

theorem commutes (action : RollbackAction) (captured : action.Captured snapshot) {restore : ChannelView → ChannelView}
    (restores : action.channelUndo = some (.put id restore)) (other : ChannelView → ChannelView)
    (mem : .put id other ∈ pending.filterMap channelUndo) (view : ChannelView) :
    other (restore view) = restore (other view) := by
  obtain ⟨earlier, held, same⟩ := mem_filterMap.mp mem
  have capturedEarlier := undoable.captured earlier held
  cases action with
  | restoreChannel id before =>
    cases restores
    cases earlier with
    | restoreChannel other first =>
      cases same
      obtain rfl : before = first := Option.some.inj (captured.symm.trans capturedEarlier)
      rfl
    | restoreOverwrite channel target first =>
      cases first with
      | none => cases same
      | some first =>
        cases same
        rfl
    | deleteRole | restoreRole | recreateRole | deleteChannel | recreateChannel => cases same
  | restoreOverwrite channel target before =>
    cases before with
    | none => cases restores
    | some before =>
      cases restores
      cases earlier with
      | restoreChannel other first =>
        cases same
        rfl
      | restoreOverwrite channel second first =>
        cases first with
        | none => cases same
        | some first =>
          cases same
          by_cases differs : second = target
          · subst differs
            obtain rfl : before = first := Option.some.inj (captured.trans capturedEarlier.symm)
            rfl
          · exact ChannelView.putOverwrite_comm differs _ _ _ _ view
      | deleteRole | restoreRole | recreateRole | deleteChannel | recreateChannel => cases same
  | deleteRole | restoreRole | recreateRole | deleteChannel | recreateChannel => cases restores

theorem updateChannel (named : names.channel key = some id) (name : Option String) (channelType : Option ChannelType)
    (calls : Nat) : Undoable snapshot ids
      (((snapshot.channels.find? fun channel => channel.id = id).map (restoreChannel id)).toList ++ pending)
      names
      { store with
        guild := { store.guild with
          channels := modifyFirst (fun channel => channel.id = id)
            (ChannelSpec.change { name, channelType, parentId := none }) store.guild.channels }
        calls } := by
  cases found : snapshot.channels.find? fun channel => channel.id = id with
  | none =>
    have added := undoable.channel_added named found
    refine undoable.amend (ne_nil_of_mem added) undoable.roles (records_change (channelView_change _) ?_)
    exact undoable.channels.changeAdded (remove_mem_channelUndo.mpr added) fun _ => rfl
  | some before =>
    refine undoable.record undoable.roles (records_change (channelView_change _) ?_) found nofun nofun
    refine undoable.channels.change (fun _ => rfl) (fun _ => rfl) (fun view => ?_)
      (undoable.commutes (.restoreChannel id before) found rfl)
    simp [ChannelView.change, restoringSpec]

theorem deleteChannel (named : names.channel key = some id)
    (present : ∃ channel ∈ store.guild.channels, channel.id = id) (calls : Nat) : Undoable snapshot ids
      (((snapshot.channels.find? fun channel => channel.id = id).map recreateChannel).toList ++ pending) names
      { store with
        guild := { store.guild with channels := store.guild.channels.filter fun channel => channel.id ≠ id }
        calls } := by
  cases found : snapshot.channels.find? fun channel => channel.id = id with
  | none =>
    have added := undoable.channel_added named found
    refine undoable.amend (ne_nil_of_mem added) undoable.roles (records_filter ?_)
    exact undoable.channels.dropAdded (remove_mem_channelUndo.mpr added)
  | some before =>
    have same : before.id = id := by simpa using find?_some found
    subst same
    obtain ⟨channel, mem, here⟩ := present
    refine undoable.record undoable.roles (records_filter ?_) found nofun nofun
    exact undoable.channels.drop ⟨channelView before, mem_map_of_mem (mem_of_find?_eq_some found), rfl⟩
      ⟨channelView channel, mem_map_of_mem mem, here⟩

theorem putOverwrite {before : Option PermissionOverwrite} {target : OverwriteTarget}
    (captured : (restoreOverwrite id target before).Captured snapshot) (allow deny : Permissions)
    (calls : Nat) : Undoable snapshot ids (.restoreOverwrite id target before :: pending) names
      { store with
        guild := { store.guild with
          channels := modifyFirst (fun channel => channel.id = id) (changeOverwrite target allow deny)
            store.guild.channels }
        calls } := by
  refine undoable.record undoable.roles (records_change (channelView_putOverwrite target allow deny) ?_) captured nofun nofun
  cases before with
  | none => exact undoable.channels.stick fun _ => rfl
  | some before =>
    refine undoable.channels.change (fun _ => rfl) (fun _ => rfl) (fun view => ?_)
      (undoable.commutes (.restoreOverwrite id target (some before)) captured rfl)
    exact ChannelView.putOverwrite_putOverwrite _ _ _ _ _ view

end Undoable

end

end Starring.Executor
