import Starring.Planning.DryRun
import Starring.Planning.Reconcile

/-! A dry run as edits to the tables of roles and channels. The keys of the operations
stand for the ids that they are bound to at the end, since no key is bound twice. -/

namespace Starring.Planning
open Foundation Table List

def ResourceBindingMap.Grows (first second : ResourceBindingMap) : Prop :=
  Planning.Grows first.roleBindings second.roleBindings ∧ Planning.Grows first.channelBindings second.channelBindings

theorem ResourceBindingMap.Grows.refl (bindings : ResourceBindingMap) : bindings.Grows bindings :=
  ⟨.refl _, .refl _⟩

theorem ResourceBindingMap.Grows.trans {first second third : ResourceBindingMap} (early : first.Grows second)
    (late : second.Grows third) : first.Grows third := ⟨early.1.trans late.1, early.2.trans late.2⟩

section
variable (guild : GuildState) (normalized : NormalizedDesiredState)

def roleFor : ResourceKey → Option (ResolveResult Role) := roleFamily.rowFor guild.roles normalized.roles
def channelFor : ResourceKey → Option (ResolveResult Channel) :=
  channelFamily.rowFor guild.channels normalized.channels

/-- The context with which keys are resolved, up to what is bound. -/
def resourcesWith (bindings : ResourceBindingMap) : ResourceResolutionContext :=
  { bindings, normalized, resolver := inMemoryMatchResolver guild, guildId := guild.guild.id }

/-- A context in which the operations can be carried out: what they create has no id yet, and there
are ids left for it. -/
structure Ready (limit : Nat) (operations : List Operation) (context : ApplyContext) : Prop where
  source : context.resources = resourcesWith guild normalized context.resources.bindings
  base : context.after.guild = guild.guild
  roles : Ledger (roleFor guild normalized) Role.id (fun id => id.value.toNat) (maxId guild).toNat
    context.nextId.toNat context.resources.bindings.roleBindings
  channels : Ledger (channelFor guild normalized) Channel.id (fun id => id.value.toNat) (maxId guild).toNat
    context.nextId.toNat context.resources.bindings.channelBindings
  above : (maxId guild).toNat < context.nextId.toNat
  rolesBelow : ∀ role ∈ context.after.roles, role.id.value.toNat < context.nextId.toNat
  channelsBelow : ∀ channel ∈ context.after.channels, channel.id.value.toNat < context.nextId.toNat
  room : context.nextId.toNat + operations.length ≤ limit
  targets : (operations.map Operation.target).Nodup
  newRoles : ∀ key name permissions, .createRole key name permissions ∈ operations →
    context.resources.bindings.roleBindings[key]? = none ∧ roleFor guild normalized key = some .missing
  newChannels : ∀ key name channelType parent, .createChannel key name channelType parent ∈ operations →
    context.resources.bindings.channelBindings[key]? = none ∧ channelFor guild normalized key = some .missing

end

structure Kept (context next : ApplyContext) : Prop where
  after : next.after = context.after
  nextId : next.nextId = context.nextId
  grows : context.resources.bindings.Grows next.resources.bindings

namespace Ready
variable {guild : GuildState} {normalized : NormalizedDesiredState} {limit : Nat} {operations : List Operation}
  {context next : ApplyContext} {key : ResourceKey}

theorem resolveRoleKey (ready : Ready guild normalized limit operations context) {id : RoleId}
    (ok : context.resolveRoleKey key = .ok (id, next)) :
    Ready guild normalized limit operations next ∧ Kept context next ∧
      next.resources.bindings.roleBindings[key]? = some id := by
  obtain ⟨⟨_, resources⟩, resolved, made⟩ := bind_eq_ok.mp ok
  obtain ⟨rfl, rfl⟩ := Prod.mk.inj (Except.ok.inj made)
  rw [mapError_eq_ok] at resolved
  obtain ⟨⟨_, bindings⟩, found, made⟩ := bind_eq_ok.mp resolved
  obtain ⟨rfl, rfl⟩ := Prod.mk.inj (Except.ok.inj made)
  have lookup : context.resources.resolvedRole key = roleFor guild normalized key := by
    rw [ready.source]
    rfl
  rw [lookup] at found
  have grows : context.resources.bindings.Grows { context.resources.bindings with roleBindings := bindings } :=
    ⟨resolveKey_grows found, .refl _⟩
  refine ⟨{ ready with source := ?_, roles := ready.roles.resolve found, newRoles := ?_ }, ⟨rfl, rfl, grows⟩,
    (resolveKey_ok found).1⟩
  · rw [ready.source]
    rfl
  · intro created name permissions mem
    obtain ⟨unbound, missing⟩ := ready.newRoles created name permissions mem
    exact ⟨resolveKey_unbound found unbound missing, missing⟩

theorem resolveChannelKey (ready : Ready guild normalized limit operations context) {id : ChannelId}
    (ok : context.resolveChannelKey key = .ok (id, next)) :
    Ready guild normalized limit operations next ∧ Kept context next ∧
      next.resources.bindings.channelBindings[key]? = some id := by
  obtain ⟨⟨_, resources⟩, resolved, made⟩ := bind_eq_ok.mp ok
  obtain ⟨rfl, rfl⟩ := Prod.mk.inj (Except.ok.inj made)
  rw [mapError_eq_ok] at resolved
  obtain ⟨⟨_, bindings⟩, found, made⟩ := bind_eq_ok.mp resolved
  obtain ⟨rfl, rfl⟩ := Prod.mk.inj (Except.ok.inj made)
  have lookup : context.resources.resolvedChannel key = channelFor guild normalized key := by
    rw [ready.source]
    rfl
  rw [lookup] at found
  have grows : context.resources.bindings.Grows { context.resources.bindings with channelBindings := bindings } :=
    ⟨.refl _, resolveKey_grows found⟩
  refine ⟨{ ready with source := ?_, channels := ready.channels.resolve found, newChannels := ?_ },
    ⟨rfl, rfl, grows⟩, (resolveKey_ok found).1⟩
  · rw [ready.source]
    rfl
  · intro created name channelType parent mem
    obtain ⟨unbound, missing⟩ := ready.newChannels created name channelType parent mem
    exact ⟨resolveKey_unbound found unbound missing, missing⟩

theorem home (ready : Ready guild normalized limit operations context) :
    context.resources.guildId = context.after.guild.id := by
  rw [ready.source, ready.base]
  rfl

theorem tail {operation : Operation} (ready : Ready guild normalized limit (operation :: operations) context) :
    Ready guild normalized limit operations context :=
  { ready with
    room := Nat.le_trans (Nat.add_le_add_left (Nat.le_succ _) _) ready.room
    targets := (nodup_cons.mp ready.targets).2
    newRoles := fun key name permissions mem => ready.newRoles key name permissions (mem_cons_of_mem _ mem)
    newChannels := fun key name channelType parent mem =>
      ready.newChannels key name channelType parent (mem_cons_of_mem _ mem) }

theorem setRoles (ready : Ready guild normalized limit operations context) {roles : List Role}
    (below : ∀ role ∈ roles, role.id.value.toNat < context.nextId.toNat) :
    Ready guild normalized limit operations (context.setRoles roles) := { ready with rolesBelow := below }

theorem setChannels (ready : Ready guild normalized limit operations context) {channels : List Channel}
    (below : ∀ channel ∈ channels, channel.id.value.toNat < context.nextId.toNat) :
    Ready guild normalized limit operations (context.setChannels channels) := { ready with channelsBelow := below }

theorem setApplied (ready : Ready guild normalized limit operations context) (applied : List OpId) :
    Ready guild normalized limit operations { context with applied } := { ready with }

theorem nextId_succ (ready : Ready guild normalized limit operations context) (bounded : limit < 2 ^ 64)
    (some : operations ≠ []) : (context.nextId + 1).toNat = context.nextId.toNat + 1 := by
  have room := ready.room
  have length := length_pos_iff.mpr some
  rw [UInt64.toNat_add]
  have one : (1 : UInt64).toNat = 1 := rfl
  rw [one]
  exact Nat.mod_eq_of_lt (by omega)

theorem createRole {name : Option String} {permissions : Option Permissions}
    (ready : Ready guild normalized limit (.createRole key name permissions :: operations) context)
    (bounded : limit < 2 ^ 64) :
    Ready guild normalized limit operations (context.createRole key name permissions) := by
  have succ := ready.nextId_succ bounded (cons_ne_nil _ _)
  have tail := ready.tail
  have room := ready.room
  refine ⟨?_, tail.base, ?_, ?_, ?_, ?_, ?_, ?_, tail.targets, ?_, tail.newChannels⟩
  · exact congrArg (fun resources => resources.bindRole key ⟨context.nextId⟩) ready.source
  · exact succ ▸ tail.roles.bind (ready.newRoles key name permissions mem_cons_self).2 tail.above rfl
  · exact succ ▸ tail.channels.later (Nat.le_succ _)
  · exact succ ▸ Nat.lt_succ_of_lt tail.above
  · intro role mem
    refine succ ▸ Nat.lt_succ_of_le ?_
    obtain old | added := mem_append.mp mem
    · exact Nat.le_of_lt (tail.rolesBelow role old)
    · rw [mem_singleton.mp added]
      exact Nat.le_refl _
  · exact fun channel mem => succ ▸ Nat.lt_succ_of_lt (tail.channelsBelow channel mem)
  · have next : (context.createRole key name permissions).nextId.toNat = context.nextId.toNat + 1 := succ
    rw [length_cons] at room
    omega
  · intro created createdName createdPermissions mem
    obtain ⟨unbound, missing⟩ := tail.newRoles created createdName createdPermissions mem
    have differ : key ≠ created := fun same =>
      (nodup_cons.mp ready.targets).1 (mem_map.mpr ⟨_, mem, by rw [same]; rfl⟩)
    exact ⟨(KeyMap.getElem?_insert _ _ _ _).trans ((if_neg differ).trans unbound), missing⟩

theorem bindNewChannel {name : Option String} {channelType : Option ChannelType} {parent : Option ResourceKey}
    (ready : Ready guild normalized limit (.createChannel key name channelType parent :: operations) context)
    (bounded : limit < 2 ^ 64) : Ready guild normalized limit operations (context.bindNewChannel key) := by
  have succ := ready.nextId_succ bounded (cons_ne_nil _ _)
  have tail := ready.tail
  have room := ready.room
  refine ⟨?_, tail.base, ?_, ?_, ?_, ?_, ?_, ?_, tail.targets, tail.newRoles, ?_⟩
  · exact congrArg (fun resources => resources.bindChannel key ⟨context.nextId⟩) ready.source
  · exact succ ▸ tail.roles.later (Nat.le_succ _)
  · exact succ ▸ tail.channels.bind (ready.newChannels key name channelType parent mem_cons_self).2 tail.above rfl
  · exact succ ▸ Nat.lt_succ_of_lt tail.above
  · exact fun role mem => succ ▸ Nat.lt_succ_of_lt (tail.rolesBelow role mem)
  · exact fun channel mem => succ ▸ Nat.lt_succ_of_lt (tail.channelsBelow channel mem)
  · have next : (context.bindNewChannel key).nextId.toNat = context.nextId.toNat + 1 := succ
    rw [length_cons] at room
    omega
  · intro created createdName createdType createdParent mem
    obtain ⟨unbound, missing⟩ := tail.newChannels created createdName createdType createdParent mem
    have differ : key ≠ created := fun same =>
      (nodup_cons.mp ready.targets).1 (mem_map.mpr ⟨_, mem, by rw [same]; rfl⟩)
    exact ⟨(KeyMap.getElem?_insert _ _ _ _).trans ((if_neg differ).trans unbound), missing⟩

end Ready

/-- The Discord target of an overwrite, once the role it names is bound. -/
def ResourceBindingMap.denote (bindings : ResourceBindingMap) (guildId : GuildId) :
    NormalizedTarget → Option OverwriteTarget
  | .everyone => some (.role ⟨guildId.value⟩)
  | .role key => bindings.roleBindings[key]?.map .role
  | .member id => (parseU64 id).map fun raw => .member ⟨raw⟩

def roleEdit (bindings : ResourceBindingMap) : Operation → Option (Table.Edit Role UInt64)
  | .createRole key name permissions =>
    bindings.roleBindings[key]?.map fun id => .add id.value (newRole id name permissions)
  | .updateRole key name permissions =>
    bindings.roleBindings[key]?.map fun id => .change id.value (changeRole name permissions)
  | .deleteRole key => bindings.roleBindings[key]?.map fun id => .drop id.value
  | .createChannel .. | .updateChannel .. | .deleteChannel .. | .createOverwrite .. | .updateOverwrite .. => none

def channelEdit (guildId : GuildId) (bindings : ResourceBindingMap) : Operation → Option (Table.Edit Channel UInt64)
  | .createChannel key name channelType parent =>
    bindings.channelBindings[key]?.map fun id =>
      .add id.value (newChannel id name channelType (parent.bind fun parent => bindings.channelBindings[parent]?))
  | .updateChannel key name channelType =>
    bindings.channelBindings[key]?.map fun id => .change id.value (changeChannel name channelType)
  | .deleteChannel key => bindings.channelBindings[key]?.map fun id => .drop id.value
  | .createOverwrite channel target allow deny | .updateOverwrite channel target allow deny =>
    bindings.channelBindings[channel]?.bind fun id =>
      (bindings.denote guildId target).map fun target => .amend id.value (changeOverwrite target allow deny)
  | .createRole .. | .updateRole .. | .deleteRole .. => none

theorem role_id_eq_iff (role : Role) (id : RoleId) : role.id = id ↔ roleKind.id role = id.value :=
  ⟨congrArg RoleId.value, fun same => congrArg RoleId.mk same⟩

theorem channel_id_eq_iff (channel : Channel) (id : ChannelId) : channel.id = id ↔ channelKind.id channel = id.value :=
  ⟨congrArg ChannelId.value, fun same => congrArg ChannelId.mk same⟩

/-- The rows are those that a possible edit leads to. -/
def Edited {ρ : Type} (idOf : ρ → UInt64) (rows : List ρ) (edit : Option (Table.Edit ρ UInt64)) (next : List ρ) : Prop :=
  next = Table.run idOf rows edit.toList ∧ Table.Fits idOf rows edit.toList

theorem Edited.none {ρ : Type} (idOf : ρ → UInt64) (rows : List ρ) : Edited idOf rows none rows := ⟨rfl, trivial⟩

theorem Edited.some {ρ : Type} {idOf : ρ → UInt64} {rows : List ρ} {edit : Table.Edit ρ UInt64}
    (keeps : edit.Keeps idOf) (suits : edit.Suits (Table.lookup idOf rows edit.target)) :
    Edited idOf rows (some edit) (edit.apply idOf rows) := ⟨rfl, keeps, suits, trivial⟩

/-- The rows are those that the possible edits of the operations lead to. -/
def EditedAll {ρ : Type} (idOf : ρ → UInt64) (rows : List ρ) (edits : List (Table.Edit ρ UInt64)) (last : List ρ) : Prop :=
  last = Table.run idOf rows edits ∧ Table.Fits idOf rows edits

theorem EditedAll.cons {ρ : Type} {idOf : ρ → UInt64} {rows middle last : List ρ}
    {edit : Operation → Option (Table.Edit ρ UInt64)} {operation : Operation} {operations : List Operation}
    (first : Edited idOf rows (edit operation) middle) (rest : EditedAll idOf middle (operations.filterMap edit) last) :
    EditedAll idOf rows ((operation :: operations).filterMap edit) last := by
  obtain ⟨rfl, fits⟩ := first
  cases made : edit operation with
  | none =>
    rw [made] at rest
    rwa [filterMap_cons_none made]
  | some one =>
    rw [made] at rest fits
    rw [filterMap_cons_some made]
    exact ⟨rest.1, fits.1, fits.2.1, rest.2⟩

/-- An operation binds more keys, and with any bindings to come it stands for the edit that it made. -/
structure Stepped (guildId : GuildId) (operation : Operation) (context next : ApplyContext) : Prop where
  grows : context.resources.bindings.Grows next.resources.bindings
  acts : ∀ later, next.resources.bindings.Grows later →
    (roleEdit later operation).isSome ∨ (channelEdit guildId later operation).isSome
  roles : ∀ later, next.resources.bindings.Grows later →
    Edited roleKind.id context.after.roles (roleEdit later operation) next.after.roles
  channels : ∀ later, next.resources.bindings.Grows later →
    Edited channelKind.id context.after.channels (channelEdit guildId later operation) next.after.channels

namespace Ready
variable {guild : GuildState} {normalized : NormalizedDesiredState} {limit : Nat} {operations : List Operation}
  {context next : ApplyContext} {key : ResourceKey}

theorem step_createRole {name : Option String} {permissions : Option Permissions}
    (ready : Ready guild normalized limit (.createRole key name permissions :: operations) context) :
    Stepped guild.guild.id (.createRole key name permissions) context (context.createRole key name permissions) := by
  have unbound := (ready.newRoles key name permissions mem_cons_self).1
  have bound : ∀ later : ResourceBindingMap,
      (context.createRole key name permissions).resources.bindings.Grows later →
        roleEdit later (.createRole key name permissions) =
          some (.add context.nextId (newRole ⟨context.nextId⟩ name permissions)) := fun later grows => by
    rw [roleEdit, grows.1 key ⟨context.nextId⟩ ((KeyMap.getElem?_insert _ _ _ _).trans (if_pos rfl))]
    rfl
  have new : Table.lookup roleKind.id context.after.roles context.nextId = none :=
    (lookup_eq_none_iff _).mpr fun role mem same => by
      have below := ready.rolesBelow role mem
      exact Nat.lt_irrefl _ (same ▸ below)
  refine ⟨⟨.insert unbound _, .refl _⟩, fun later grows => .inl ?_, fun later grows => ?_, fun later grows => .none _ _⟩
  · rw [bound later grows]
    rfl
  · rw [bound later grows]
    exact .some rfl new

theorem edit_role (ready : Ready guild normalized limit operations context) {id : RoleId}
    (resolved : context.resolveRoleKey key = .ok (id, next)) (operation : Operation) (edit : Table.Edit Role UInt64)
    (keeps : edit.Keeps roleKind.id) (suits : ∀ row, edit.Suits row) (old : ∀ id row, edit ≠ .add id row)
    (means : ∀ later : ResourceBindingMap, later.roleBindings[key]? = some id → roleEdit later operation = some edit)
    (noChannel : ∀ later, channelEdit guild.guild.id later operation = none) :
    Ready guild normalized limit operations (next.setRoles (edit.apply roleKind.id next.after.roles)) ∧
      Stepped guild.guild.id operation context (next.setRoles (edit.apply roleKind.id next.after.roles)) := by
  obtain ⟨ready, kept, bound⟩ := ready.resolveRoleKey resolved
  have edits (later : ResourceBindingMap) (grows : next.resources.bindings.Grows later) :
      roleEdit later operation = some edit := means later (grows.1 key id bound)
  refine ⟨ready.setRoles fun role mem => ?_,
    kept.grows, fun later grows => .inl (edits later grows ▸ rfl), fun later grows => ?_, fun later grows => ?_⟩
  · obtain new | ⟨before, inRoles, same⟩ := exists_of_mem_apply keeps mem
    · exact (old _ _ new).elim
    · have below := ready.rolesBelow before inRoles
      exact congrArg UInt64.toNat same ▸ below
  · rw [edits later grows, kept.after]
    exact .some keeps (suits _)
  · rw [noChannel later, ← kept.after]
    exact .none _ _

theorem edit_channel (ready : Ready guild normalized limit operations context) {id : ChannelId}
    (resolved : context.resolveChannelKey key = .ok (id, next)) (operation : Operation) (edit : Table.Edit Channel UInt64)
    (keeps : edit.Keeps channelKind.id) (suits : ∀ row, edit.Suits row) (old : ∀ id row, edit ≠ .add id row)
    (means : ∀ later : ResourceBindingMap, later.channelBindings[key]? = some id →
      channelEdit guild.guild.id later operation = some edit)
    (noRole : ∀ later, roleEdit later operation = none) :
    Ready guild normalized limit operations (next.setChannels (edit.apply channelKind.id next.after.channels)) ∧
      Stepped guild.guild.id operation context
        (next.setChannels (edit.apply channelKind.id next.after.channels)) := by
  obtain ⟨ready, kept, bound⟩ := ready.resolveChannelKey resolved
  have edits (later : ResourceBindingMap) (grows : next.resources.bindings.Grows later) :
      channelEdit guild.guild.id later operation = some edit := means later (grows.2 key id bound)
  refine ⟨ready.setChannels fun channel mem => ?_,
    kept.grows, fun later grows => .inr (edits later grows ▸ rfl), fun later grows => ?_, fun later grows => ?_⟩
  · obtain new | ⟨before, inChannels, same⟩ := exists_of_mem_apply keeps mem
    · exact (old _ _ new).elim
    · have below := ready.channelsBelow before inChannels
      exact congrArg UInt64.toNat same ▸ below
  · rw [noRole later, ← kept.after]
    exact .none _ _
  · rw [edits later grows, kept.after]
    exact .some keeps (suits _)

theorem resolveTarget (ready : Ready guild normalized limit operations context) {target : NormalizedTarget}
    {denoted : OverwriteTarget} (ok : context.resolveTarget target = .ok (denoted, next)) :
    Ready guild normalized limit operations next ∧ Kept context next ∧
      ∀ later, next.resources.bindings.Grows later → later.denote guild.guild.id target = some denoted := by
  obtain ⟨⟨_, resources⟩, resolved, made⟩ := bind_eq_ok.mp ok
  obtain ⟨rfl, rfl⟩ := Prod.mk.inj (Except.ok.inj made)
  rw [mapError_eq_ok] at resolved
  have unchanged : Kept context context := ⟨rfl, rfl, .refl _⟩
  cases target with
  | everyone =>
    obtain ⟨rfl, rfl⟩ := Prod.mk.inj (Except.ok.inj resolved)
    refine ⟨ready, unchanged, fun later grows => ?_⟩
    rw [ready.source]
    rfl
  | role key =>
    obtain ⟨⟨id, found⟩, roleResolved, roleMade⟩ := bind_eq_ok.mp resolved
    obtain ⟨rfl, rfl⟩ := Prod.mk.inj (Except.ok.inj roleMade)
    have whole : context.resolveRoleKey key = .ok (id, { context with resources := found }) := by
      rw [ApplyContext.resolveRoleKey, roleResolved]
      rfl
    obtain ⟨ready, kept, bound⟩ := ready.resolveRoleKey whole
    refine ⟨ready, kept, fun later grows => ?_⟩
    rw [ResourceBindingMap.denote, grows.1 key id bound]
    rfl
  | member id =>
    obtain ⟨raw, parsed, made⟩ := orReject_bind_eq_ok.mp resolved
    obtain ⟨rfl, rfl⟩ := Prod.mk.inj (Except.ok.inj made)
    refine ⟨ready, unchanged, fun later grows => ?_⟩
    rw [ResourceBindingMap.denote, parsed]
    rfl

theorem resolveParent (ready : Ready guild normalized limit operations context) {parent : Option ResourceKey}
    {parentId : Option ChannelId} (ok : context.resolveParent parent = .ok (parentId, next)) :
    Ready guild normalized limit operations next ∧ Kept context next ∧
      ∀ later : ResourceBindingMap, next.resources.bindings.Grows later →
        (parent.bind fun parent => later.channelBindings[parent]?) = parentId := by
  cases parent with
  | none =>
    obtain ⟨rfl, rfl⟩ := Prod.mk.inj (Except.ok.inj ok)
    exact ⟨ready, ⟨rfl, rfl, .refl _⟩, fun _ _ => rfl⟩
  | some parent =>
    obtain ⟨⟨id, found⟩, resolved, made⟩ := bind_eq_ok.mp ok
    obtain ⟨rfl, rfl⟩ := Prod.mk.inj (Except.ok.inj made)
    obtain ⟨ready, kept, bound⟩ := ready.resolveChannelKey resolved
    exact ⟨ready, kept, fun later grows => grows.2 parent id bound⟩

theorem step_createChannel {name : Option String} {channelType : Option ChannelType} {parent : Option ResourceKey}
    (ready : Ready guild normalized limit (.createChannel key name channelType parent :: operations) context)
    (bounded : limit < 2 ^ 64) (ok : context.createChannel key name channelType parent = .ok next) :
    Ready guild normalized limit operations next ∧
      Stepped guild.guild.id (.createChannel key name channelType parent) context next := by
  obtain ⟨⟨parentId, middle⟩, resolved, made⟩ := bind_eq_ok.mp ok
  obtain rfl := Except.ok.inj made
  obtain ⟨readyMiddle, kept, parentOf⟩ := (ready.bindNewChannel bounded).resolveParent resolved
  have unbound := (ready.newChannels key name channelType parent mem_cons_self).1
  have succ := ready.nextId_succ bounded (cons_ne_nil _ _)
  have bound : (context.bindNewChannel key).resources.bindings.channelBindings[key]? = some ⟨context.nextId⟩ :=
    (KeyMap.getElem?_insert _ _ _ _).trans (if_pos rfl)
  have grows : context.resources.bindings.Grows (context.bindNewChannel key).resources.bindings :=
    ⟨.refl _, .insert unbound _⟩
  have channels : middle.after.channels = context.after.channels := congrArg GuildState.channels kept.after
  have roles : middle.after.roles = context.after.roles := congrArg GuildState.roles kept.after
  have nextId : middle.nextId.toNat = context.nextId.toNat + 1 := (congrArg UInt64.toNat kept.nextId).trans succ
  have edits (later : ResourceBindingMap) (growsLater : middle.resources.bindings.Grows later) :
      channelEdit guild.guild.id later (.createChannel key name channelType parent) =
        some (.add context.nextId (newChannel ⟨context.nextId⟩ name channelType parentId)) := by
    rw [channelEdit, growsLater.2 key _ (kept.grows.2 key _ bound), parentOf later growsLater]
    rfl
  refine ⟨readyMiddle.setChannels fun channel mem => ?_,
    grows.trans kept.grows, fun later growsLater => .inr (edits later growsLater ▸ rfl), fun later growsLater => ?_,
    fun later growsLater => ?_⟩
  · obtain old | added := mem_append.mp mem
    · exact readyMiddle.channelsBelow channel old
    · rw [mem_singleton.mp added, nextId]
      exact Nat.lt_succ_self _
  · exact roles ▸ .none _ _
  · have new : Table.lookup channelKind.id context.after.channels context.nextId = none :=
      (lookup_eq_none_iff _).mpr fun channel mem same => by
        have below := ready.channelsBelow channel mem
        exact Nat.lt_irrefl _ (same ▸ below)
    rw [edits later growsLater]
    show Edited channelKind.id context.after.channels _ (middle.after.channels ++ [_])
    rw [channels]
    exact .some rfl new

theorem step_putOverwrite {target : NormalizedTarget} {allow deny : Permissions} {operation : Operation}
    (ready : Ready guild normalized limit operations context)
    (means : ∀ later : ResourceBindingMap, channelEdit guild.guild.id later operation =
      later.channelBindings[key]?.bind fun id => (later.denote guild.guild.id target).map fun target =>
        .amend id.value (changeOverwrite target allow deny))
    (noRole : ∀ later, roleEdit later operation = none)
    (ok : context.putOverwrite key target allow deny = .ok next) (quiet : next.warnings = []) :
    Ready guild normalized limit operations next ∧ Stepped guild.guild.id operation context next := by
  obtain ⟨⟨id, middle⟩, resolved, rest⟩ := bind_eq_ok.mp ok
  obtain ⟨⟨denoted, last⟩, targeted, made⟩ := bind_eq_ok.mp rest
  obtain ⟨readyMiddle, keptMiddle, bound⟩ := ready.resolveChannelKey resolved
  obtain ⟨readyLast, keptLast, denotes⟩ := readyMiddle.resolveTarget targeted
  have after : last.after = context.after := keptLast.after.trans keptMiddle.after
  by_cases held : (last.after.channels.any fun held => held.id = id) = true
  · simp only [held, if_true] at made
    simp only [channel_id_eq_iff] at made
    obtain rfl := Except.ok.inj made
    have keeps : (Table.Edit.amend id.value (changeOverwrite denoted allow deny)).Keeps channelKind.id := fun _ => rfl
    have edits (later : ResourceBindingMap) (grows : last.resources.bindings.Grows later) :
        channelEdit guild.guild.id later operation =
          some (.amend id.value (changeOverwrite denoted allow deny)) := by
      rw [means later, grows.2 key id (keptLast.grows.2 key id bound), denotes later grows]
      rfl
    refine ⟨readyLast.setChannels fun channel mem => ?_,
      keptMiddle.grows.trans keptLast.grows, fun later grows => .inr (edits later grows ▸ rfl), fun later grows => ?_,
      fun later grows => ?_⟩
    · obtain new | ⟨before, inChannels, same⟩ := exists_of_mem_apply keeps mem
      · cases new
      · have below := readyLast.channelsBelow before inChannels
        exact congrArg UInt64.toNat same ▸ below
    · rw [noRole later]
      exact congrArg GuildState.roles after ▸ .none _ _
    · rw [edits later grows, ← after]
      refine .some keeps fun missing => ?_
      obtain ⟨channel, mem, same⟩ := any_eq_true.mp held
      rw [decide_eq_true_eq, channel_id_eq_iff] at same
      exact (lookup_eq_none_iff _).mp missing channel mem same
  · simp only [held] at made
    obtain rfl := Except.ok.inj made
    exact (append_ne_nil_of_right_ne_nil _ (cons_ne_nil _ _) quiet).elim

theorem step {operation : Operation} (ready : Ready guild normalized limit (operation :: operations) context)
    (bounded : limit < 2 ^ 64) (ok : context.applyOperation operation = .ok next) (quiet : next.warnings = []) :
    Ready guild normalized limit operations next ∧ Stepped guild.guild.id operation context next := by
  cases operation with
  | createRole key name permissions =>
    obtain rfl := Except.ok.inj ok
    exact ⟨ready.createRole bounded, ready.step_createRole⟩
  | updateRole key name permissions =>
    obtain ⟨⟨id, middle⟩, resolved, made⟩ := bind_eq_ok.mp ok
    simp only [role_id_eq_iff] at made
    obtain rfl := Except.ok.inj made
    exact ready.tail.edit_role resolved _ (.change id.value (changeRole name permissions)) (fun _ => rfl)
      (fun _ => trivial) nofun (fun later bound => congrArg (Option.map _) bound) fun _ => rfl
  | deleteRole key =>
    obtain ⟨⟨id, middle⟩, resolved, made⟩ := bind_eq_ok.mp ok
    simp only [ne_eq, role_id_eq_iff] at made
    obtain rfl := Except.ok.inj made
    exact ready.tail.edit_role resolved _ (.drop id.value) trivial (fun _ => trivial) nofun
      (fun later bound => congrArg (Option.map _) bound) fun _ => rfl
  | createChannel key name channelType parent => exact ready.step_createChannel bounded ok
  | updateChannel key name channelType =>
    obtain ⟨⟨id, middle⟩, resolved, made⟩ := bind_eq_ok.mp ok
    simp only [channel_id_eq_iff] at made
    obtain rfl := Except.ok.inj made
    exact ready.tail.edit_channel resolved _ (.change id.value (changeChannel name channelType)) (fun _ => rfl)
      (fun _ => trivial) nofun (fun later bound => congrArg (Option.map _) bound) fun _ => rfl
  | deleteChannel key =>
    obtain ⟨⟨id, middle⟩, resolved, made⟩ := bind_eq_ok.mp ok
    simp only [ne_eq, channel_id_eq_iff] at made
    obtain rfl := Except.ok.inj made
    exact ready.tail.edit_channel resolved _ (.drop id.value) trivial (fun _ => trivial) nofun
      (fun later bound => congrArg (Option.map _) bound) fun _ => rfl
  | createOverwrite channel target allow deny | updateOverwrite channel target allow deny =>
    exact ready.tail.step_putOverwrite (fun _ => rfl) (fun _ => rfl) ok quiet

end Ready

def ApplyContext.runNode (context : ApplyContext) (node : OperationNode) : Except VirtualApplyError ApplyContext := do
  let next ← context.applyOperation node.operation
  return { next with applied := next.applied ++ [node.id] }

theorem foldlM_applyNode (graph : OperationGraph) (order : List OpId) (context : ApplyContext) :
    order.foldlM (fun context id => context.applyNode graph id) context =
      (graph.nodesOf order).foldlM ApplyContext.runNode context := by
  induction order generalizing context with
  | nil => rfl
  | cons id order ih =>
    rw [foldlM_cons, OperationGraph.nodesOf_cons]
    cases found : graph.nodes.find? fun node => node.id = id with
    | none =>
      rw [ApplyContext.applyNode, found]
      exact ih context
    | some node =>
      have same : node.id = id := by simpa using find?_some found
      rw [ApplyContext.applyNode, found, Option.toList_some, singleton_append, foldlM_cons,
        ApplyContext.runNode, same]
      exact bind_congr ih

theorem apply_eq_ok {guild : GuildState} {normalized : NormalizedDesiredState} {graph : OperationGraph}
    {order : List OpId} (ordered : graph.topologicalOrder = .ok order) (resolver : ResourceResolver)
    (result : VirtualApplyResult) : apply guild graph normalized resolver = .ok result ↔
      ∃ last, (graph.nodesOf order).foldlM ApplyContext.runNode (.new guild normalized resolver) = .ok last ∧
        last.intoResult = result := by
  have runs : apply guild graph normalized resolver = (do
      let last ← (graph.nodesOf order).foldlM ApplyContext.runNode (.new guild normalized resolver)
      return last.intoResult) := by
    rw [apply, ordered, ← foldlM_applyNode]
    rfl
  rw [runs, bind_eq_ok]
  simp only [pure_eq_ok]

theorem ApplyContext.foldlM_warnings {context last : ApplyContext} {nodes : List OperationNode}
    (ok : nodes.foldlM runNode context = .ok last) (home : context.resources.guildId = context.after.guild.id)
    (quiet : last.warnings = []) : context.warnings = [] := by
  induction nodes generalizing context with
  | nil =>
    obtain rfl := Except.ok.inj ok
    exact quiet
  | cons node nodes ih =>
    rw [foldlM_cons, bind_eq_ok] at ok
    obtain ⟨middle, first, rest⟩ := ok
    obtain ⟨next, applied, made⟩ := bind_eq_ok.mp first
    obtain rfl := Except.ok.inj made
    have moves := applyOperation_moves home applied
    have silent := ih rest moves.home
    exact (moves.warnings.mp silent).1

/-- The whole run, as edits under the bindings at its end. -/
structure Executed (guildId : GuildId) (operations : List Operation) (context last : ApplyContext) : Prop where
  grows : context.resources.bindings.Grows last.resources.bindings
  acts : ∀ operation ∈ operations, (roleEdit last.resources.bindings operation).isSome ∨
    (channelEdit guildId last.resources.bindings operation).isSome
  roles : EditedAll roleKind.id context.after.roles (operations.filterMap (roleEdit last.resources.bindings))
    last.after.roles
  channels : EditedAll channelKind.id context.after.channels
    (operations.filterMap (channelEdit guildId last.resources.bindings)) last.after.channels

namespace Ready
variable {guild : GuildState} {normalized : NormalizedDesiredState} {limit : Nat} {context last : ApplyContext}

theorem run {nodes : List OperationNode}
    (ready : Ready guild normalized limit (nodes.map OperationNode.operation) context) (bounded : limit < 2 ^ 64)
    (ok : nodes.foldlM ApplyContext.runNode context = .ok last) (quiet : last.warnings = []) :
    Ready guild normalized limit [] last ∧
      Executed guild.guild.id (nodes.map OperationNode.operation) context last := by
  induction nodes generalizing context with
  | nil =>
    obtain rfl := Except.ok.inj ok
    exact ⟨ready, ⟨.refl _, fun _ mem => (not_mem_nil mem).elim, ⟨rfl, trivial⟩, ⟨rfl, trivial⟩⟩⟩
  | cons node nodes ih =>
    rw [foldlM_cons, bind_eq_ok] at ok
    obtain ⟨middle, first, rest⟩ := ok
    obtain ⟨next, applied, made⟩ := bind_eq_ok.mp first
    obtain rfl := Except.ok.inj made
    have home := (applyOperation_moves ready.home applied).home
    have silent := ApplyContext.foldlM_warnings rest home quiet
    obtain ⟨readyNext, stepped⟩ := ready.step bounded applied silent
    obtain ⟨readyLast, executed⟩ := ih (readyNext.setApplied _) rest
    refine ⟨readyLast, stepped.grows.trans executed.grows, fun operation mem => ?_,
      .cons (stepped.roles _ executed.grows) executed.roles, .cons (stepped.channels _ executed.grows) executed.channels⟩
    obtain rfl | later := mem_cons.mp mem
    · exact stepped.acts _ executed.grows
    · exact executed.acts operation later

end Ready

end Starring.Planning
