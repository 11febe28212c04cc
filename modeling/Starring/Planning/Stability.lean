import Starring.Planning.Carried

/-! Applying a plan once: when the declarations are unambiguous for the guild, the
desired state finds nothing left to do in the guild that a dry run of its plan leads to. -/

namespace Starring.Planning
open Foundation Table List DiffResult

/-- Nothing is in conflict and nothing is to be done. -/
def DiffResult.Idle (result : DiffResult) : Prop :=
  result.conflicts = [] ∧ ∀ change ∈ result.changes, change.op = .noOp

/-- Every entry that is to be there has its resource and its name to itself. The overwrites of a
channel are about roles that are to be there, and about different targets. -/
structure Unambiguous (guild : GuildState) (normalized : NormalizedDesiredState) : Prop where
  roles : roleFamily.Separate guild.roles normalized.roles
  channels : channelFamily.Separate guild.channels normalized.channels
  overwriteRoles : ∀ channel ∈ normalized.channels, channelFamily.Present channel → channelFamily.Owned channel →
    ∀ overwrite ∈ channel.overwrites, ∀ role ∈ normalized.roles, overwrite.target = .role role.identity.key →
      roleFamily.Present role
  overwriteTargets : ∀ channel ∈ normalized.channels, channelFamily.Present channel → channelFamily.Owned channel →
    ∀ first ∈ channel.overwrites, ∀ second ∈ channel.overwrites, ∀ target,
      resolveOverwriteTarget (inMemoryMatchResolver guild) normalized.roles first.target = .ok (some target) →
      resolveOverwriteTarget (inMemoryMatchResolver guild) normalized.roles second.target = .ok (some target) →
        first.target = second.target

/-- There are ids above the largest one for a number of new resources, and nobody asks for one of them. -/
structure SpareIds (guild : GuildState) (normalized : NormalizedDesiredState) (count : Nat) : Prop where
  room : (maxId guild).toNat + 1 + count < 2 ^ 64
  unasked : ∀ identity ∈ normalized.roles.map NormalizedRole.identity ++
      normalized.channels.map NormalizedChannel.identity,
    ∀ text raw, identity.matchBy = .byExplicitId text → parseU64 text = some raw →
      raw.toNat ≤ (maxId guild).toNat ∨ (maxId guild).toNat + count < raw.toNat

namespace DiffResult.Idle

theorem append {first second : DiffResult} (idle : first.Idle) (idleSecond : second.Idle) :
    (first.append second).Idle := by
  refine ⟨by simp [idle.1, idleSecond.1], fun change mem => ?_⟩
  obtain early | late := mem_append.mp mem
  · exact idle.2 change early
  · exact idleSecond.2 change late

theorem concat {α : Type} {items : List α} {diffOne : α → DiffResult} (each : ∀ item ∈ items, (diffOne item).Idle) :
    (concat items diffOne).Idle := by
  refine ⟨concat_conflicts_eq_nil.mpr fun item mem => (each item mem).1, fun change mem => ?_⟩
  obtain ⟨item, inItems, own⟩ := (mem_concat_changes change).mp mem
  exact (each item inItems).2 change own

theorem noop (target : DiffTarget) : (noop target).Idle :=
  ⟨rfl, fun _ mem => mem_singleton.mp mem ▸ rfl⟩

theorem updateOrNoop {target : DiffTarget} {changed : List ChangedField} (unchanged : changed = []) :
    (DiffResult.updateOrNoop target changed).Idle := by
  rw [DiffResult.updateOrNoop, if_pos unchanged]
  exact noop target

end DiffResult.Idle

section
variable {ρ : Type} {kind : Kind ρ} {target : DiffTarget} {identity : Identity} {resolved : ResolveResult ρ}
  {changed : ρ → List ChangedField} {details : ρ → DiffResult} {createdDetails : DiffResult}

theorem diffResource_idle_of_existing {current : ρ} (present : identity.state = .present)
    (found : resolved = .existing current) (unchanged : identity.ownership ≠ .referenced → changed current = [])
    (idle : identity.ownership ≠ .referenced → (details current).Idle) :
    (diffResource kind target identity resolved changed details createdDetails).Idle := by
  simp only [diffResource, present, found]
  by_cases referenced : identity.ownership = .referenced
  · rw [if_pos referenced]
    exact .noop target
  · rw [if_neg referenced]
    exact .append (.updateOrNoop (unchanged referenced)) (idle referenced)

theorem diffResource_idle_of_missing (absent : identity.state = .absent) (missing : resolved = .missing) :
    (diffResource kind target identity resolved changed details createdDetails).Idle := by
  simp only [diffResource, absent, missing]
  exact .noop target

end

theorem diffOverwrite_idle {resolver : ResourceResolver} {roles : List NormalizedRole} {channel : NormalizedChannel}
    {current : Channel} {overwrite : NormalizedOverwrite} {target : OverwriteTarget}
    (resolved : resolveOverwriteTarget resolver roles overwrite.target = .ok (some target))
    (held : ∃ row, Table.lookup PermissionOverwrite.target current.overwrites target = some row ∧
      row.allow = overwrite.allow ∧ row.deny = overwrite.deny) :
    (diffOverwrite resolver roles channel current overwrite).Idle := by
  obtain ⟨row, found, allow, deny⟩ := held
  have here : (current.overwrites.find? fun held => held.target = target) = some row := found
  simp only [diffOverwrite, resolved, Option.bind_some, here]
  exact .updateOrNoop (by simp [allow, deny])

section
variable {resolver : ResourceResolver} {normalized : NormalizedDesiredState}

theorem resolveOverwriteTarget_of_existing (wellFormed : WellFormed normalized) {role : NormalizedRole}
    (mem : role ∈ normalized.roles) {current : Role}
    (found : resolver.resolveRole role.identity role.name = .existing current) :
    resolveOverwriteTarget resolver normalized.roles (.role role.identity.key) = .ok (some (.role current.id)) := by
  have byKey := (roleByKey_eq_some wellFormed _ role).mpr ⟨mem, rfl⟩
  simp only [resolveOverwriteTarget, byKey, found]

theorem resolveOverwriteTarget_le (wellFormed : WellFormed normalized) {guild : GuildState} {target : NormalizedTarget}
    {id : RoleId}
    (resolved : resolveOverwriteTarget (inMemoryMatchResolver guild) normalized.roles target = .ok (some (.role id))) :
    id.value.toNat ≤ (maxId guild).toNat := by
  cases target with
  | everyone =>
    obtain rfl := OverwriteTarget.role.inj (Option.some.inj (Except.ok.inj resolved))
    exact guild_le_maxId guild
  | role key =>
    obtain ⟨role, -, -, current, found, same⟩ := resolveOverwriteTarget_role wellFormed resolved
    obtain rfl := OverwriteTarget.role.inj same
    exact role_le_maxId (resolveMatch_mem found)
  | member text =>
    unfold resolveOverwriteTarget at resolved
    cases parsed : parseU64 text <;> simp [parsed] at resolved

end

theorem lookup_changeOverwrite (target other : OverwriteTarget) (allow deny : Permissions) (channel : Channel) :
    Table.lookup PermissionOverwrite.target (changeOverwrite target allow deny channel).overwrites other =
      if target = other then some { target, allow, deny }
      else Table.lookup PermissionOverwrite.target channel.overwrites other := by
  have kept : (channel.overwrites.filter fun overwrite => overwrite.target ≠ target).find? (fun held => held.target = other) =
      if target = other then none else Table.lookup PermissionOverwrite.target channel.overwrites other :=
    lookup_filter_ne target other
  rw [changeOverwrite, Table.lookup, find?_append, kept]
  by_cases same : target = other
  · simp [same]
  · simp [same]

def Held (overwrite : NormalizedOverwrite) (target : OverwriteTarget) (row : Option Channel) : Prop :=
  ∃ channel, row = some channel ∧ ∃ held, Table.lookup PermissionOverwrite.target channel.overwrites target = some held ∧
    held.allow = overwrite.allow ∧ held.deny = overwrite.deny

/-- The Discord target of an overwrite: one the guild has, or a role that is created. -/
inductive Denotes (guild : GuildState) (normalized : NormalizedDesiredState) (bindings : ResourceBindingMap) :
    NormalizedTarget → OverwriteTarget → Prop where
  | known (target : NormalizedTarget) (denoted : OverwriteTarget)
      (resolved : resolveOverwriteTarget (inMemoryMatchResolver guild) normalized.roles target = .ok (some denoted)) :
      Denotes guild normalized bindings target denoted
  | created (key : ResourceKey) (id : RoleId) (bound : bindings.roleBindings[key]? = some id)
      (new : (maxId guild).toNat < id.value.toNat) : Denotes guild normalized bindings (.role key) (.role id)

namespace Ran
variable {guild : GuildState} {normalized : NormalizedDesiredState} {limit : Nat} {operations : List Operation}
  {last : ApplyContext} (ran : Ran guild normalized limit operations last)
include ran

variable {denoted : OverwriteTarget}

theorem denotes {target : NormalizedTarget}
    (denotes : last.resources.bindings.denote guild.guild.id target = some denoted) :
    Denotes guild normalized last.resources.bindings target denoted := by
  cases target with
  | everyone =>
    obtain rfl := Option.some.inj denotes
    exact .known _ _ rfl
  | role key =>
    obtain ⟨id, bound, rfl⟩ := Option.map_eq_some_iff.mp denotes
    obtain ⟨row, existing, rfl⟩ | ⟨-, new, -⟩ := ran.ready.roles.known key id bound
    · obtain ⟨role, mem, rfl, found⟩ := Family.mem_of_rowFor existing
      exact .known _ _ (resolveOverwriteTarget_of_existing ran.wellFormed mem found)
    · exact .created key id bound new
  | member text =>
    obtain ⟨raw, parsed, rfl⟩ := Option.map_eq_some_iff.mp denotes
    refine .known _ _ ?_
    simp only [resolveOverwriteTarget, parsed]

variable {channel : NormalizedChannel}

/-- Different overwrites of a channel denote different targets. -/
theorem denotes_injective (unambiguous : Unambiguous guild normalized) (mem : channel ∈ normalized.channels)
    (present : channelFamily.Present channel) (owned : channelFamily.Owned channel) {first second : NormalizedOverwrite}
    (firstMem : first ∈ channel.overwrites) (secondMem : second ∈ channel.overwrites)
    (denotesFirst : Denotes guild normalized last.resources.bindings first.target denoted)
    (denotesSecond : Denotes guild normalized last.resources.bindings second.target denoted) :
    first.target = second.target := by
  generalize firstTarget : first.target = target at denotesFirst
  generalize secondTarget : second.target = other at denotesSecond
  cases denotesFirst with
  | known _ _ resolved =>
    cases denotesSecond with
    | known _ _ resolvedSecond =>
      have same := unambiguous.overwriteTargets channel mem present owned first firstMem second secondMem denoted
        (firstTarget ▸ resolved) (secondTarget ▸ resolvedSecond)
      rw [← firstTarget, ← secondTarget, same]
    | created key id bound new =>
      exact absurd new (Nat.not_lt.mpr (resolveOverwriteTarget_le ran.wellFormed resolved))
  | created key id bound new =>
    cases denotesSecond with
    | known _ _ resolved => exact absurd new (Nat.not_lt.mpr (resolveOverwriteTarget_le ran.wellFormed resolved))
    | created otherKey _ otherBound _ => exact congrArg _ (ran.ready.roles.distinct key otherKey id bound otherBound new)

theorem roles_eq : last.after.roles = Table.run roleFamily.kind.id guild.roles
    (operations.filterMap (roleEdit last.resources.bindings)) := ran.executed.roles.1

theorem channels_eq : last.after.channels = Table.run channelFamily.kind.id guild.channels
    (operations.filterMap (channelEdit guild.guild.id last.resources.bindings)) := ran.executed.channels.1

theorem nextId_le : last.nextId.toNat ≤ limit := ran.ready.room

theorem roleSituation (unambiguous : Unambiguous guild normalized) (ids : (guild.roles.map roleKind.id).Nodup)
    (unasked : ∀ role ∈ normalized.roles, ∀ text raw, role.identity.matchBy = .byExplicitId text →
      parseU64 text = some raw → raw.toNat ≤ (maxId guild).toNat ∨ limit ≤ raw.toNat) :
    roleFamily.Situation guild.roles normalized.roles last.resources.bindings.roleId := by
  refine ran.ready.roles.situation (fun _ _ same => congrArg RoleId.mk same) ids ran.wellFormed.roleKeys
    ran.wellFormed.roles (fun role mem => (role_decided ran.clean mem).ne_conflict)
    (fun role mem => (role_decided ran.clean mem).byName_of_missing) unambiguous.roles
    (fun role mem => role_le_maxId mem) fun role mem text raw explicit parsed => ?_
  exact (unasked role mem text raw explicit parsed).imp_right (Nat.le_trans ran.nextId_le)

theorem channelSituation (unambiguous : Unambiguous guild normalized)
    (ids : (guild.channels.map channelKind.id).Nodup)
    (unasked : ∀ channel ∈ normalized.channels, ∀ text raw, channel.identity.matchBy = .byExplicitId text →
      parseU64 text = some raw → raw.toNat ≤ (maxId guild).toNat ∨ limit ≤ raw.toNat) :
    channelFamily.Situation guild.channels normalized.channels last.resources.bindings.channelId := by
  refine ran.ready.channels.situation (fun _ _ same => congrArg ChannelId.mk same) ids ran.wellFormed.channelKeys
    ran.wellFormed.channels (fun channel mem => (channel_decided ran.clean mem).ne_conflict)
    (fun channel mem => (channel_decided ran.clean mem).byName_of_missing) unambiguous.channels
    (fun channel mem => channel_le_maxId mem) fun channel mem text raw explicit parsed => ?_
  exact (unasked channel mem text raw explicit parsed).imp_right (Nat.le_trans ran.nextId_le)

theorem role_after (situation : roleFamily.Situation guild.roles normalized.roles last.resources.bindings.roleId)
    {role : NormalizedRole} (mem : role ∈ normalized.roles) (present : roleFamily.Present role) :
    ∃ row, roleFamily.resolve last.after.roles role = .existing row ∧
      roleFamily.Home guild.roles last.resources.bindings.roleId role row.id.value ∧
      (roleFamily.Owned role → roleChanged role row = []) := by
  rw [ran.roles_eq]
  exact ran.roles_carried.resolve_of_present situation ran.executed.roles.2 mem present

theorem diffRole_idle (situation : roleFamily.Situation guild.roles normalized.roles last.resources.bindings.roleId)
    {role : NormalizedRole} (mem : role ∈ normalized.roles) :
    (diffRole (inMemoryMatchResolver last.after) role).Idle := by
  cases state : role.identity.state with
  | present =>
    obtain ⟨row, found, -, unchanged⟩ := ran.role_after situation mem state
    exact diffResource_idle_of_existing state found unchanged fun _ => ⟨rfl, fun _ change => (not_mem_nil change).elim⟩
  | absent =>
    have missing : roleFamily.resolve last.after.roles role = .missing := by
      rw [ran.roles_eq]
      exact ran.roles_carried.resolve_of_absent situation ran.executed.roles.2 mem
        fun present => by cases present.symm.trans state
    exact diffResource_idle_of_missing state missing

theorem target_after (situation : roleFamily.Situation guild.roles normalized.roles last.resources.bindings.roleId)
    {target : NormalizedTarget} (present : ∀ role ∈ normalized.roles, target = .role role.identity.key →
      roleFamily.Present role) (denotes : Denotes guild normalized last.resources.bindings target denoted) :
    resolveOverwriteTarget (inMemoryMatchResolver last.after) normalized.roles target = .ok (some denoted) := by
  have again {role : NormalizedRole} (mem : role ∈ normalized.roles) (isPresent : roleFamily.Present role) {id : RoleId}
      (home : roleFamily.Home guild.roles last.resources.bindings.roleId role id.value) :
      resolveOverwriteTarget (inMemoryMatchResolver last.after) normalized.roles (.role role.identity.key) =
        .ok (some (.role id)) := by
    obtain ⟨row, found, rowHome, -⟩ := ran.role_after situation mem isPresent
    obtain rfl : id = row.id := congrArg RoleId.mk (home.unique rowHome)
    exact resolveOverwriteTarget_of_existing ran.wellFormed mem found
  cases denotes with
  | known _ _ resolved =>
    cases target with
    | everyone =>
      have same := Except.ok.inj resolved
      rw [← same, resolveOverwriteTarget, inMemoryMatchResolver, ran.ready.base]
      rfl
    | role key =>
      obtain ⟨role, mem, rfl, current, found, rfl⟩ := resolveOverwriteTarget_role ran.wellFormed resolved
      exact again mem (present role mem rfl) (.inl ⟨current, found, rfl⟩)
    | member text => exact resolved
  | created key id bound new =>
    obtain ⟨row, existing, rfl⟩ | ⟨missing, -⟩ := ran.ready.roles.known key id bound
    · obtain ⟨role, -, -, found⟩ := Family.mem_of_rowFor existing
      exact absurd new (Nat.not_lt.mpr (role_le_maxId (resolveMatch_mem found)))
    · obtain ⟨role, mem, rfl, absent⟩ := Family.mem_of_rowFor missing
      exact again mem (present role mem rfl) (.inr ⟨absent, congrArg (Option.map _) bound⟩)

section
variable (unambiguous : Unambiguous guild normalized)
  (situation : channelFamily.Situation guild.channels normalized.channels last.resources.bindings.channelId)
  {channel : NormalizedChannel} (mem : channel ∈ normalized.channels) (present : channelFamily.Present channel)
  (owned : channelFamily.Owned channel) {overwrite : NormalizedOverwrite} (inOverwrites : overwrite ∈ channel.overwrites)
  {denoted : OverwriteTarget}
  (denotes : Denotes guild normalized last.resources.bindings overwrite.target denoted)
include unambiguous situation mem present owned inOverwrites denotes

theorem held_stays {id : UInt64} (home : channelFamily.Home guild.channels last.resources.bindings.channelId channel id)
    {edit : Table.Edit Channel UInt64}
    (inEdits : edit ∈ operations.filterMap (channelEdit guild.guild.id last.resources.bindings))
    (here : edit.target = id) {row : Option Channel} (suits : edit.Suits row) (held : Held overwrite denoted row) :
    Held overwrite denoted (edit.act row) := by
  obtain ⟨operation, inOperations, edits⟩ := mem_filterMap.mp inEdits
  obtain ⟨maker, makerMem, -, makes⟩ := ran.channel_edit inOperations edits
  have makerHome := (ran.channelEdit_makes makerMem makes).home
  obtain rfl := situation.home_unique mem present home makerMem (here ▸ makerHome)
  obtain ⟨current, rfl, found⟩ := held
  cases makes with
  | create _ _ _ _ _ => cases suits
  | update _ _ _ _ => exact ⟨_, rfl, found⟩
  | overwrite _ other otherDenoted _ _ _ inOther otherDenotes =>
    refine ⟨_, rfl, ?_⟩
    rw [lookup_changeOverwrite]
    by_cases same : otherDenoted = denoted
    · have sameTarget := ran.denotes_injective unambiguous mem present owned inOther inOverwrites
        (same ▸ ran.denotes otherDenotes) denotes
      obtain rfl := inj_on_of_nodup_map (ran.wellFormed.targets _ mem) inOther inOverwrites sameTarget
      rw [if_pos same]
      exact ⟨_, rfl, rfl, rfl⟩
    · rw [if_neg same]
      exact found
  | delete _ absent _ => cases present.symm.trans absent

end

theorem held_of_change (unambiguous : Unambiguous guild normalized)
    (situation : channelFamily.Situation guild.channels normalized.channels last.resources.bindings.channelId)
    (mem : channel ∈ normalized.channels) (present : channelFamily.Present channel)
    (owned : channelFamily.Owned channel) {overwrite : NormalizedOverwrite}
    (inOverwrites : overwrite ∈ channel.overwrites) {change : DiffChange}
    (changes : change ∈ (diff normalized (inMemoryMatchResolver guild)).changes)
    (about : change.target = .overwrite channel.identity.key overwrite.target) (acts : change.op ≠ .noOp) :
    ∃ denoted id, Denotes guild normalized last.resources.bindings overwrite.target denoted ∧
      channelFamily.Home guild.channels last.resources.bindings.channelId channel id ∧
      Held overwrite denoted (Table.lookup channelKind.id last.after.channels id) := by
  obtain ⟨id, denoted, bound, denotes, inEdits⟩ := ran.overwrite_done mem inOverwrites changes about acts
  have home := ran.channel_home mem bound
  refine ⟨denoted, id.value, ran.denotes denotes, home, ?_⟩
  rw [ran.channels_eq]
  refine lookup_run_establish (fun _ => True) (Held overwrite denoted) ran.executed.channels.2 trivial
    (fun _ _ _ _ _ _ => trivial) ⟨_, inEdits, rfl, fun row there _ => ?_⟩ fun edit inEdits here row suits _ held =>
      ran.held_stays unambiguous situation mem present owned inOverwrites (ran.denotes denotes) home inEdits here suits held
  obtain ⟨current, rfl⟩ := Option.ne_none_iff_exists'.mp there
  refine ⟨_, rfl, { target := denoted, allow := overwrite.allow, deny := overwrite.deny }, ?_, rfl, rfl⟩
  rw [lookup_changeOverwrite, if_pos rfl]

theorem overwrite_held (unambiguous : Unambiguous guild normalized)
    (situation : channelFamily.Situation guild.channels normalized.channels last.resources.bindings.channelId)
    (mem : channel ∈ normalized.channels) (present : channelFamily.Present channel)
    (owned : channelFamily.Owned channel) {overwrite : NormalizedOverwrite}
    (inOverwrites : overwrite ∈ channel.overwrites) :
    ∃ denoted id, Denotes guild normalized last.resources.bindings overwrite.target denoted ∧
      channelFamily.Home guild.channels last.resources.bindings.channelId channel id ∧
      Held overwrite denoted (Table.lookup channelKind.id last.after.channels id) := by
  cases resolved : channelFamily.resolve guild.channels channel with
  | conflict reason => exact (situation.clear channel mem reason resolved).elim
  | missing =>
    obtain ⟨change, changes, created, about⟩ := overwrite_created ran.clean mem present resolved inOverwrites
    exact ran.held_of_change unambiguous situation mem present owned inOverwrites changes about (created ▸ nofun)
  | existing current =>
    obtain ⟨clean, changes⟩ := overwrites_kept ran.clean mem present owned resolved inOverwrites
    obtain ⟨target, held, known, found, same⟩ | ⟨change, own, acts, about⟩ := diffOverwrite_cases clean
    · have denotes : Denotes guild normalized last.resources.bindings overwrite.target target := .known _ _ known
      have home : channelFamily.Home guild.channels last.resources.bindings.channelId channel current.id.value :=
        .inl ⟨current, resolved, rfl⟩
      refine ⟨target, current.id.value, denotes, home, ?_⟩
      rw [ran.channels_eq]
      refine lookup_run_invariant (Held overwrite target) ran.executed.channels.2 ⟨current, ?_, held, found, same⟩
        fun edit inEdits here row suits held => ran.held_stays unambiguous situation mem present owned inOverwrites denotes
          home inEdits here suits held
      exact (lookup_eq_some_iff situation.ids _ current).mpr ⟨resolveMatch_mem resolved, rfl⟩
    · exact ran.held_of_change unambiguous situation mem present owned inOverwrites (changes change own) about acts

theorem diffChannel_idle (unambiguous : Unambiguous guild normalized)
    (roles : roleFamily.Situation guild.roles normalized.roles last.resources.bindings.roleId)
    (channels : channelFamily.Situation guild.channels normalized.channels last.resources.bindings.channelId)
    (mem : channel ∈ normalized.channels) :
    (diffChannel (inMemoryMatchResolver last.after) normalized.roles channel).Idle := by
  have carried := ran.channels_carried
  have fits := ran.executed.channels.2
  cases state : channel.identity.state with
  | present =>
    obtain ⟨row, found, home, unchanged⟩ := carried.resolve_of_present channels fits mem state
    rw [← ran.channels_eq] at found
    refine diffResource_idle_of_existing state found unchanged fun owned => .concat fun overwrite inOverwrites => ?_
    obtain ⟨denoted, id, denotes, overwriteHome, current, here, held⟩ :=
      ran.overwrite_held unambiguous channels mem state owned inOverwrites
    have ids : (last.after.channels.map channelKind.id).Nodup := by
      rw [ran.channels_eq]
      exact nodup_run fits channels.ids
    have there := (lookup_eq_some_iff ids (channelKind.id row) row).mpr ⟨resolveMatch_mem found, rfl⟩
    rw [overwriteHome.unique home] at here
    obtain rfl := Option.some.inj (there.symm.trans here)
    exact diffOverwrite_idle
      (ran.target_after roles (unambiguous.overwriteRoles channel mem state owned overwrite inOverwrites) denotes) held
  | absent =>
    have missing : channelFamily.resolve last.after.channels channel = .missing := by
      rw [ran.channels_eq]
      exact carried.resolve_of_absent channels fits mem fun present => by cases present.symm.trans state
    exact diffResource_idle_of_missing state missing

end Ran

/-- Applying a plan once reaches the desired state. -/
theorem plan_converges {desired : DesiredState} {normalized : NormalizedDesiredState} {guild : GuildState}
    {graph : OperationGraph} {result : VirtualApplyResult} (valid : desired.validate = .ok ())
    (compiled : compile desired = .ok normalized) (roleIds : (guild.roles.map Role.id).Nodup)
    (channelIds : (guild.channels.map Channel.id).Nodup)
    (clean : (diff normalized (inMemoryMatchResolver guild)).conflicts = [])
    (planned : compileOperations normalized (diff normalized (inMemoryMatchResolver guild)) = .ok graph)
    (applied : apply guild graph normalized (inMemoryMatchResolver guild) = .ok result)
    (quiet : result.warnings = []) (unambiguous : Unambiguous guild normalized)
    (spare : SpareIds guild normalized graph.nodes.length) :
    (diff normalized (inMemoryMatchResolver result.after)).conflicts = [] ∧
      ∀ change ∈ (diff normalized (inMemoryMatchResolver result.after)).changes, change.op = .noOp := by
  obtain ⟨operations, last, ran, after⟩ :=
    Ran.of_apply (wellFormed valid compiled) clean planned applied quiet spare.room
  rw [after]
  have rawRoles := roleIds.map (f := RoleId.value) fun _ _ same => congrArg RoleId.mk same
  have rawChannels := channelIds.map (f := ChannelId.value) fun _ _ same => congrArg ChannelId.mk same
  rw [map_map] at rawRoles rawChannels
  have limit {raw : Nat} (above : (maxId guild).toNat + graph.nodes.length < raw) :
      (maxId guild).toNat + 1 + graph.nodes.length ≤ raw := by omega
  have roles := ran.roleSituation unambiguous rawRoles fun role mem text raw explicit parsed =>
    (spare.unasked role.identity (mem_append_left _ (mem_map_of_mem mem)) text raw explicit parsed).imp_right
      limit
  have channels := ran.channelSituation unambiguous rawChannels fun channel mem text raw explicit parsed =>
    (spare.unasked channel.identity (mem_append_right _ (mem_map_of_mem mem)) text raw explicit
      parsed).imp_right limit
  have idle : (diff normalized (inMemoryMatchResolver last.after)).Idle := by
    refine .append (.concat fun role mem => ran.diffRole_idle roles mem)
      (.append (.concat fun channel mem => ran.diffChannel_idle unambiguous roles channels mem) ?_)
    exact .concat fun panel mem => ⟨rfl, fun _ change => (not_mem_nil change).elim⟩
  exact idle

theorem Family.Separate.singleton {ρ ε : Type} {family : Family ρ ε} (rows : List ρ) (entry : ε) :
    family.Separate rows [entry] where
  own first mem _ second inEntries different := by
    rw [mem_singleton.mp mem, mem_singleton.mp inEntries] at different
    exact absurd rfl different
  names first mem _ second inEntries different := by
    rw [mem_singleton.mp mem, mem_singleton.mp inEntries] at different
    exact absurd rfl different

namespace Sample

def identity (key : String) : Identity :=
  { key := ⟨key⟩, matchBy := .byName, ownership := .managed, state := .present }

def role (key name : String) : RoleIntent := { identity := identity key, name := some name, permissions := none }

def guild : GuildState :=
  { guild := { id := ⟨1⟩, name := "guild", ownerId := ⟨2⟩ }, roles := [], channels := [], members := [] }

def hall : DesiredState :=
  { mode := .patch, scope := none, roles := [role "helper" "Helper"]
    channels := [{
      identity := identity "hall", name := some "hall", channelType := none, parent := none, access := none
      rawOverwrites := some [{
        target := .role ⟨"helper"⟩, op := .replace, allow := .viewChannel, deny := .empty }] }]
    features := [] }

def hallNormalized : NormalizedDesiredState :=
  { mode := .patch, scope := none, roles := [normalizeRole (role "helper" "Helper")]
    channels := [{
      identity := identity "hall", name := some "hall", channelType := none, parent := none
      overwrites := [{ target := .role ⟨"helper"⟩, allow := .viewChannel, deny := .empty }] }]
    verificationPanels := [] }

theorem hall_unambiguous : Unambiguous guild hallNormalized where
  roles := .singleton _ _
  channels := .singleton _ _
  overwriteRoles _ _ _ _ _ _ role inRoles _ := by
    cases mem_singleton.mp inRoles
    rfl
  overwriteTargets channel mem _ _ first inFirst second inSecond _ _ _ := by
    cases mem_singleton.mp mem
    cases mem_singleton.mp inFirst
    cases mem_singleton.mp inSecond
    rfl

theorem hall_spareIds : SpareIds guild hallNormalized 3 where
  room := by decide
  unasked identity mem text raw explicit := by
    obtain rfl | rfl : identity = Sample.identity "helper" ∨ identity = Sample.identity "hall" := by
      simpa [hallNormalized, normalizeRole, role] using mem
    all_goals cases explicit

def namesakes : DesiredState :=
  { mode := .patch, scope := none, roles := [role "first" "Helper", role "second" "Helper"], channels := []
    features := [] }

end Sample

theorem hall_converges :
    ∃ graph result, compileOperations Sample.hallNormalized
        (diff Sample.hallNormalized (inMemoryMatchResolver Sample.guild)) = .ok graph ∧
      apply Sample.guild graph Sample.hallNormalized (inMemoryMatchResolver Sample.guild) = .ok result ∧
      (diff Sample.hallNormalized (inMemoryMatchResolver result.after)).conflicts = [] ∧
      ∀ change ∈ (diff Sample.hallNormalized (inMemoryMatchResolver result.after)).changes, change.op = .noOp := by
  obtain ⟨graph, planned, small⟩ := exists_ok_of_any
    (compileOperations Sample.hallNormalized
      (diff Sample.hallNormalized (inMemoryMatchResolver Sample.guild)))
    (fun graph => graph.nodes.length = 3 ∧ (apply Sample.guild graph Sample.hallNormalized
      (inMemoryMatchResolver Sample.guild)).toOption.any fun result => result.warnings = []) (by decide +kernel)
  simp only [Bool.decide_and, Bool.decide_eq_true, Bool.and_eq_true, decide_eq_true_eq] at small
  obtain ⟨result, applied, quiet⟩ := exists_ok_of_any _ _ small.2
  have spare : SpareIds Sample.guild Sample.hallNormalized graph.nodes.length := by
    rw [small.1]
    exact Sample.hall_spareIds
  have valid : Sample.hall.validate = .ok () := by decide +kernel
  have compiled : compile Sample.hall = .ok Sample.hallNormalized := by decide +kernel
  exact ⟨graph, result, planned, applied, plan_converges valid compiled (by decide) (by decide) (by decide +kernel)
    planned applied (of_decide_eq_true quiet) Sample.hall_unambiguous spare⟩

/-- Two entries with one name are created side by side, and neither can be told from the other afterwards. -/
theorem namesakes_diverge :
    ∃ desired normalized guild graph result, DesiredState.validate desired = .ok () ∧
      compile desired = .ok normalized ∧ (guild.roles.map Role.id).Nodup ∧ (guild.channels.map Channel.id).Nodup ∧
      (diff normalized (inMemoryMatchResolver guild)).conflicts = [] ∧
      compileOperations normalized (diff normalized (inMemoryMatchResolver guild)) = .ok graph ∧
      apply guild graph normalized (inMemoryMatchResolver guild) = .ok result ∧ result.warnings = [] ∧
      ¬((diff normalized (inMemoryMatchResolver result.after)).conflicts = [] ∧
        ∀ change ∈ (diff normalized (inMemoryMatchResolver result.after)).changes, change.op = .noOp) := by
  obtain ⟨normalized, compiled, checked⟩ := exists_ok_of_any (compile Sample.namesakes)
    (fun normalized => (diff normalized (inMemoryMatchResolver Sample.guild)).conflicts = [] ∧
      (compileOperations normalized (diff normalized (inMemoryMatchResolver Sample.guild))).toOption.any fun graph =>
        (apply Sample.guild graph normalized (inMemoryMatchResolver Sample.guild)).toOption.any fun result =>
          result.warnings = [] ∧ (diff normalized (inMemoryMatchResolver result.after)).conflicts ≠ [])
    (by decide +kernel)
  obtain ⟨clean, more⟩ := of_decide_eq_true checked
  obtain ⟨graph, planned, ran⟩ := exists_ok_of_any _ _ more
  obtain ⟨result, applied, ended⟩ := exists_ok_of_any _ _ ran
  obtain ⟨quiet, conflict⟩ := of_decide_eq_true ended
  exact ⟨Sample.namesakes, normalized, Sample.guild, graph, result, by decide +kernel, compiled, by decide, by decide,
    clean, planned, applied, quiet, fun idle => conflict idle.1⟩

end Starring.Planning
