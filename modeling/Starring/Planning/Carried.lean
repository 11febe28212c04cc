import Starring.Planning.Execution

/-! A plan that was carried out without a warning, seen from the entries of the desired
state: which edits were made for each of them, and under which ids. -/

namespace Starring.Planning
open Foundation List

section
variable {ρ ε ι : Type} {family : Family ρ ε} {rows : List ρ} {entries : List ε}

/-- The ids that a ledger holds for entries without a row are nobody else's. -/
theorem Ledger.situation {idOf : ρ → ι} {value : ι → UInt64} {low next : Nat} {bindings : KeyMap ι}
    (ledger : Ledger (family.rowFor rows entries) idOf (fun id => (value id).toNat) low next bindings)
    (injective : ∀ first second, value first = value second → first = second)
    (ids : (rows.map family.kind.id).Nodup) (keys : (entries.map family.key).Nodup)
    (proper : ∀ entry ∈ entries, Proper (family.identity entry) (family.name entry))
    (clear : ∀ entry ∈ entries, ∀ reason, family.resolve rows entry ≠ .conflict reason)
    (creatable : ∀ entry ∈ entries, family.Present entry → family.resolve rows entry = .missing →
      (family.identity entry).matchBy = .byName)
    (separate : family.Separate rows entries) (below : ∀ row ∈ rows, (family.kind.id row).toNat ≤ low)
    (explicit : ∀ entry ∈ entries, ∀ text raw, (family.identity entry).matchBy = .byExplicitId text →
      parseU64 text = some raw → raw.toNat ≤ low ∨ next ≤ raw.toNat) :
    family.Situation rows entries fun key => bindings[key]?.map value := by
  have fresh : ∀ entry ∈ entries, family.resolve rows entry = .missing → ∀ id,
      bindings[family.key entry]?.map value = some id → low < id.toNat ∧ id.toNat < next := by
    intro entry mem missing id bound
    obtain ⟨held, inBindings, rfl⟩ := Option.map_eq_some_iff.mp bound
    obtain ⟨row, existing, -⟩ | ⟨-, range⟩ := ledger.known _ held inBindings
    · rw [Family.rowFor_key rows keys mem, missing] at existing
      cases existing
    · exact range
  refine ⟨ids, keys, proper, clear, creatable, separate, ?_, ?_, ?_⟩
  · rintro entry mem missing id bound row inRows rfl
    have range := fresh entry mem missing _ bound
    have small := below row inRows
    omega
  · intro entry mem missing id bound other otherMem text strategy parsed
    have range := fresh entry mem missing id bound
    have outside := explicit other otherMem text id strategy parsed
    omega
  · intro entry mem missing id bound other otherMem otherMissing otherBound
    have range := fresh entry mem missing id bound
    obtain ⟨held, inBindings, rfl⟩ := Option.map_eq_some_iff.mp bound
    obtain ⟨otherHeld, otherIn, same⟩ := Option.map_eq_some_iff.mp otherBound
    obtain rfl := injective _ _ same
    exact ledger.distinct _ _ otherHeld otherIn inBindings range.1

end

/-- A plan for a guild, carried out to the end without a warning. -/
structure Ran (guild : GuildState) (normalized : NormalizedDesiredState) (limit : Nat) (operations : List Operation)
    (last : ApplyContext) : Prop where
  wellFormed : WellFormed normalized
  clean : (diff normalized (inMemoryMatchResolver guild)).conflicts = []
  compiled : ∀ operation ∈ operations, ∃ change ∈ (diff normalized (inMemoryMatchResolver guild)).changes,
    Compiles normalized change.op change.target operation
  covered : ∀ change ∈ (diff normalized (inMemoryMatchResolver guild)).changes, change.op ≠ .noOp →
    ∃ operation ∈ operations, Compiles normalized change.op change.target operation
  ready : Ready guild normalized limit [] last
  executed : Executed guild.guild.id operations (.new guild normalized (inMemoryMatchResolver guild)) last

theorem toNat_le_foldl_max {α : Type} (value : α → UInt64) (items : List α) (start : UInt64) :
    start.toNat ≤ (items.foldl (fun largest item => max largest (value item)) start).toNat ∧
      ∀ item ∈ items,
        (value item).toNat ≤ (items.foldl (fun largest item => max largest (value item)) start).toNat := by
  induction items generalizing start with
  | nil => exact ⟨Nat.le_refl _, fun _ mem => (not_mem_nil mem).elim⟩
  | cons head tail ih =>
    obtain ⟨startLe, each⟩ := ih (max start (value head))
    rw [UInt64.toNat_max] at startLe
    refine ⟨Nat.le_trans (Nat.le_max_left _ _) startLe, fun item mem => ?_⟩
    obtain rfl | later := mem_cons.mp mem
    · exact Nat.le_trans (Nat.le_max_right _ _) startLe
    · exact each item later

theorem role_le_maxId {guild : GuildState} {role : Role} (mem : role ∈ guild.roles) :
    role.id.value.toNat ≤ (maxId guild).toNat :=
  Nat.le_trans ((toNat_le_foldl_max (fun role : Role => role.id.value) guild.roles _).2 role mem)
    (toNat_le_foldl_max (fun channel : Channel => channel.id.value) guild.channels _).1

theorem channel_le_maxId {guild : GuildState} {channel : Channel} (mem : channel ∈ guild.channels) :
    channel.id.value.toNat ≤ (maxId guild).toNat :=
  (toNat_le_foldl_max (fun channel : Channel => channel.id.value) guild.channels _).2 channel mem

theorem guild_le_maxId (guild : GuildState) : guild.guild.id.value.toNat ≤ (maxId guild).toNat :=
  Nat.le_trans (toNat_le_foldl_max (fun role : Role => role.id.value) guild.roles _).1
    (toNat_le_foldl_max (fun channel : Channel => channel.id.value) guild.channels _).1

section
variable {guild : GuildState} {normalized : NormalizedDesiredState} {operations : List Operation}

theorem Ledger.empty {ρ ι : Type} {resolved : ResourceKey → Option (ResolveResult ρ)} {idOf : ρ → ι} {raw : ι → Nat}
    {low next : Nat} (small : ∀ key row, resolved key = some (.existing row) → raw (idOf row) ≤ low) :
    Ledger resolved idOf raw low next ∅ := by
  refine ⟨fun key id held => ?_, fun first second id held => ?_, small⟩
  · simp at held
  · simp at held

theorem createRole_missing (wellFormed : WellFormed normalized)
    (clean : (diff normalized (inMemoryMatchResolver guild)).conflicts = []) {change : DiffChange}
    (changes : change ∈ (diff normalized (inMemoryMatchResolver guild)).changes) {key : ResourceKey}
    {name : Option String} {permissions : Option Permissions}
    (compiles : Compiles normalized change.op change.target (.createRole key name permissions)) :
    roleFor guild normalized key = some .missing := by
  obtain ⟨op, target, fields⟩ := change
  cases compiles with
  | createRole found =>
    obtain ⟨role, mem, rfl, due⟩ := role_change_due clean changes rfl
    cases due with
    | create present missing => exact (roleFamily.rowFor_key guild.roles wellFormed.roleKeys mem).trans (congrArg some missing)

theorem createChannel_missing (wellFormed : WellFormed normalized)
    (clean : (diff normalized (inMemoryMatchResolver guild)).conflicts = []) {change : DiffChange}
    (changes : change ∈ (diff normalized (inMemoryMatchResolver guild)).changes) {key : ResourceKey}
    {name : Option String} {channelType : Option ChannelType} {parent : Option ResourceKey}
    (compiles : Compiles normalized change.op change.target (.createChannel key name channelType parent)) :
    channelFor guild normalized key = some .missing := by
  obtain ⟨op, target, fields⟩ := change
  cases compiles with
  | createChannel found =>
    obtain ⟨channel, mem, rfl, due⟩ := channel_change_due clean changes rfl
    cases due with
    | create present missing =>
      exact (channelFamily.rowFor_key guild.channels wellFormed.channelKeys mem).trans (congrArg some missing)

theorem ready_new {limit : Nat} (wellFormed : WellFormed normalized)
    (clean : (diff normalized (inMemoryMatchResolver guild)).conflicts = [])
    (compiled : ∀ operation ∈ operations, ∃ change ∈ (diff normalized (inMemoryMatchResolver guild)).changes,
      Compiles normalized change.op change.target operation)
    (targets : (operations.map Operation.target).Nodup) (room : (maxId guild).toNat + 1 + operations.length ≤ limit)
    (bounded : limit < 2 ^ 64) :
    Ready guild normalized limit operations (.new guild normalized (inMemoryMatchResolver guild)) := by
  have next : (maxId guild + 1).toNat = (maxId guild).toNat + 1 := by
    rw [UInt64.toNat_add]
    exact Nat.mod_eq_of_lt (Nat.lt_of_le_of_lt (Nat.le_trans (Nat.le_add_right _ _) room) bounded)
  have above : ∀ {id : UInt64}, id.toNat ≤ (maxId guild).toNat → id.toNat < (maxId guild + 1).toNat := fun small =>
    next ▸ Nat.lt_succ_of_le small
  refine ⟨rfl, rfl, .empty fun key row existing => ?_, .empty fun key row existing => ?_, above (Nat.le_refl _),
    fun role mem => above (role_le_maxId mem), fun channel mem => above (channel_le_maxId mem), ?_, targets,
    fun key name permissions mem => ⟨by simp [ApplyContext.new, ResourceResolutionContext.new], ?_⟩,
    fun key name channelType parent mem => ⟨by simp [ApplyContext.new, ResourceResolutionContext.new], ?_⟩⟩
  · obtain ⟨role, -, -, found⟩ := Family.mem_of_rowFor existing
    exact role_le_maxId (resolveMatch_mem found)
  · obtain ⟨channel, -, -, found⟩ := Family.mem_of_rowFor existing
    exact channel_le_maxId (resolveMatch_mem found)
  · exact next ▸ room
  · obtain ⟨change, changes, compiles⟩ := compiled _ mem
    exact createRole_missing wellFormed clean changes compiles
  · obtain ⟨change, changes, compiles⟩ := compiled _ mem
    exact createChannel_missing wellFormed clean changes compiles

theorem Ran.of_apply {graph : OperationGraph} {result : VirtualApplyResult} (wellFormed : WellFormed normalized)
    (clean : (diff normalized (inMemoryMatchResolver guild)).conflicts = [])
    (planned : compileOperations normalized (diff normalized (inMemoryMatchResolver guild)) = .ok graph)
    (applied : apply guild graph normalized (inMemoryMatchResolver guild) = .ok result) (quiet : result.warnings = [])
    (room : (maxId guild).toNat + 1 + graph.nodes.length < 2 ^ 64) :
    ∃ operations last, Ran guild normalized ((maxId guild).toNat + 1 + graph.nodes.length) operations last ∧
      result.after = last.after := by
  have plan := compileOperations_planned planned
  obtain ⟨order, ordered, rest⟩ := bind_eq_ok.mp applied
  rw [mapError_eq_ok] at ordered
  obtain ⟨last, ran, made⟩ := bind_eq_ok.mp rest
  obtain rfl := Except.ok.inj made
  rw [foldlM_applyNode] at ran
  have perm := topologicalOrder_nodes plan.ids ordered
  have compiled : ∀ operation ∈ (graph.nodesOf order).map OperationNode.operation,
      ∃ change ∈ (diff normalized (inMemoryMatchResolver guild)).changes,
        Compiles normalized change.op change.target operation := fun operation mem => by
    obtain ⟨node, inNodes, rfl⟩ := mem_map.mp mem
    exact plan.compiled node (perm.mem_iff.mp inNodes)
  have targets : (((graph.nodesOf order).map OperationNode.operation).map Operation.target).Nodup := by
    rw [map_map]
    exact (perm.map _).nodup_iff.mpr (plan.targets.nodup (diff_targets_nodup wellFormed clean))
  have length : ((graph.nodesOf order).map OperationNode.operation).length = graph.nodes.length := by
    rw [length_map, perm.length_eq]
  have ready := ready_new wellFormed clean compiled targets (Nat.le_of_eq (length ▸ rfl)) room
  obtain ⟨readyLast, executed⟩ := ready.run room ran quiet
  refine ⟨_, last, ⟨wellFormed, clean, compiled, fun change changes acts => ?_, readyLast, executed⟩, rfl⟩
  obtain ⟨node, inNodes, compiles⟩ := plan.covered change changes acts
  exact ⟨_, mem_map_of_mem (perm.mem_iff.mpr inNodes), compiles⟩

end

/-- The ids that the keys of roles, or of channels, are bound to. -/
def ResourceBindingMap.roleId (bindings : ResourceBindingMap) (key : ResourceKey) : Option UInt64 :=
  bindings.roleBindings[key]?.map RoleId.value

def ResourceBindingMap.channelId (bindings : ResourceBindingMap) (key : ResourceKey) : Option UInt64 :=
  bindings.channelBindings[key]?.map ChannelId.value

theorem Ledger.id_of_existing {ρ ι : Type} {resolved : ResourceKey → Option (ResolveResult ρ)} {idOf : ρ → ι}
    {raw : ι → Nat} {low next : Nat} {bindings : KeyMap ι} (ledger : Ledger resolved idOf raw low next bindings)
    {key : ResourceKey} {row : ρ} (existing : resolved key = some (.existing row)) {id : ι}
    (bound : bindings[key]? = some id) : id = idOf row := by
  obtain ⟨same, sameExisting, rfl⟩ | ⟨missing, -⟩ := ledger.known key id bound
  · obtain rfl := ResolveResult.existing.inj (Option.some.inj (existing.symm.trans sameExisting))
    rfl
  · cases existing.symm.trans missing

theorem roleChanged_newRole (role : NormalizedRole) (id : RoleId) :
    roleChanged role (newRole id role.name role.permissions) = [] := by
  simp only [roleChanged, append_eq_nil_iff, differs_eq_nil, newRole]
  exact ⟨fun value named => by simp [named], fun value wanted => by simp [wanted]⟩

theorem roleChanged_changeRole (role : NormalizedRole) (old : Role) :
    roleChanged role (changeRole role.name role.permissions old) = [] := by
  simp only [roleChanged, append_eq_nil_iff, differs_eq_nil, changeRole]
  exact ⟨fun value named => by simp [named], fun value wanted => by simp [wanted]⟩

theorem channelMetaChanged_newChannel (channel : NormalizedChannel) (id : ChannelId) (parentId : Option ChannelId) :
    channelMetaChanged channel (newChannel id channel.name channel.channelType parentId) = [] := by
  simp only [channelMetaChanged, append_eq_nil_iff, differs_eq_nil, newChannel]
  exact ⟨fun value named => by simp [named], fun value wanted => by simp [wanted]⟩

theorem channelMetaChanged_changeChannel (channel : NormalizedChannel) (old : Channel) :
    channelMetaChanged channel (changeChannel channel.name channel.channelType old) = [] := by
  simp only [channelMetaChanged, append_eq_nil_iff, differs_eq_nil, changeChannel]
  exact ⟨fun value named => by simp [named], fun value wanted => by simp [wanted]⟩

inductive ChannelEdit (guild : GuildState) (bindings : ResourceBindingMap) (channel : NormalizedChannel) :
    Table.Edit Channel UInt64 → Prop where
  | create (id : ChannelId) (parentId : Option ChannelId) (present : channel.identity.state = .present)
      (missing : channelFamily.resolve guild.channels channel = .missing)
      (bound : bindings.channelBindings[channel.identity.key]? = some id) :
      ChannelEdit guild bindings channel (.add id.value (newChannel id channel.name channel.channelType parentId))
  | update (current : Channel) (present : channel.identity.state = .present)
      (owned : channel.identity.ownership ≠ .referenced)
      (found : channelFamily.resolve guild.channels channel = .existing current) :
      ChannelEdit guild bindings channel (.change current.id.value (changeChannel channel.name channel.channelType))
  | overwrite (id : ChannelId) (overwrite : NormalizedOverwrite) (denoted : OverwriteTarget)
      (present : channel.identity.state = .present) (owned : channel.identity.ownership ≠ .referenced)
      (bound : bindings.channelBindings[channel.identity.key]? = some id) (mem : overwrite ∈ channel.overwrites)
      (denotes : bindings.denote guild.guild.id overwrite.target = some denoted) :
      ChannelEdit guild bindings channel (.amend id.value (changeOverwrite denoted overwrite.allow overwrite.deny))
  | delete (current : Channel) (absent : channel.identity.state = .absent)
      (found : channelFamily.resolve guild.channels channel = .existing current) :
      ChannelEdit guild bindings channel (.drop current.id.value)

namespace Ran
variable {guild : GuildState} {normalized : NormalizedDesiredState} {limit : Nat} {operations : List Operation}
  {last : ApplyContext} (ran : Ran guild normalized limit operations last)
include ran

theorem role_unique {first second : NormalizedRole} (firstMem : first ∈ normalized.roles)
    (secondMem : second ∈ normalized.roles) (same : first.identity.key = second.identity.key) : first = second :=
  inj_on_of_nodup_map ran.wellFormed.roleKeys firstMem secondMem same

theorem channel_unique {first second : NormalizedChannel} (firstMem : first ∈ normalized.channels)
    (secondMem : second ∈ normalized.channels) (same : first.identity.key = second.identity.key) : first = second :=
  inj_on_of_nodup_map ran.wellFormed.channelKeys firstMem secondMem same

variable {role : NormalizedRole}

theorem role_id (mem : role ∈ normalized.roles) {current : Role}
    (found : roleFamily.resolve guild.roles role = .existing current) {id : RoleId}
    (bound : last.resources.bindings.roleBindings[role.identity.key]? = some id) : id = current.id :=
  ran.ready.roles.id_of_existing
    ((roleFamily.rowFor_key guild.roles ran.wellFormed.roleKeys mem).trans (congrArg some found)) bound

variable {channel : NormalizedChannel}

theorem channel_id (mem : channel ∈ normalized.channels) {current : Channel}
    (found : channelFamily.resolve guild.channels channel = .existing current) {id : ChannelId}
    (bound : last.resources.bindings.channelBindings[channel.identity.key]? = some id) : id = current.id :=
  ran.ready.channels.id_of_existing
    ((channelFamily.rowFor_key guild.channels ran.wellFormed.channelKeys mem).trans (congrArg some found)) bound

variable {op : ChangeOp}

theorem role_makes (mem : role ∈ normalized.roles)
    (due : Due role.identity (roleFamily.resolve guild.roles role) (roleChanged role) op) {operation : Operation}
    (compiles : Compiles normalized op (.role role.identity.key) operation) {edit : Table.Edit Role UInt64}
    (edits : roleEdit last.resources.bindings operation = some edit) :
    roleFamily.Makes guild.roles last.resources.bindings.roleId role edit := by
  cases compiles with
  | createRole found =>
    obtain ⟨id, bound, rfl⟩ := Option.map_eq_some_iff.mp edits
    obtain ⟨inRoles, same⟩ := (findRole_eq_ok ran.wellFormed _ _).mp found
    obtain rfl := ran.role_unique inRoles mem same
    cases due with
    | create present missing =>
      exact .create _ _ present missing (congrArg (Option.map _) bound) (roleChanged_newRole _ id)
  | updateRole found =>
    obtain ⟨id, bound, rfl⟩ := Option.map_eq_some_iff.mp edits
    obtain ⟨inRoles, same⟩ := (findRole_eq_ok ran.wellFormed _ _).mp found
    obtain rfl := ran.role_unique inRoles mem same
    cases due with
    | update current present owned existing differs =>
      obtain rfl := ran.role_id mem existing bound
      refine .update current _ present owned existing (roleChanged_changeRole _) ?_
      exact fun unnamed old => congrArg (Option.getD · old.name) unnamed
  | deleteRole =>
    obtain ⟨id, bound, rfl⟩ := Option.map_eq_some_iff.mp edits
    cases due with
    | delete current absent existing =>
      obtain rfl := ran.role_id mem existing bound
      exact .delete current (fun present => by cases present.symm.trans absent) existing

theorem role_done (mem : role ∈ normalized.roles)
    (due : Due role.identity (roleFamily.resolve guild.roles role) (roleChanged role) op) (acts : op ≠ .noOp) :
    ∃ edit ∈ operations.filterMap (roleEdit last.resources.bindings), ∃ operation,
      Compiles normalized op (.role role.identity.key) operation ∧
        roleEdit last.resources.bindings operation = some edit := by
  obtain ⟨⟨_, _, fields⟩, changes, rfl, rfl⟩ := role_due_change ran.clean mem due acts
  obtain ⟨operation, inOperations, compiles⟩ := ran.covered _ changes acts
  have made : (roleEdit last.resources.bindings operation).isSome := by
    obtain made | other := ran.executed.acts operation inOperations
    · exact made
    · cases compiles <;> cases other
  obtain ⟨edit, edits⟩ := Option.isSome_iff_exists.mp made
  exact ⟨edit, mem_filterMap.mpr ⟨operation, inOperations, edits⟩, operation, compiles, edits⟩

theorem roles_carried : roleFamily.Carries guild.roles normalized.roles last.resources.bindings.roleId
    (operations.filterMap (roleEdit last.resources.bindings)) := by
  refine ⟨fun edit mem => ?_, fun role mem present missing => ?_,
    fun role mem present owned row found differs => ?_, fun role mem absent row found => ?_⟩
  · obtain ⟨operation, inOperations, edits⟩ := mem_filterMap.mp mem
    obtain ⟨⟨op, target, fields⟩, changes, compiles⟩ := ran.compiled operation inOperations
    obtain ⟨key, rfl⟩ : ∃ key, target = .role key := by
      cases compiles with
      | createRole _ | updateRole _ | deleteRole => exact ⟨_, rfl⟩
      | _ => cases edits
    obtain ⟨role, roleMem, rfl, due⟩ := role_change_due ran.clean changes rfl
    exact ⟨role, roleMem, ran.role_makes roleMem due compiles edits⟩
  · have due : Due role.identity (roleFamily.resolve guild.roles role) (roleChanged role) .create :=
      .create present missing
    obtain ⟨edit, inEdits, operation, compiles, edits⟩ := ran.role_done mem due nofun
    have makes := ran.role_makes mem due compiles edits
    cases compiles with
    | createRole _ =>
      obtain ⟨id, bound, rfl⟩ := Option.map_eq_some_iff.mp edits
      exact ⟨_, _, inEdits, makes⟩
  · have due : Due role.identity (roleFamily.resolve guild.roles role) (roleChanged role) .update :=
      .update row present owned found differs
    obtain ⟨edit, inEdits, operation, compiles, edits⟩ := ran.role_done mem due nofun
    have makes := ran.role_makes mem due compiles edits
    cases compiles with
    | updateRole _ =>
      obtain ⟨id, bound, rfl⟩ := Option.map_eq_some_iff.mp edits
      obtain rfl := ran.role_id mem found bound
      exact ⟨_, inEdits, makes⟩
  · have gone : role.identity.state = .absent := by
      cases state : role.identity.state with
      | present => exact (absent state).elim
      | absent => rfl
    have due : Due role.identity (roleFamily.resolve guild.roles role) (roleChanged role) .delete :=
      .delete row gone found
    obtain ⟨edit, inEdits, operation, compiles, edits⟩ := ran.role_done mem due nofun
    cases compiles with
    | deleteRole =>
      obtain ⟨id, bound, rfl⟩ := Option.map_eq_some_iff.mp edits
      obtain rfl := ran.role_id mem found bound
      exact inEdits

theorem channel_home (mem : channel ∈ normalized.channels) {id : ChannelId}
    (bound : last.resources.bindings.channelBindings[channel.identity.key]? = some id) :
    channelFamily.Home guild.channels last.resources.bindings.channelId channel id.value := by
  have known := channelFamily.rowFor_key guild.channels ran.wellFormed.channelKeys mem
  obtain ⟨row, existing, rfl⟩ | ⟨missing, -⟩ := ran.ready.channels.known _ id bound
  · exact .inl ⟨row, Option.some.inj (known.symm.trans existing), rfl⟩
  · exact .inr ⟨Option.some.inj (known.symm.trans missing), congrArg (Option.map _) bound⟩

variable {edit : Table.Edit Channel UInt64}

theorem channelEdit_makes (mem : channel ∈ normalized.channels)
    (edits : ChannelEdit guild last.resources.bindings channel edit) :
    channelFamily.Makes guild.channels last.resources.bindings.channelId channel edit := by
  cases edits with
  | create id parentId present missing bound =>
    exact .create _ _ present missing (congrArg (Option.map _) bound) (channelMetaChanged_newChannel channel id parentId)
  | update current present owned found =>
    exact .update current _ present owned found (channelMetaChanged_changeChannel channel)
      fun unnamed old => congrArg (Option.getD · old.name) unnamed
  | overwrite id overwrite denoted present owned bound inOverwrites denotes =>
    exact .detail _ _ present owned (ran.channel_home mem bound) (fun _ => rfl) fun _ => rfl
  | delete current absent found => exact .delete current (fun present => by cases present.symm.trans absent) found

theorem overwrite_edit {change : DiffChange}
    (changes : change ∈ (diff normalized (inMemoryMatchResolver guild)).changes) {key : ResourceKey}
    {target : NormalizedTarget} (about : change.target = .overwrite key target) {overwrite : NormalizedOverwrite}
    (found : findOverwrite normalized key target = .ok overwrite)
    (edits : (last.resources.bindings.channelBindings[key]?.bind fun id =>
      (last.resources.bindings.denote guild.guild.id target).map fun target =>
        .amend id.value (changeOverwrite target overwrite.allow overwrite.deny)) = some edit) :
    ∃ channel ∈ normalized.channels, .overwrite key target ∈ channelTargets channel ∧
      ChannelEdit guild last.resources.bindings channel edit := by
  obtain ⟨id, bound, rest⟩ := Option.bind_eq_some_iff.mp edits
  obtain ⟨denoted, denotes, rfl⟩ := Option.map_eq_some_iff.mp rest
  obtain ⟨channel, mem, rfl, inOverwrites, rfl⟩ := (findOverwrite_eq_ok ran.wellFormed _ _ _).mp found
  obtain ⟨same, sameMem, sameKey, present, owned⟩ := overwrite_change_channel ran.clean changes about
  obtain rfl := ran.channel_unique sameMem mem sameKey
  exact ⟨same, mem, mem_cons_of_mem _ (mem_map.mpr ⟨overwrite, inOverwrites, rfl⟩),
    .overwrite id overwrite denoted present owned bound inOverwrites denotes⟩

/-- Every edit of a channel is made for the channel with the key of the operation. -/
theorem channel_edit {operation : Operation} (mem : operation ∈ operations)
    (edits : channelEdit guild.guild.id last.resources.bindings operation = some edit) :
    ∃ channel ∈ normalized.channels, operation.target ∈ channelTargets channel ∧
      ChannelEdit guild last.resources.bindings channel edit := by
  obtain ⟨⟨op, target, fields⟩, changes, compiles⟩ := ran.compiled operation mem
  cases compiles with
  | createRole found => cases edits
  | updateRole found => cases edits
  | deleteRole => cases edits
  | createChannel found =>
    obtain ⟨id, bound, rfl⟩ := Option.map_eq_some_iff.mp edits
    obtain ⟨inChannels, rfl⟩ := (findChannel_eq_ok ran.wellFormed _ _).mp found
    obtain ⟨channel, channelMem, same, due⟩ := channel_change_due ran.clean changes rfl
    obtain rfl := ran.channel_unique channelMem inChannels same
    cases due with
    | create present missing => exact ⟨channel, channelMem, mem_cons_self, .create id _ present missing bound⟩
  | updateChannel found =>
    obtain ⟨id, bound, rfl⟩ := Option.map_eq_some_iff.mp edits
    obtain ⟨inChannels, rfl⟩ := (findChannel_eq_ok ran.wellFormed _ _).mp found
    obtain ⟨channel, channelMem, same, due⟩ := channel_change_due ran.clean changes rfl
    obtain rfl := ran.channel_unique channelMem inChannels same
    cases due with
    | update current present owned existing differs =>
      obtain rfl := ran.channel_id channelMem existing bound
      exact ⟨channel, channelMem, mem_cons_self, .update current present owned existing⟩
  | deleteChannel =>
    obtain ⟨id, bound, rfl⟩ := Option.map_eq_some_iff.mp edits
    obtain ⟨channel, channelMem, rfl, due⟩ := channel_change_due ran.clean changes rfl
    cases due with
    | delete current absent existing =>
      obtain rfl := ran.channel_id channelMem existing bound
      exact ⟨channel, channelMem, mem_cons_self, .delete current absent existing⟩
  | createOverwrite found | updateOverwrite found => exact ran.overwrite_edit changes rfl found edits

theorem channel_done (mem : channel ∈ normalized.channels)
    (due : Due channel.identity (channelFamily.resolve guild.channels channel) (channelMetaChanged channel) op)
    (acts : op ≠ .noOp) :
    ∃ edit ∈ operations.filterMap (channelEdit guild.guild.id last.resources.bindings), ∃ operation,
      Compiles normalized op (.channel channel.identity.key) operation ∧
        channelEdit guild.guild.id last.resources.bindings operation = some edit ∧
        ChannelEdit guild last.resources.bindings channel edit := by
  obtain ⟨⟨_, _, fields⟩, changes, rfl, rfl⟩ := channel_due_change ran.clean mem due acts
  obtain ⟨operation, inOperations, compiles⟩ := ran.covered _ changes acts
  have made : (channelEdit guild.guild.id last.resources.bindings operation).isSome := by
    obtain other | made := ran.executed.acts operation inOperations
    · cases compiles <;> cases other
    · exact made
  obtain ⟨edit, edits⟩ := Option.isSome_iff_exists.mp made
  obtain ⟨maker, makerMem, about, makes⟩ := ran.channel_edit inOperations edits
  rw [compiles.target] at about
  have same : channel.identity.key = maker.identity.key := by simpa [channelTargets] using about
  obtain rfl := ran.channel_unique mem makerMem same
  exact ⟨edit, mem_filterMap.mpr ⟨operation, inOperations, edits⟩, operation, compiles, edits, makes⟩

theorem overwrite_done (mem : channel ∈ normalized.channels) {overwrite : NormalizedOverwrite}
    (inOverwrites : overwrite ∈ channel.overwrites) {change : DiffChange}
    (changes : change ∈ (diff normalized (inMemoryMatchResolver guild)).changes)
    (about : change.target = .overwrite channel.identity.key overwrite.target) (acts : change.op ≠ .noOp) :
    ∃ id denoted, last.resources.bindings.channelBindings[channel.identity.key]? = some id ∧
      last.resources.bindings.denote guild.guild.id overwrite.target = some denoted ∧
      .amend id.value (changeOverwrite denoted overwrite.allow overwrite.deny) ∈
        operations.filterMap (channelEdit guild.guild.id last.resources.bindings) := by
  obtain ⟨op, target, fields⟩ := change
  obtain rfl := about
  obtain ⟨operation, inOperations, compiles⟩ := ran.covered _ changes acts
  have only {payload : NormalizedOverwrite}
      (found : findOverwrite normalized channel.identity.key overwrite.target = .ok payload) : payload = overwrite := by
    obtain ⟨owner, ownerMem, sameKey, inOwner, sameTarget⟩ := (findOverwrite_eq_ok ran.wellFormed _ _ _).mp found
    obtain rfl := ran.channel_unique ownerMem mem sameKey
    exact inj_on_of_nodup_map (ran.wellFormed.targets owner mem) inOwner inOverwrites sameTarget
  have means : channelEdit guild.guild.id last.resources.bindings operation =
      last.resources.bindings.channelBindings[channel.identity.key]?.bind fun id =>
        (last.resources.bindings.denote guild.guild.id overwrite.target).map fun target =>
          .amend id.value (changeOverwrite target overwrite.allow overwrite.deny) := by
    cases compiles with
    | createOverwrite found | updateOverwrite found => rw [channelEdit, only found]
  have made : (channelEdit guild.guild.id last.resources.bindings operation).isSome := by
    obtain other | made := ran.executed.acts operation inOperations
    · cases compiles <;> cases other
    · exact made
  obtain ⟨edit, edits⟩ := Option.isSome_iff_exists.mp made
  have inEdits := mem_filterMap.mpr ⟨operation, inOperations, edits⟩
  rw [means] at edits
  obtain ⟨id, bound, rest⟩ := Option.bind_eq_some_iff.mp edits
  obtain ⟨denoted, denotes, rfl⟩ := Option.map_eq_some_iff.mp rest
  exact ⟨id, denoted, bound, denotes, inEdits⟩

theorem channels_carried : channelFamily.Carries guild.channels normalized.channels
    last.resources.bindings.channelId
    (operations.filterMap (channelEdit guild.guild.id last.resources.bindings)) := by
  refine ⟨fun edit mem => ?_, fun channel mem present missing => ?_,
    fun channel mem present owned row found differs => ?_, fun channel mem absent row found => ?_⟩
  · obtain ⟨operation, inOperations, edits⟩ := mem_filterMap.mp mem
    obtain ⟨channel, channelMem, -, makes⟩ := ran.channel_edit inOperations edits
    exact ⟨channel, channelMem, ran.channelEdit_makes channelMem makes⟩
  · obtain ⟨edit, inEdits, operation, compiles, edits, makes⟩ := ran.channel_done mem (.create present missing) nofun
    cases compiles with
    | createChannel _ =>
      obtain ⟨id, bound, rfl⟩ := Option.map_eq_some_iff.mp edits
      exact ⟨_, _, inEdits, ran.channelEdit_makes mem makes⟩
  · obtain ⟨edit, inEdits, operation, compiles, edits, makes⟩ :=
      ran.channel_done mem (.update row present owned found differs) nofun
    cases compiles with
    | updateChannel _ =>
      obtain ⟨id, bound, rfl⟩ := Option.map_eq_some_iff.mp edits
      obtain rfl := ran.channel_id mem found bound
      exact ⟨_, inEdits, ran.channelEdit_makes mem makes⟩
  · have gone : channel.identity.state = .absent := by
      cases state : channel.identity.state with
      | present => exact (absent state).elim
      | absent => rfl
    obtain ⟨edit, inEdits, operation, compiles, edits, makes⟩ := ran.channel_done mem (.delete row gone found) nofun
    cases compiles with
    | deleteChannel =>
      obtain ⟨id, bound, rfl⟩ := Option.map_eq_some_iff.mp edits
      obtain rfl := ran.channel_id mem found bound
      exact inEdits

end Ran

end Starring.Planning
