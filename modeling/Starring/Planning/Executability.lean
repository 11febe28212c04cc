import Starring.Planning.Execution

/-! When a plan can be carried out. A dry run gets through exactly where every key that
it looks up stands for something by then, and stays silent where no overwrite comes
after the deletion of its channel. Histories have the last operation first. -/

namespace Starring.Planning
open Foundation List ResourceResolutionContext

section
variable (guild : GuildState) (normalized : NormalizedDesiredState)

def syntheticId (past : List Operation) : UInt64 := maxId guild + 1 + UInt64.ofNat (past.countP Operation.creates)

/-- What keys stand for before anything is done. -/
def firstNames : Names :=
  (new normalized (inMemoryMatchResolver guild) guild.guild.id).names

def namesAfter : List Operation → Names
  | [] => firstNames guild normalized
  | operation :: past => (namesAfter past).after (syntheticId guild past) operation

/-- There is a channel with the id: it was there at first or has been created, and was not deleted since. -/
def Stands : List Operation → ChannelId → Prop
  | [], id => ∃ held ∈ guild.channels, held.id = id
  | .createChannel _ _ _ _ :: past, id => id = ⟨syntheticId guild past⟩ ∨ Stands past id
  | .deleteChannel key :: past, id => Stands past id ∧ (namesAfter guild normalized past).channel key ≠ some id
  | .createRole _ _ _ :: past, id | .updateRole _ _ _ :: past, id | .deleteRole _ :: past, id
  | .updateChannel _ _ _ :: past, id | .createOverwrite _ _ _ _ :: past, id | .updateOverwrite _ _ _ _ :: past, id =>
    Stands past id

/-- The channel of an overwrite still stands. -/
def Visible (past : List Operation) (operation : Operation) : Prop :=
  ∀ channel target, operation.target = .overwrite channel target →
    ∃ id, (namesAfter guild normalized past).channel channel = some id ∧ Stands guild normalized past id

/-- The operations can be carried out one after another. -/
def Feasible : List Operation → List Operation → Prop
  | _, [] => True
  | past, operation :: rest =>
    (namesAfter guild normalized past).Finds guild.guild.id (syntheticId guild past) operation ∧
      Visible guild normalized past operation ∧ Feasible (operation :: past) rest

def Names.Has (names : Names) : ResourceSymbol → Prop
  | .role key => (names.role key).isSome
  | .channel key => (names.channel key).isSome

structure Reached (past : List Operation) (context : ApplyContext) : Prop where
  names : context.world.names = namesAfter guild normalized past
  base : context.after.guild = guild.guild
  home : context.resources.guildId = context.after.guild.id
  nextId : context.nextId = syntheticId guild past
  channels : ∀ id, (∃ held ∈ context.after.channels, held.id = id) ↔ Stands guild normalized past id

end

section
variable {guild : GuildState} {normalized : NormalizedDesiredState} {past : List Operation} {context next : ApplyContext}

theorem syntheticId_cons (operation : Operation) :
    syntheticId guild (operation :: past) =
      if operation.creates then syntheticId guild past + 1 else syntheticId guild past := by
  cases makes : operation.creates with
  | false => simp [syntheticId, makes]
  | true => simp [syntheticId, makes, UInt64.ofNat_add, UInt64.add_assoc]

theorem reached_new : Reached guild normalized [] (.new guild normalized (inMemoryMatchResolver guild)) where
  names := rfl
  base := rfl
  home := rfl
  nextId := (UInt64.add_zero _).symm
  channels _ := Iff.rfl

theorem Reached.setApplied (reached : Reached guild normalized past context) (applied : List OpId) :
    Reached guild normalized past { context with applied } := { reached with }

theorem exists_channel_modifyFirst (update : Channel → Channel) (keeps : ∀ channel, (update channel).id = channel.id)
    (condition : Channel → Bool) (channels : List Channel) (id : ChannelId) :
    (∃ held ∈ modifyFirst condition update channels, held.id = id) ↔ ∃ held ∈ channels, held.id = id := by
  rw [← mem_map, ← mem_map, modifyFirst_map_id keeps]

theorem Reached.sees (reached : Reached guild normalized past context) (operation : Operation) :
    context.world.sees operation ↔ Visible guild normalized past operation := by
  have overwrite (channel : ResourceKey) : (∃ held ∈ context.after.channels,
      context.world.names.channel channel = some held.id) ↔
      ∃ id, (namesAfter guild normalized past).channel channel = some id ∧ Stands guild normalized past id := by
    rw [reached.names]
    constructor
    · rintro ⟨held, mem, found⟩
      exact ⟨held.id, found, (reached.channels held.id).mp ⟨held, mem, rfl⟩⟩
    · rintro ⟨id, found, stands⟩
      obtain ⟨held, mem, rfl⟩ := (reached.channels id).mpr stands
      exact ⟨held, mem, found⟩
  cases operation with
  | createOverwrite channel target allow deny | updateOverwrite channel target allow deny =>
    refine (overwrite channel).trans ⟨fun seen other wanted same => ?_, fun visible => visible channel target rfl⟩
    exact (DiffTarget.overwrite.inj same).1 ▸ seen
  | createRole | updateRole | deleteRole | createChannel | updateChannel | deleteChannel =>
    exact iff_of_true trivial fun _ _ other => nomatch other

theorem Reached.stands (reached : Reached guild normalized past context) {operation : Operation} {last : World}
    (moved : context.world.step context.nextId operation = some last) (id : ChannelId) :
    (∃ held ∈ last.guild.channels, held.id = id) ↔ Stands guild normalized (operation :: past) id := by
  cases operation with
  | createRole key name permissions =>
    obtain rfl := Option.some.inj moved
    exact reached.channels id
  | updateRole key name permissions | deleteRole key =>
    obtain ⟨found, -, made⟩ := Option.bind_eq_some_iff.mp moved
    obtain rfl := Option.some.inj made
    exact reached.channels id
  | createChannel key name channelType parent =>
    obtain ⟨parentId, -, made⟩ := Option.bind_eq_some_iff.mp moved
    obtain rfl := Option.some.inj made
    rw [Stands, ← reached.channels id, ← reached.nextId]
    constructor
    · rintro ⟨held, mem, rfl⟩
      obtain old | new := mem_append.mp mem
      · exact .inr ⟨held, old, rfl⟩
      · exact .inl (mem_singleton.mp new ▸ rfl)
    · rintro (rfl | ⟨held, mem, rfl⟩)
      · exact ⟨_, mem_append_right _ (mem_singleton_self _), rfl⟩
      · exact ⟨held, mem_append_left _ mem, rfl⟩
  | updateChannel key name channelType =>
    obtain ⟨found, -, made⟩ := Option.bind_eq_some_iff.mp moved
    obtain rfl := Option.some.inj made
    refine Iff.trans ?_ (reached.channels id)
    exact exists_channel_modifyFirst (changeChannel name channelType) (fun _ => rfl) _ _ _
  | deleteChannel key =>
    obtain ⟨found, named, made⟩ := Option.bind_eq_some_iff.mp moved
    obtain rfl := Option.some.inj made
    rw [Stands, ← reached.channels id, ← reached.names, named]
    constructor
    · rintro ⟨held, mem, rfl⟩
      obtain ⟨inChannels, differs⟩ := mem_filter.mp mem
      exact ⟨⟨held, inChannels, rfl⟩, fun same => of_decide_eq_true differs (Option.some.inj same).symm⟩
    · rintro ⟨⟨held, mem, rfl⟩, differs⟩
      exact ⟨held, mem_filter.mpr ⟨mem, decide_eq_true fun same => differs (congrArg some same.symm)⟩, rfl⟩
  | createOverwrite channel target allow deny | updateOverwrite channel target allow deny =>
    obtain ⟨found, -, rest⟩ := Option.bind_eq_some_iff.mp moved
    obtain ⟨meant, -, made⟩ := Option.bind_eq_some_iff.mp rest
    obtain rfl := Option.some.inj made
    refine Iff.trans ?_ (reached.channels id)
    exact exists_channel_modifyFirst (changeOverwrite meant allow deny) (fun _ => rfl) _ _ _

theorem Reached.step (reached : Reached guild normalized past context) {operation : Operation}
    (moves : Moves operation context next) : Reached guild normalized (operation :: past) next := by
  obtain ⟨names, base⟩ := context.world.step_names moves.world
  refine ⟨?_, base.trans reached.base, moves.home, ?_, reached.stands moves.world⟩
  · rw [names, reached.names, reached.nextId]
    rfl
  · rw [moves.nextId, reached.nextId, syntheticId_cons]

theorem Reached.run (reached : Reached guild normalized past context) (nodes : List OperationNode) :
    (∃ last, nodes.foldlM ApplyContext.runNode context = .ok last ∧ last.warnings = []) ↔
      context.warnings = [] ∧ Feasible guild normalized past (nodes.map OperationNode.operation) := by
  induction nodes generalizing past context with
  | nil =>
    constructor
    · rintro ⟨last, done, quiet⟩
      obtain rfl := Except.ok.inj done
      exact ⟨quiet, trivial⟩
    · exact fun ⟨quiet, _⟩ => ⟨context, rfl, quiet⟩
  | cons node nodes ih =>
    have enabled : (context.world.step context.nextId node.operation).isSome ↔
        (namesAfter guild normalized past).Finds guild.guild.id (syntheticId guild past) node.operation := by
      rw [World.step_isSome, reached.names, reached.nextId]
      exact reached.base ▸ Iff.rfl
    constructor
    · rintro ⟨last, done, quiet⟩
      rw [foldlM_cons, bind_eq_ok] at done
      obtain ⟨middle, first, rest⟩ := done
      obtain ⟨next, applied, made⟩ := bind_eq_ok.mp first
      obtain rfl := Except.ok.inj made
      have moves := applyOperation_moves reached.home applied
      have reachedNext := (reached.step moves).setApplied (next.applied ++ [node.id])
      obtain ⟨silent, feasible⟩ := (ih reachedNext).mp ⟨last, rest, quiet⟩
      obtain ⟨quietBefore, sees⟩ := moves.warnings.mp silent
      exact ⟨quietBefore, enabled.mp (moves.world ▸ rfl), (reached.sees _).mp sees, feasible⟩
    · rintro ⟨quiet, finds, visible, feasible⟩
      obtain ⟨middle, moved⟩ := Option.isSome_iff_exists.mp (enabled.mpr finds)
      obtain ⟨next, applied⟩ := applyOperation_of_world reached.home moved
      have moves := applyOperation_moves reached.home applied
      have reachedNext := (reached.step moves).setApplied (next.applied ++ [node.id])
      have silent := moves.warnings.mpr ⟨quiet, (reached.sees _).mpr visible⟩
      obtain ⟨last, rest, quietLast⟩ := (ih reachedNext).mpr ⟨silent, feasible⟩
      refine ⟨last, ?_, quietLast⟩
      rw [foldlM_cons, bind_eq_ok]
      exact ⟨_, bind_eq_ok.mpr ⟨next, applied, rfl⟩, rest⟩

end

section
variable {guild : GuildState} {normalized : NormalizedDesiredState}

theorem feasible_iff (past operations : List Operation) :
    Feasible guild normalized past operations ↔ ∀ earlier operation later, operations = earlier ++ operation :: later →
      (namesAfter guild normalized (earlier.reverse ++ past)).Finds guild.guild.id
        (syntheticId guild (earlier.reverse ++ past)) operation ∧
      Visible guild normalized (earlier.reverse ++ past) operation := by
  induction operations generalizing past with
  | nil => exact iff_of_true trivial fun earlier _ _ split => by cases earlier <;> cases split
  | cons first rest ih =>
    rw [Feasible, ih]
    constructor
    · rintro ⟨finds, visible, more⟩ earlier operation later split
      obtain _ | ⟨head, tail⟩ := earlier
      · obtain ⟨rfl, rfl⟩ := List.cons.inj split
        exact ⟨finds, visible⟩
      · obtain ⟨rfl, inRest⟩ := List.cons.inj split
        rw [reverse_cons, append_assoc]
        exact more tail operation later inRest
    · intro every
      obtain ⟨finds, visible⟩ := every [] first rest rfl
      refine ⟨finds, visible, fun earlier operation later split => ?_⟩
      have later := every (first :: earlier) operation later (congrArg (List.cons first) split)
      rwa [reverse_cons, append_assoc] at later

theorem namesAfter_has (past : List Operation) (symbol : ResourceSymbol) :
    (namesAfter guild normalized past).Has symbol ↔
      (firstNames guild normalized).Has symbol ∨ ∃ operation ∈ past, symbol ∈ operation.produces := by
  induction past with
  | nil => simp [namesAfter]
  | cons operation past ih =>
    rw [namesAfter, exists_mem_cons_iff, or_left_comm, ← ih]
    cases operation with
    | createRole created name permissions | createChannel created name channelType parent =>
      cases symbol with
      | role key | channel key =>
        by_cases same : key = created
        · simp [Names.Has, Names.after, Names.bindRole, Names.bindChannel, Operation.produces, same]
        · simp [Names.Has, Names.after, Names.bindRole, Names.bindChannel, Operation.produces, same]
    | updateRole | deleteRole | updateChannel | deleteChannel | createOverwrite | updateOverwrite =>
      simp [Names.after, Operation.produces]

theorem firstNames_role_eq (key : ResourceKey) :
    (firstNames guild normalized).role key = existingId Role.id (roleFor guild normalized key) := by
  simp [firstNames, names, new, keyId]
  rfl

theorem firstNames_channel_eq (key : ResourceKey) :
    (firstNames guild normalized).channel key = existingId Channel.id (channelFor guild normalized key) := by
  simp [firstNames, names, new, keyId]
  rfl

theorem firstNames_role (key : ResourceKey) : ((firstNames guild normalized).role key).isSome ↔
    ∃ row, roleFor guild normalized key = some (.existing row) := by
  rw [firstNames_role_eq, Option.isSome_iff_exists]
  simp only [existingId_eq_some]
  exact ⟨fun ⟨_, row, found, _⟩ => ⟨row, found⟩, fun ⟨row, found⟩ => ⟨row.id, row, found, rfl⟩⟩

theorem firstNames_channel (key : ResourceKey) : ((firstNames guild normalized).channel key).isSome ↔
    ∃ row, channelFor guild normalized key = some (.existing row) := by
  rw [firstNames_channel_eq, Option.isSome_iff_exists]
  simp only [existingId_eq_some]
  exact ⟨fun ⟨_, row, found, _⟩ => ⟨row, found⟩, fun ⟨row, found⟩ => ⟨row.id, row, found, rfl⟩⟩

end

/-- There is an entry with the key that has a row or is to get one. -/
def Family.Available {ρ ε : Type} (family : Family ρ ε) (rows : List ρ) (entries : List ε) (key : ResourceKey) : Prop :=
  ∃ entry ∈ entries, family.key entry = key ∧ (family.Present entry ∨ family.resolve rows entry ≠ .missing)

theorem Family.available_iff {ρ ε : Type} {family : Family ρ ε} {rows : List ρ} {entries : List ε}
    (keys : (entries.map family.key).Nodup)
    (clear : ∀ entry ∈ entries, ∀ reason, family.resolve rows entry ≠ .conflict reason) {made : ResourceKey → Prop}
    (makes : ∀ key, made key ↔ ∃ entry ∈ entries, family.key entry = key ∧ family.Present entry ∧
      family.resolve rows entry = .missing) (key : ResourceKey) :
    ((∃ row, family.rowFor rows entries key = some (.existing row)) ∨ made key) ↔
      family.Available rows entries key := by
  rw [makes]
  constructor
  · rintro (⟨row, found⟩ | ⟨entry, mem, same, present, -⟩)
    · obtain ⟨entry, mem, same, resolved⟩ := family.mem_of_rowFor found
      exact ⟨entry, mem, same, .inr (by rw [resolved]; exact nofun)⟩
    · exact ⟨entry, mem, same, .inl present⟩
  · rintro ⟨entry, mem, rfl, usable⟩
    rw [family.rowFor_key rows keys mem]
    cases resolved : family.resolve rows entry with
    | existing row => exact .inl ⟨row, rfl⟩
    | missing => exact .inr ⟨entry, mem, rfl, usable.resolve_right fun differs => differs resolved, resolved⟩
    | conflict reason => exact (clear entry mem reason resolved).elim

section
variable (guild : GuildState) (normalized : NormalizedDesiredState)

def Available : ResourceSymbol → Prop
  | .role key => roleFamily.Available guild.roles normalized.roles key
  | .channel key => channelFamily.Available guild.channels normalized.channels key

/-- The target of an overwrite can be looked up. -/
def Usable : NormalizedTarget → Prop
  | .everyone => True
  | .role key => roleFamily.Available guild.roles normalized.roles key
  | .member id => (parseU64 id).isSome

/-- What makes a plan go through: new channels are under channels that are there or are made too,
overwrites are about roles that are there or are made, and no overwrite comes after the deletion of its channel. -/
structure Executable (operations : List Operation) : Prop where
  parents : ∀ channel ∈ normalized.channels, channelFamily.Present channel →
    channelFamily.resolve guild.channels channel = .missing → ∀ parent, channel.parent = some parent →
      channelFamily.Available guild.channels normalized.channels parent
  targets : ∀ channel ∈ normalized.channels, channelFamily.Present channel → channelFamily.Owned channel →
    ∀ overwrite ∈ channel.overwrites, Usable guild normalized overwrite.target
  standing : ∀ earlier operation later, operations = earlier ++ operation :: later →
    Visible guild normalized earlier.reverse operation

end

/-- What each operation of a plan is asked for by. -/
inductive Asked (guild : GuildState) (normalized : NormalizedDesiredState) : Operation → Prop where
  | createRole (role : NormalizedRole) (mem : role ∈ normalized.roles) (present : roleFamily.Present role)
      (missing : roleFamily.resolve guild.roles role = .missing) :
      Asked guild normalized (.createRole role.identity.key role.name role.permissions)
  | updateRole (role : NormalizedRole) (mem : role ∈ normalized.roles) (current : Role)
      (found : roleFamily.resolve guild.roles role = .existing current) (name : Option String)
      (permissions : Option Permissions) : Asked guild normalized (.updateRole role.identity.key name permissions)
  | deleteRole (role : NormalizedRole) (mem : role ∈ normalized.roles) (current : Role)
      (found : roleFamily.resolve guild.roles role = .existing current) :
      Asked guild normalized (.deleteRole role.identity.key)
  | createChannel (channel : NormalizedChannel) (mem : channel ∈ normalized.channels)
      (present : channelFamily.Present channel) (missing : channelFamily.resolve guild.channels channel = .missing) :
      Asked guild normalized
        (.createChannel channel.identity.key channel.name channel.channelType channel.parent)
  | updateChannel (channel : NormalizedChannel) (mem : channel ∈ normalized.channels) (current : Channel)
      (found : channelFamily.resolve guild.channels channel = .existing current) (name : Option String)
      (channelType : Option ChannelType) : Asked guild normalized (.updateChannel channel.identity.key name channelType)
  | deleteChannel (channel : NormalizedChannel) (mem : channel ∈ normalized.channels) (current : Channel)
      (found : channelFamily.resolve guild.channels channel = .existing current) :
      Asked guild normalized (.deleteChannel channel.identity.key)
  | createOverwrite (channel : NormalizedChannel) (mem : channel ∈ normalized.channels)
      (present : channelFamily.Present channel) (owned : channelFamily.Owned channel) (overwrite : NormalizedOverwrite)
      (inOverwrites : overwrite ∈ channel.overwrites) : Asked guild normalized
        (.createOverwrite channel.identity.key overwrite.target overwrite.allow overwrite.deny)
  | updateOverwrite (channel : NormalizedChannel) (mem : channel ∈ normalized.channels)
      (present : channelFamily.Present channel) (owned : channelFamily.Owned channel) (overwrite : NormalizedOverwrite)
      (inOverwrites : overwrite ∈ channel.overwrites) : Asked guild normalized
        (.updateOverwrite channel.identity.key overwrite.target overwrite.allow overwrite.deny)

section
variable {guild : GuildState} {normalized : NormalizedDesiredState} (wellFormed : WellFormed normalized)
  (clean : (diff normalized (inMemoryMatchResolver guild)).conflicts = [])
include wellFormed clean

/-- The channel and the overwrite that an operation on overwrites is made for. -/
theorem overwrite_asked {change : DiffChange} (changes : change ∈ (diff normalized (inMemoryMatchResolver guild)).changes)
    {key : ResourceKey} {target : NormalizedTarget} (about : change.target = .overwrite key target)
    {overwrite : NormalizedOverwrite} (found : findOverwrite normalized key target = .ok overwrite) :
    ∃ channel ∈ normalized.channels, channel.identity.key = key ∧ channelFamily.Present channel ∧
      channelFamily.Owned channel ∧ overwrite ∈ channel.overwrites ∧ overwrite.target = target := by
  obtain ⟨channel, mem, rfl, present, owned⟩ := overwrite_change_channel clean changes about
  obtain ⟨other, inChannels, same, inOverwrites, targeted⟩ := (findOverwrite_eq_ok wellFormed _ target overwrite).mp found
  obtain rfl := inj_on_of_nodup_map wellFormed.channelKeys inChannels mem same
  exact ⟨other, mem, rfl, present, owned, inOverwrites, targeted⟩

theorem asked_of_compiles {change : DiffChange} (changes : change ∈ (diff normalized (inMemoryMatchResolver guild)).changes)
    {operation : Operation} (compiles : Compiles normalized change.op change.target operation) :
    Asked guild normalized operation := by
  obtain ⟨op, target, fields⟩ := change
  cases compiles with
  | createRole found =>
    obtain ⟨role, mem, rfl, due⟩ := role_change_due clean changes rfl
    obtain rfl := Except.ok.inj (found.symm.trans ((findRole_eq_ok wellFormed _ role).mpr ⟨mem, rfl⟩))
    cases due with
    | create present missing => exact .createRole _ mem present missing
  | updateRole found =>
    obtain ⟨role, mem, rfl, due⟩ := role_change_due clean changes rfl
    cases due with
    | update current present owned existing differs => exact .updateRole role mem current existing _ _
  | deleteRole =>
    obtain ⟨role, mem, rfl, due⟩ := role_change_due clean changes rfl
    cases due with
    | delete current absent existing => exact .deleteRole role mem current existing
  | createChannel found =>
    obtain ⟨channel, mem, rfl, due⟩ := channel_change_due clean changes rfl
    obtain rfl := Except.ok.inj (found.symm.trans ((findChannel_eq_ok wellFormed _ channel).mpr ⟨mem, rfl⟩))
    cases due with
    | create present missing => exact .createChannel _ mem present missing
  | updateChannel found =>
    obtain ⟨channel, mem, rfl, due⟩ := channel_change_due clean changes rfl
    cases due with
    | update current present owned existing differs => exact .updateChannel channel mem current existing _ _
  | deleteChannel =>
    obtain ⟨channel, mem, rfl, due⟩ := channel_change_due clean changes rfl
    cases due with
    | delete current absent existing => exact .deleteChannel channel mem current existing
  | createOverwrite found =>
    obtain ⟨channel, mem, rfl, present, owned, inOverwrites, rfl⟩ := overwrite_asked wellFormed clean changes rfl found
    exact .createOverwrite channel mem present owned _ inOverwrites
  | updateOverwrite found =>
    obtain ⟨channel, mem, rfl, present, owned, inOverwrites, rfl⟩ := overwrite_asked wellFormed clean changes rfl found
    exact .updateOverwrite channel mem present owned _ inOverwrites

end

section
variable {guild : GuildState} {normalized : NormalizedDesiredState} {graph : OperationGraph} {order : List OpId}
  (wellFormed : WellFormed normalized) (clean : (diff normalized (inMemoryMatchResolver guild)).conflicts = [])
  (planned : compileOperations normalized (diff normalized (inMemoryMatchResolver guild)) = .ok graph)
  (ordered : graph.topologicalOrder = .ok order)
include planned ordered

theorem mem_inOrder (operation : Operation) : operation ∈ graph.inOrder order ↔
    ∃ node ∈ graph.nodes, node.operation = operation := by
  rw [OperationGraph.inOrder, mem_map]
  have perm := topologicalOrder_nodes (compileOperations_planned planned).ids ordered
  exact exists_congr fun node => and_congr_left fun _ => perm.mem_iff

theorem exists_inOrder {change : DiffChange} (changes : change ∈ (diff normalized (inMemoryMatchResolver guild)).changes)
    (acts : change.op ≠ .noOp) : ∃ operation ∈ graph.inOrder order, Compiles normalized change.op change.target operation := by
  obtain ⟨node, mem, compiles⟩ := (compileOperations_planned planned).covered change changes acts
  exact ⟨node.operation, (mem_inOrder planned ordered _).mpr ⟨node, mem, rfl⟩, compiles⟩

include wellFormed clean

variable {operation : Operation}

theorem inOrder_asked (mem : operation ∈ graph.inOrder order) : Asked guild normalized operation := by
  obtain ⟨node, inNodes, rfl⟩ := (mem_inOrder planned ordered operation).mp mem
  obtain ⟨change, changes, compiles⟩ := (compileOperations_planned planned).compiled node inNodes
  exact asked_of_compiles wellFormed clean changes compiles

theorem roleMade_iff (key : ResourceKey) : (∃ operation ∈ graph.inOrder order, .role key ∈ operation.produces) ↔
    ∃ role ∈ normalized.roles, roleFamily.key role = key ∧ roleFamily.Present role ∧
      roleFamily.resolve guild.roles role = .missing := by
  constructor
  · rintro ⟨operation, mem, made⟩
    cases inOrder_asked wellFormed clean planned ordered mem with
    | createRole role inRoles present missing =>
      exact ⟨role, inRoles, (ResourceSymbol.role.inj (mem_singleton.mp made)).symm, present, missing⟩
    | createChannel => cases mem_singleton.mp made
    | updateRole | deleteRole | updateChannel | deleteChannel | createOverwrite | updateOverwrite => cases made
  · rintro ⟨role, mem, rfl, present, missing⟩
    obtain ⟨⟨op, target, fields⟩, changes, rfl, rfl⟩ := role_due_change clean mem (.create present missing) nofun
    obtain ⟨operation, inOrder, compiles⟩ := exists_inOrder planned ordered changes nofun
    cases compiles with
    | createRole found => exact ⟨_, inOrder, mem_singleton_self _⟩

variable {channel : NormalizedChannel}

theorem createChannel_inOrder (mem : channel ∈ normalized.channels) (present : channelFamily.Present channel)
    (missing : channelFamily.resolve guild.channels channel = .missing) :
    .createChannel channel.identity.key channel.name channel.channelType channel.parent ∈ graph.inOrder order := by
  obtain ⟨⟨op, target, fields⟩, changes, rfl, rfl⟩ := channel_due_change clean mem (.create present missing) nofun
  obtain ⟨operation, inOrder, compiles⟩ := exists_inOrder planned ordered changes nofun
  cases compiles with
  | createChannel found =>
    obtain rfl := Except.ok.inj (found.symm.trans ((findChannel_eq_ok wellFormed _ channel).mpr ⟨mem, rfl⟩))
    exact inOrder

theorem channelMade_iff (key : ResourceKey) : (∃ operation ∈ graph.inOrder order, .channel key ∈ operation.produces) ↔
    ∃ channel ∈ normalized.channels, channelFamily.key channel = key ∧ channelFamily.Present channel ∧
      channelFamily.resolve guild.channels channel = .missing := by
  constructor
  · rintro ⟨operation, mem, made⟩
    cases inOrder_asked wellFormed clean planned ordered mem with
    | createChannel channel inChannels present missing =>
      exact ⟨channel, inChannels, (ResourceSymbol.channel.inj (mem_singleton.mp made)).symm, present, missing⟩
    | createRole => cases mem_singleton.mp made
    | updateRole | deleteRole | updateChannel | deleteChannel | createOverwrite | updateOverwrite => cases made
  · rintro ⟨channel, mem, rfl, present, missing⟩
    exact ⟨_, createChannel_inOrder wellFormed clean planned ordered mem present missing, mem_singleton_self _⟩

theorem available_iff (symbol : ResourceSymbol) : Available guild normalized symbol ↔
    (firstNames guild normalized).Has symbol ∨ ∃ operation ∈ graph.inOrder order, symbol ∈ operation.produces := by
  cases symbol with
  | role key =>
    have clear : ∀ role ∈ normalized.roles, ∀ reason, roleFamily.resolve guild.roles role ≠ .conflict reason :=
      fun role mem reason => (role_decided clean mem).ne_conflict reason
    rw [Available, ← Family.available_iff wellFormed.roleKeys clear (roleMade_iff wellFormed clean planned ordered)]
    exact or_congr (firstNames_role key).symm Iff.rfl
  | channel key =>
    have clear : ∀ channel ∈ normalized.channels, ∀ reason,
        channelFamily.resolve guild.channels channel ≠ .conflict reason :=
      fun channel mem reason => (channel_decided clean mem).ne_conflict reason
    rw [Available, ← Family.available_iff wellFormed.channelKeys clear
      (channelMade_iff wellFormed clean planned ordered)]
    exact or_congr (firstNames_channel key).symm Iff.rfl

variable {earlier later : List Operation}

/-- By the time it is looked up, a key stands for something exactly where it is available. -/
theorem found_iff (split : graph.inOrder order = earlier ++ operation :: later) (symbol : ResourceSymbol)
    (consumed : symbol ∈ operation.consumes) (other : symbol ∉ operation.produces) :
    (namesAfter guild normalized earlier.reverse).Has symbol ↔ Available guild normalized symbol := by
  rw [namesAfter_has, available_iff wellFormed clean planned ordered]
  refine or_congr Iff.rfl ⟨fun ⟨maker, mem, made⟩ => ?_, fun ⟨maker, mem, made⟩ => ?_⟩
  · exact ⟨maker, split ▸ mem_append_left _ (mem_reverse.mp mem), made⟩
  · obtain ⟨first, inEarlier, makes⟩ := produced_before planned ordered split consumed other mem made
    exact ⟨first, mem_reverse.mpr inEarlier, makes⟩

theorem target_found_iff (split : graph.inOrder order = earlier ++ operation :: later) {channel : ResourceKey}
    {target : NormalizedTarget} (consumes : operation.consumes = overwriteConsumes channel target)
    (produces : operation.produces = []) :
    ((namesAfter guild normalized earlier.reverse).target guild.guild.id target).isSome ↔
      Usable guild normalized target := by
  cases target with
  | everyone => exact iff_of_true rfl trivial
  | role key =>
    rw [Names.target, Option.isSome_map]
    refine found_iff wellFormed clean planned ordered split (.role key) ?_ ?_
    · rw [consumes]
      exact mem_cons_of_mem _ (mem_singleton_self _)
    · rw [produces]
      exact not_mem_nil
  | member id =>
    rw [Names.target, Option.isSome_map]
    rfl

theorem overwrite_channel_found (split : graph.inOrder order = earlier ++ operation :: later)
    (mem : channel ∈ normalized.channels) (present : channelFamily.Present channel) {target : NormalizedTarget}
    (consumes : operation.consumes = overwriteConsumes channel.identity.key target) (produces : operation.produces = []) :
    ((namesAfter guild normalized earlier.reverse).channel channel.identity.key).isSome := by
  refine (found_iff wellFormed clean planned ordered split (.channel _) ?_ ?_).mpr ⟨channel, mem, rfl, .inl present⟩
  · rw [consumes]
    cases target <;> exact mem_cons_self
  · rw [produces]
    exact not_mem_nil

/-- The operation that is made for an overwrite, unless the overwrite is in place. -/
theorem overwrite_made (mem : channel ∈ normalized.channels) (present : channelFamily.Present channel)
    (owned : channelFamily.Owned channel) {overwrite : NormalizedOverwrite}
    (inOverwrites : overwrite ∈ channel.overwrites) :
    Usable guild normalized overwrite.target ∨ ∃ operation ∈ graph.inOrder order,
      operation.target = .overwrite channel.identity.key overwrite.target := by
  have made {change : DiffChange} (changes : change ∈ (diff normalized (inMemoryMatchResolver guild)).changes)
      (acts : change.op ≠ .noOp) (about : change.target = .overwrite channel.identity.key overwrite.target) :
      ∃ operation ∈ graph.inOrder order, operation.target = .overwrite channel.identity.key overwrite.target := by
    obtain ⟨operation, inOrder, compiles⟩ := exists_inOrder planned ordered changes acts
    exact ⟨operation, inOrder, compiles.target.trans about⟩
  cases resolved : channelFamily.resolve guild.channels channel with
  | existing current =>
    obtain ⟨cleanOverwrite, reported⟩ := overwrites_kept clean mem present owned resolved inOverwrites
    obtain ⟨target, held, known, -⟩ | ⟨change, own, acts, about⟩ := diffOverwrite_cases cleanOverwrite
    · left
      cases wanted : overwrite.target with
      | everyone => trivial
      | role key =>
        rw [wanted] at known
        obtain ⟨role, inRoles, same, row, found, -⟩ := resolveOverwriteTarget_role wellFormed known
        exact ⟨role, inRoles, same, .inr fun missing => nomatch missing.symm.trans found⟩
      | member id =>
        rw [wanted] at known
        cases parsed : parseU64 id with
        | none => simp [resolveOverwriteTarget, parsed] at known
        | some raw => exact Option.isSome_iff_exists.mpr ⟨raw, parsed⟩
    · exact .inr (made (reported change own) acts about)
  | missing =>
    obtain ⟨change, changes, created, about⟩ := overwrite_created clean mem present resolved inOverwrites
    exact .inr (made changes (by rw [created]; exact nofun) about)
  | conflict reason => exact ((channel_decided clean mem).ne_conflict reason resolved).elim

theorem feasible_iff_executable :
    Feasible guild normalized [] (graph.inOrder order) ↔ Executable guild normalized (graph.inOrder order) := by
  rw [feasible_iff]
  simp only [append_nil]
  constructor
  · intro every
    refine ⟨fun channel mem present missing parent under => ?_, fun channel mem present owned overwrite inOverwrites => ?_,
      fun earlier operation later split => (every earlier operation later split).2⟩
    · have made := createChannel_inOrder wellFormed clean planned ordered mem present missing
      obtain ⟨earlier, later, split⟩ := append_of_mem made
      have finds := (every _ _ _ split).1
      by_cases self : parent = channel.identity.key
      · exact ⟨channel, mem, self.symm, .inl present⟩
      · refine (found_iff wellFormed clean planned ordered split (.channel parent) ?_ ?_).mp ?_
        · simp [Operation.consumes, under]
        · simpa [Operation.produces] using self
        · simpa [Names.Finds, Names.Has, Names.parent, under, Names.bindChannel, self] using finds
    · obtain usable | ⟨operation, inOrder, about⟩ :=
        overwrite_made wellFormed clean planned ordered mem present owned inOverwrites
      · exact usable
      · obtain ⟨earlier, later, split⟩ := append_of_mem inOrder
        have finds := (every _ _ _ split).1
        cases operation with
        | createOverwrite key target allow deny | updateOverwrite key target allow deny =>
          obtain ⟨rfl, rfl⟩ := DiffTarget.overwrite.inj about
          exact (target_found_iff wellFormed clean planned ordered split rfl rfl).mp finds.2
        | createRole | updateRole | deleteRole | createChannel | updateChannel | deleteChannel => cases about
  · intro executable earlier operation later split
    refine ⟨?_, executable.standing earlier operation later split⟩
    have mem : operation ∈ graph.inOrder order := split ▸ mem_append_right _ mem_cons_self
    have known {key : ResourceKey} {row : Channel} (found : channelFor guild normalized key = some (.existing row)) :
        ((namesAfter guild normalized earlier.reverse).channel key).isSome :=
      (namesAfter_has _ (.channel key)).mpr (.inl ((firstNames_channel key).mpr ⟨row, found⟩))
    have knownRole {key : ResourceKey} {row : Role} (found : roleFor guild normalized key = some (.existing row)) :
        ((namesAfter guild normalized earlier.reverse).role key).isSome :=
      (namesAfter_has _ (.role key)).mpr (.inl ((firstNames_role key).mpr ⟨row, found⟩))
    cases inOrder_asked wellFormed clean planned ordered mem with
    | createRole role inRoles present missing => trivial
    | updateRole role inRoles current found name permissions | deleteRole role inRoles current found =>
      exact knownRole ((roleFamily.rowFor_key guild.roles wellFormed.roleKeys inRoles).trans (congrArg some found))
    | createChannel channel inChannels present missing =>
      cases under : channel.parent with
      | none => rfl
      | some parent =>
        rw [under] at split
        have available := executable.parents channel inChannels present missing parent under
        by_cases self : parent = channel.identity.key
        · simp [Names.Finds, Names.parent, Names.bindChannel, self]
        · have found := (found_iff wellFormed clean planned ordered split (.channel parent) (mem_singleton_self _)
            (by simpa [Operation.produces] using self)).mpr available
          simpa [Names.Finds, Names.Has, Names.parent, Names.bindChannel, self] using found
    | updateChannel channel inChannels current found name channelType
    | deleteChannel channel inChannels current found =>
      exact known ((channelFamily.rowFor_key guild.channels wellFormed.channelKeys inChannels).trans (congrArg some found))
    | createOverwrite channel inChannels present owned overwrite inOverwrites
    | updateOverwrite channel inChannels present owned overwrite inOverwrites =>
      exact ⟨overwrite_channel_found wellFormed clean planned ordered split inChannels present rfl rfl,
        (target_found_iff wellFormed clean planned ordered split rfl rfl).mpr
          (executable.targets channel inChannels present owned overwrite inOverwrites)⟩

end

namespace Parents

def identity (key : String) : Identity :=
  { key := ⟨key⟩, matchBy := .byName, ownership := .managed, state := .present }

def channel (key : String) (parent : Option ResourceKey) : ChannelIntent :=
  { identity := identity key, name := some key, channelType := none, parent, access := none, rawOverwrites := none }

def helper : RoleIntent := { identity := identity "helper", name := some "Helper", permissions := none }

def guild : GuildState :=
  { guild := { id := ⟨1⟩, name := "guild", ownerId := ⟨2⟩ }, roles := [], channels := [], members := [] }

def desired (channels : List ChannelIntent) : DesiredState :=
  { mode := .patch, scope := none, roles := [helper], channels, features := [] }

/-- A channel under another one that is created with it. -/
def nested : DesiredState := desired [channel "hall" (some ⟨"area"⟩), channel "area" none]

def misplaced : DesiredState := desired [channel "hall" (some ⟨"helper"⟩)]

end Parents

end Starring.Planning
