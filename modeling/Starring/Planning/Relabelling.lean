import Starring.Domain.Renaming
import Starring.Foundation.Renaming
import Starring.Planning.Executability

/-! Runs through worlds do not depend on which ids are given out: with other ids the
same operations lead to the same world, renamed. Both supplies of ids have to be fresh
for this, that is, without repetition and new to the guild. -/

namespace Starring.Planning
open Foundation List

namespace Names
variable (relabel : Renaming) (self : Names)

def rename : Names where
  role key := (self.role key).map relabel.role
  channel key := (self.channel key).map relabel.channel

theorem rename_bindRole (key : ResourceKey) (id : RoleId) :
    (self.bindRole key id).rename relabel = (self.rename relabel).bindRole key (relabel.role id) := by
  have role : (fun other => (Function.update self.role key (some id) other).map relabel.role) =
      Function.update (fun other => (self.role other).map relabel.role) key (some (relabel.role id)) := by
    funext other
    by_cases same : other = key <;> simp [same]
  exact congrArg (fun role => { self.rename relabel with role }) role

theorem rename_bindChannel (key : ResourceKey) (id : ChannelId) :
    (self.bindChannel key id).rename relabel = (self.rename relabel).bindChannel key (relabel.channel id) := by
  have channel : (fun other => (Function.update self.channel key (some id) other).map relabel.channel) =
      Function.update (fun other => (self.channel other).map relabel.channel) key (some (relabel.channel id)) := by
    funext other
    by_cases same : other = key <;> simp [same]
  exact congrArg (fun channel => { self.rename relabel with channel }) channel

theorem rename_parent (parent : Option ResourceKey) :
    (self.rename relabel).parent parent = (self.parent parent).map (Option.map relabel.channel) := by
  cases parent with
  | none => rfl
  | some key =>
    simp only [Names.parent, rename, Option.map_map]
    rfl

variable {relabel}

theorem rename_target {guildId : GuildId} (everyone : relabel.role ⟨guildId.value⟩ = ⟨guildId.value⟩)
    (target : NormalizedTarget) :
    (self.rename relabel).target guildId target = (self.target guildId target).map (OverwriteTarget.rename relabel) := by
  cases target with
  | everyone => simp [Names.target, OverwriteTarget.rename, everyone]
  | role key =>
    simp only [Names.target, rename, Option.map_map]
    rfl
  | member id =>
    simp only [Names.target, Option.map_map]
    rfl

end Names

theorem changeOverwrite_rename (relabel : Renaming) (target : OverwriteTarget) (allow deny : Permissions)
    (channel : Channel) : changeOverwrite (target.rename relabel) allow deny (channel.rename relabel) =
      (changeOverwrite target allow deny channel).rename relabel := by
  have others : (fun overwrite : PermissionOverwrite => decide (overwrite.target ≠ target.rename relabel)) ∘
      PermissionOverwrite.rename relabel = fun overwrite => decide (overwrite.target ≠ target) := by
    funext overwrite
    exact decide_eq_decide.mpr (not_congr (OverwriteTarget.rename_injective relabel).eq_iff)
  simp only [changeOverwrite, Channel.rename, filter_map, others, map_append]
  rfl

/-- What the operation creates is renamed from one id to the other. -/
def Operation.Sends (relabel : Renaming) (id image : UInt64) : Operation → Prop
  | createRole _ _ _ => relabel.role ⟨id⟩ = ⟨image⟩
  | createChannel _ _ _ _ => relabel.channel ⟨id⟩ = ⟨image⟩
  | updateRole _ _ _ | deleteRole _ | updateChannel _ _ _ | deleteChannel _ | createOverwrite _ _ _ _
  | updateOverwrite _ _ _ _ => True

namespace World
variable (relabel : Renaming) (self : World)

def rename : World where
  guild := self.guild.rename relabel
  names := self.names.rename relabel

theorem rename_mapRoles {change renamed : List Role → List Role}
    (commutes : ∀ rows, renamed (rows.map (Role.rename relabel)) = (change rows).map (Role.rename relabel)) :
    (self.rename relabel).mapRoles renamed = (self.mapRoles change).rename relabel := by
  simp only [mapRoles, rename, GuildState.rename, commutes]

theorem rename_mapChannels {change renamed : List Channel → List Channel}
    (commutes : ∀ rows, renamed (rows.map (Channel.rename relabel)) = (change rows).map (Channel.rename relabel)) :
    (self.rename relabel).mapChannels renamed = (self.mapChannels change).rename relabel := by
  simp only [mapChannels, rename, GuildState.rename, commutes]

variable {relabel}

theorem modifyFirst_role (update : Role → Role)
    (commutes : ∀ role, update (role.rename relabel) = (update role).rename relabel) (found : RoleId) (rows : List Role) :
    modifyFirst (fun role => role.id = relabel.role found) update (rows.map (Role.rename relabel)) =
      (modifyFirst (fun role => role.id = found) update rows).map (Role.rename relabel) := by
  refine modifyFirst_map (fun role => ?_) commutes rows
  exact decide_eq_decide.mpr relabel.role.apply_eq_iff_eq

theorem modifyFirst_channel (update : Channel → Channel) {renamed : Channel → Channel}
    (commutes : ∀ channel, renamed (channel.rename relabel) = (update channel).rename relabel) (found : ChannelId)
    (rows : List Channel) :
    modifyFirst (fun channel => channel.id = relabel.channel found) renamed (rows.map (Channel.rename relabel)) =
      (modifyFirst (fun channel => channel.id = found) update rows).map (Channel.rename relabel) := by
  refine modifyFirst_map (fun channel => ?_) commutes rows
  exact decide_eq_decide.mpr relabel.channel.apply_eq_iff_eq

variable {self} (everyone : relabel.role ⟨self.guild.guild.id.value⟩ = ⟨self.guild.guild.id.value⟩)
include everyone

theorem putOverwrite_rename (channel : ResourceKey) (target : NormalizedTarget) (allow deny : Permissions) :
    (self.rename relabel).putOverwrite channel target allow deny =
      (self.putOverwrite channel target allow deny).map (rename relabel) := by
  have targets := self.names.rename_target everyone target
  cases found : self.names.channel channel with
  | none => simp [putOverwrite, rename, Names.rename, found]
  | some id =>
    have renamed : (self.rename relabel).names.channel channel = some (relabel.channel id) :=
      congrArg (Option.map relabel.channel) found
    cases meant : self.names.target self.guild.guild.id target with
    | none =>
      have missing : (self.rename relabel).names.target (self.rename relabel).guild.guild.id target = none := by
        exact targets.trans (congrArg (Option.map _) meant)
      simp only [putOverwrite, renamed, missing, found, meant, Option.bind_eq_bind, Option.bind_some, Option.bind_none,
        Option.map_none]
    | some wanted =>
      have image : (self.rename relabel).names.target (self.rename relabel).guild.guild.id target =
          some (wanted.rename relabel) := targets.trans (congrArg (Option.map _) meant)
      simp only [putOverwrite, renamed, image, found, meant, Option.bind_eq_bind, Option.bind_some, Option.pure_def,
        Option.map_some]
      exact congrArg some (rename_mapChannels relabel self
        (modifyFirst_channel _ (changeOverwrite_rename relabel wanted allow deny) id))

theorem step_rename {id image : UInt64} {operation : Operation} (sends : operation.Sends relabel id image) :
    (self.rename relabel).step image operation = (self.step id operation).map (rename relabel) := by
  cases operation with
  | createRole key name permissions =>
    have sent : relabel.role ⟨id⟩ = ⟨image⟩ := sends
    simp only [step, mapRoles, rename, GuildState.rename, map_append, Option.map_some, Names.rename_bindRole, sent]
    simp only [map_cons, map_nil, newRole, Role.rename, sent]
  | updateRole key name permissions =>
    cases found : self.names.role key with
    | none => simp [step, rename, Names.rename, found]
    | some id =>
      simp only [step, rename, Names.rename, found, Option.map_some, Option.bind_eq_bind, Option.bind_some,
        Option.pure_def]
      exact congrArg some (rename_mapRoles relabel self (modifyFirst_role (changeRole name permissions) (fun _ => rfl) id))
  | deleteRole key =>
    cases found : self.names.role key with
    | none => simp [step, rename, Names.rename, found]
    | some id =>
      simp only [step, rename, Names.rename, found, Option.map_some, Option.bind_eq_bind, Option.bind_some,
        Option.pure_def]
      refine congrArg some (rename_mapRoles relabel self fun rows => ?_)
      rw [filter_map]
      refine congrArg (List.map _) (filter_congr fun role _ => ?_)
      exact decide_eq_decide.mpr (not_congr relabel.role.apply_eq_iff_eq)
  | createChannel key name channelType parent =>
    have sent : relabel.channel ⟨id⟩ = ⟨image⟩ := sends
    have names : (self.rename relabel).names.bindChannel key ⟨image⟩ =
        (self.names.bindChannel key ⟨id⟩).rename relabel := by
      rw [Names.rename_bindChannel, sent]
      rfl
    cases found : (self.names.bindChannel key ⟨id⟩).parent parent with
    | none => simp [step, names, Names.rename_parent, found]
    | some parentId =>
      simp only [step, names, Names.rename_parent, found, Option.map_some, Option.bind_eq_bind, Option.bind_some,
        Option.pure_def]
      simp only [mapChannels, rename, GuildState.rename, map_append, map_cons, map_nil, newChannel,
        Channel.rename, sent]
  | updateChannel key name channelType =>
    cases found : self.names.channel key with
    | none => simp [step, rename, Names.rename, found]
    | some id =>
      simp only [step, rename, Names.rename, found, Option.map_some, Option.bind_eq_bind, Option.bind_some,
        Option.pure_def]
      exact congrArg some (rename_mapChannels relabel self (modifyFirst_channel (changeChannel name channelType) (fun _ => rfl) id))
  | deleteChannel key =>
    cases found : self.names.channel key with
    | none => simp [step, rename, Names.rename, found]
    | some id =>
      simp only [step, rename, Names.rename, found, Option.map_some, Option.bind_eq_bind, Option.bind_some,
        Option.pure_def]
      refine congrArg some (rename_mapChannels relabel self fun rows => ?_)
      rw [filter_map]
      refine congrArg (List.map _) (filter_congr fun channel _ => ?_)
      exact decide_eq_decide.mpr (not_congr relabel.channel.apply_eq_iff_eq)
  | createOverwrite channel target allow deny | updateOverwrite channel target allow deny =>
    exact putOverwrite_rename everyone channel target allow deny

end World

/-- The operations one after another. The ids are given out in order. -/
def World.run (ids : Nat → UInt64) : Nat → List Operation → World → Option World
  | _, [], world => some world
  | made, operation :: rest, world => do
    let next ← world.step (ids made) operation
    next.run ids (made + operation.creates.toNat) rest

namespace Operation

def makesRole : Operation → Bool
  | createRole _ _ _ => true
  | updateRole _ _ _ | deleteRole _ | createChannel _ _ _ _ | updateChannel _ _ _ | deleteChannel _
  | createOverwrite _ _ _ _ | updateOverwrite _ _ _ _ => false

def makesChannel : Operation → Bool
  | createChannel _ _ _ _ => true
  | createRole _ _ _ | updateRole _ _ _ | deleteRole _ | updateChannel _ _ _ | deleteChannel _
  | createOverwrite _ _ _ _ | updateOverwrite _ _ _ _ => false

end Operation

/-- What is given out to the operations of a kind. -/
def given {α : Type} (kind : Operation → Bool) (ids : Nat → α) : Nat → List Operation → List α
  | _, [] => []
  | made, operation :: rest =>
    if kind operation then ids made :: given kind ids (made + operation.creates.toNat) rest
    else given kind ids (made + operation.creates.toNat) rest

theorem given_map {α β : Type} (kind : Operation → Bool) (ids : Nat → α) (view : α → β) (made : Nat)
    (operations : List Operation) :
    (given kind ids made operations).map view = given kind (fun index => view (ids index)) made operations := by
  induction operations generalizing made with
  | nil => rfl
  | cons operation rest ih =>
    by_cases here : kind operation <;> simp [given, here, ih]

/-- The ids that are given out are distinct, and new to the guild. -/
structure Fresh (guild : GuildState) (ids : Nat → UInt64) (operations : List Operation) : Prop where
  roles : (given Operation.makesRole ids 0 operations).Nodup
  newRoles : ∀ id ∈ given Operation.makesRole ids 0 operations, ⟨id⟩ ∉ guild.roleIds
  channels : (given Operation.makesChannel ids 0 operations).Nodup
  newChannels : ∀ id ∈ given Operation.makesChannel ids 0 operations, ⟨id⟩ ∉ guild.channelIds

-- The ids are gone through as lists: they are of a finite type, which would be gone through otherwise.
instance (guild : GuildState) (ids : Nat → UInt64) (operations : List Operation) : Decidable (Fresh guild ids operations) :=
  decidable_of_iff ((given Operation.makesRole ids 0 operations).Nodup ∧
      ((given Operation.makesRole ids 0 operations).all fun id => (⟨id⟩ : RoleId) ∉ guild.roleIds) ∧
      (given Operation.makesChannel ids 0 operations).Nodup ∧
      (given Operation.makesChannel ids 0 operations).all fun id => (⟨id⟩ : ChannelId) ∉ guild.channelIds) <| by
    simp only [all_eq_true, decide_eq_true_eq]
    exact ⟨fun ⟨roles, newRoles, channels, newChannels⟩ => ⟨roles, newRoles, channels, newChannels⟩,
      fun fresh => ⟨fresh.roles, fresh.newRoles, fresh.channels, fresh.newChannels⟩⟩

/-- What is given out on one side is renamed to what is given out on the other. -/
structure Matches (relabel : Renaming) (ids images : Nat → UInt64) (made : Nat) (operations : List Operation) : Prop where
  role : ∀ pair ∈ given Operation.makesRole (fun index => (ids index, images index)) made operations,
    relabel.role ⟨pair.1⟩ = ⟨pair.2⟩
  channel : ∀ pair ∈ given Operation.makesChannel (fun index => (ids index, images index)) made operations,
    relabel.channel ⟨pair.1⟩ = ⟨pair.2⟩

section
variable {relabel : Renaming} {ids images : Nat → UInt64} {made : Nat} {operation : Operation}
  {operations : List Operation}

theorem given_tail {α : Type} {kind : Operation → Bool} {values : Nat → α} {value : α}
    (mem : value ∈ given kind values (made + operation.creates.toNat) operations) :
    value ∈ given kind values made (operation :: operations) := by
  rw [given]
  split
  · exact mem_cons_of_mem _ mem
  · exact mem

theorem Matches.tail (sends : Matches relabel ids images made (operation :: operations)) :
    Matches relabel ids images (made + operation.creates.toNat) operations :=
  ⟨fun pair mem => sends.role pair (given_tail mem), fun pair mem => sends.channel pair (given_tail mem)⟩

theorem Matches.head (sends : Matches relabel ids images made (operation :: operations)) :
    operation.Sends relabel (ids made) (images made) := by
  cases operation with
  | createRole key name permissions => exact sends.role (ids made, images made) mem_cons_self
  | createChannel key name channelType parent => exact sends.channel (ids made, images made) mem_cons_self
  | updateRole | deleteRole | updateChannel | deleteChannel | createOverwrite | updateOverwrite => trivial

theorem World.run_rename (world : World)
    (everyone : relabel.role ⟨world.guild.guild.id.value⟩ = ⟨world.guild.guild.id.value⟩)
    (sends : Matches relabel ids images made operations) :
    (world.rename relabel).run images made operations = (world.run ids made operations).map (rename relabel) := by
  induction operations generalizing made world with
  | nil => rfl
  | cons operation rest ih =>
    rw [World.run, World.run, World.step_rename everyone sends.head]
    cases moved : world.step (ids made) operation with
    | none => rfl
    | some next =>
      have home := (world.step_names moved).2
      exact ih next (home ▸ everyone) sends.tail

end

section
variable {guild : GuildState} {ids images : Nat → UInt64} {operations : List Operation}

theorem exists_perm_given {ι : Type} [DecidableEq ι] {wrap : UInt64 → ι} (injective : Function.Injective wrap)
    {known : List ι} {kind : Operation → Bool}
    (distinct : (given kind ids 0 operations).Nodup) (new : ∀ id ∈ given kind ids 0 operations, wrap id ∉ known)
    (distinctImages : (given kind images 0 operations).Nodup)
    (newImages : ∀ id ∈ given kind images 0 operations, wrap id ∉ known) :
    ∃ perm : Equiv.Perm ι, (∀ id ∈ known, perm id = id) ∧
      ∀ pair ∈ given kind (fun index => (ids index, images index)) 0 operations, perm (wrap pair.1) = wrap pair.2 := by
  let pairs := (given kind (fun index => (ids index, images index)) 0 operations).map (Prod.map wrap wrap)
  have sources : pairs.map Prod.fst = (given kind ids 0 operations).map wrap := by
    simp only [pairs, given_map]
    rfl
  have targets : pairs.map Prod.snd = (given kind images 0 operations).map wrap := by
    simp only [pairs, given_map]
    rfl
  obtain ⟨perm, maps, fixes⟩ := exists_perm_of_pairs pairs (sources ▸ distinct.map injective)
    (targets ▸ distinctImages.map injective)
  refine ⟨perm, fun id mem => fixes id ?_ ?_, fun pair mem => maps _ (mem_map_of_mem mem)⟩
  · rw [sources]
    intro source
    obtain ⟨raw, given, rfl⟩ := mem_map.mp source
    exact new raw given mem
  · rw [targets]
    intro image
    obtain ⟨raw, given, rfl⟩ := mem_map.mp image
    exact newImages raw given mem

theorem Fresh.exists_renaming (fresh : Fresh guild ids operations) (other : Fresh guild images operations) :
    ∃ relabel : Renaming, relabel.Keeps guild ∧ Matches relabel ids images 0 operations := by
  have roleId : Function.Injective RoleId.mk := fun _ _ same => RoleId.mk.inj same
  have channelId : Function.Injective ChannelId.mk := fun _ _ same => ChannelId.mk.inj same
  obtain ⟨role, rolesKept, roles⟩ := exists_perm_given roleId fresh.roles fresh.newRoles other.roles other.newRoles
  obtain ⟨channel, channelsKept, channels⟩ :=
    exists_perm_given channelId fresh.channels fresh.newChannels other.channels other.newChannels
  exact ⟨⟨role, channel⟩, ⟨rolesKept, channelsKept⟩, roles, channels⟩

end

section
variable {guild : GuildState} {normalized : NormalizedDesiredState}

theorem firstNames_role_mem {key : ResourceKey} {id : RoleId} (found : (firstNames guild normalized).role key = some id) :
    ∃ role ∈ guild.roles, role.id = id := by
  rw [firstNames_role_eq, existingId_eq_some] at found
  obtain ⟨row, resolved, same⟩ := found
  obtain ⟨entry, -, -, matched⟩ := roleFamily.mem_of_rowFor resolved
  exact ⟨row, resolveMatch_mem matched, same⟩

theorem firstNames_channel_mem {key : ResourceKey} {id : ChannelId}
    (found : (firstNames guild normalized).channel key = some id) : ∃ channel ∈ guild.channels, channel.id = id := by
  rw [firstNames_channel_eq, existingId_eq_some] at found
  obtain ⟨row, resolved, same⟩ := found
  obtain ⟨entry, -, -, matched⟩ := channelFamily.mem_of_rowFor resolved
  exact ⟨row, resolveMatch_mem matched, same⟩

theorem firstNames_rename {relabel : Renaming} (keeps : relabel.Keeps guild) :
    (firstNames guild normalized).rename relabel = firstNames guild normalized := by
  have role : (fun key => ((firstNames guild normalized).role key).map relabel.role) =
      (firstNames guild normalized).role := by
    funext key
    cases found : (firstNames guild normalized).role key with
    | none => rfl
    | some id =>
      obtain ⟨row, mem, rfl⟩ := firstNames_role_mem found
      exact congrArg some (keeps.role_id mem)
  have channel : (fun key => ((firstNames guild normalized).channel key).map relabel.channel) =
      (firstNames guild normalized).channel := by
    funext key
    cases found : (firstNames guild normalized).channel key with
    | none => rfl
    | some id =>
      obtain ⟨row, mem, rfl⟩ := firstNames_channel_mem found
      exact congrArg some (keeps.channel_id mem)
  rw [Names.rename, role, channel]

def syntheticIds (guild : GuildState) (made : Nat) : UInt64 := maxId guild + 1 + UInt64.ofNat made

theorem syntheticIds_add (made : Nat) (creates : Bool) : syntheticIds guild (made + creates.toNat) =
    if creates then syntheticIds guild made + 1 else syntheticIds guild made := by
  cases creates with
  | false => rfl
  | true => simp [syntheticIds, UInt64.ofNat_add, UInt64.add_assoc]

theorem foldlM_runNode_world {nodes : List OperationNode} {context last : ApplyContext} {made : Nat}
    (home : context.resources.guildId = context.after.guild.id) (nextId : context.nextId = syntheticIds guild made)
    (ran : nodes.foldlM ApplyContext.runNode context = .ok last) :
    context.world.run (syntheticIds guild) made (nodes.map OperationNode.operation) = some last.world := by
  induction nodes generalizing context made with
  | nil =>
    obtain rfl := Except.ok.inj ran
    rfl
  | cons node nodes ih =>
    rw [foldlM_cons, bind_eq_ok] at ran
    obtain ⟨middle, first, rest⟩ := ran
    obtain ⟨next, applied, marked⟩ := bind_eq_ok.mp first
    obtain rfl := Except.ok.inj marked
    have moves := applyOperation_moves home applied
    have nextIdAfter : next.nextId = syntheticIds guild (made + node.operation.creates.toNat) := by
      rw [syntheticIds_add, ← nextId]
      exact moves.nextId
    rw [map_cons, World.run, ← nextId, moves.world]
    exact (fun home nextId => ih home nextId rest) moves.home nextIdAfter

end

end Starring.Planning
