import Starring.Planning.Bindings

/-! What operations do, apart from how keys are looked up. A world is a guild with the
ids that the keys stand for; an operation takes a world to the next one, given the id
for what it creates. A dry run goes through worlds. -/

namespace Starring.Planning
open Foundation Option

structure Names where
  role : ResourceKey → Option RoleId
  channel : ResourceKey → Option ChannelId

namespace Names
variable (self : Names)

def bindRole (key : ResourceKey) (id : RoleId) : Names :=
  { self with role := Function.update self.role key (some id) }

def bindChannel (key : ResourceKey) (id : ChannelId) : Names :=
  { self with channel := Function.update self.channel key (some id) }

def target (guildId : GuildId) : NormalizedTarget → Option OverwriteTarget
  | .everyone => some (.role ⟨guildId.value⟩)
  | .role key => (self.role key).map .role
  | .member id => (parseU64 id).map fun raw => .member ⟨raw⟩

def parent : Option ResourceKey → Option (Option ChannelId)
  | none => some none
  | some key => (self.channel key).map some

/-- The names once the operation has been carried out. -/
def after (id : UInt64) : Operation → Names
  | .createRole key _ _ => self.bindRole key ⟨id⟩
  | .createChannel key _ _ _ => self.bindChannel key ⟨id⟩
  | .updateRole _ _ _ | .deleteRole _ | .updateChannel _ _ _ | .deleteChannel _ | .createOverwrite _ _ _ _
  | .updateOverwrite _ _ _ _ => self

/-- Every key that the operation looks up stands for something. -/
def Finds (guildId : GuildId) (id : UInt64) : Operation → Prop
  | .createRole _ _ _ => True
  | .updateRole key _ _ | .deleteRole key => (self.role key).isSome
  | .createChannel key _ _ parent => ((self.bindChannel key ⟨id⟩).parent parent).isSome
  | .updateChannel key _ _ | .deleteChannel key => (self.channel key).isSome
  | .createOverwrite channel target _ _ | .updateOverwrite channel target _ _ =>
    (self.channel channel).isSome ∧ (self.target guildId target).isSome

end Names

structure World where
  guild : GuildState
  names : Names

def Operation.creates : Operation → Bool
  | createRole _ _ _ | createChannel _ _ _ _ => true
  | updateRole _ _ _ | deleteRole _ | updateChannel _ _ _ | deleteChannel _ | createOverwrite _ _ _ _
  | updateOverwrite _ _ _ _ => false

namespace World
variable (self : World)

def mapRoles (change : List Role → List Role) : World :=
  { self with guild := { self.guild with roles := change self.guild.roles } }

def mapChannels (change : List Channel → List Channel) : World :=
  { self with guild := { self.guild with channels := change self.guild.channels } }

def putOverwrite (channel : ResourceKey) (target : NormalizedTarget) (allow deny : Permissions) : Option World := do
  let id ← self.names.channel channel
  let target ← self.names.target self.guild.guild.id target
  return self.mapChannels (modifyFirst (fun held => held.id = id) (changeOverwrite target allow deny))

/-- One operation. What it creates gets the id; a new channel can be its own parent. -/
def step (id : UInt64) : Operation → Option World
  | .createRole key name permissions =>
    some { self.mapRoles (· ++ [newRole ⟨id⟩ name permissions]) with names := self.names.bindRole key ⟨id⟩ }
  | .updateRole key name permissions => do
    let found ← self.names.role key
    return self.mapRoles (modifyFirst (fun role => role.id = found) (changeRole name permissions))
  | .deleteRole key => do
    let found ← self.names.role key
    return self.mapRoles (List.filter fun role => role.id ≠ found)
  | .createChannel key name channelType parent => do
    let names := self.names.bindChannel key ⟨id⟩
    let parentId ← names.parent parent
    return { self.mapChannels (· ++ [newChannel ⟨id⟩ name channelType parentId]) with names }
  | .updateChannel key name channelType => do
    let found ← self.names.channel key
    return self.mapChannels (modifyFirst (fun channel => channel.id = found) (changeChannel name channelType))
  | .deleteChannel key => do
    let found ← self.names.channel key
    return self.mapChannels (List.filter fun channel => channel.id ≠ found)
  | .createOverwrite channel target allow deny | .updateOverwrite channel target allow deny =>
    self.putOverwrite channel target allow deny

theorem putOverwrite_isSome (channel : ResourceKey) (target : NormalizedTarget) (allow deny : Permissions) :
    (self.putOverwrite channel target allow deny).isSome ↔
      (self.names.channel channel).isSome ∧ (self.names.target self.guild.guild.id target).isSome := by
  cases found : self.names.channel channel with
  | none => simp [putOverwrite, found]
  | some id => cases meant : self.names.target self.guild.guild.id target <;> simp [putOverwrite, found, meant]

theorem step_isSome (id : UInt64) (operation : Operation) :
    (self.step id operation).isSome ↔ self.names.Finds self.guild.guild.id id operation := by
  cases operation with
  | createRole key name permissions => exact iff_of_true rfl trivial
  | updateRole key name permissions | deleteRole key =>
    cases found : self.names.role key <;> simp [step, Names.Finds, found]
  | createChannel key name channelType parent =>
    cases found : (self.names.bindChannel key ⟨id⟩).parent parent <;> simp [step, Names.Finds, found]
  | updateChannel key name channelType | deleteChannel key =>
    cases found : self.names.channel key <;> simp [step, Names.Finds, found]
  | createOverwrite channel target allow deny | updateOverwrite channel target allow deny =>
    exact self.putOverwrite_isSome channel target allow deny

/-- What an operation leaves alone: the guild itself, and the names but for what it creates. -/
theorem step_names {id : UInt64} {operation : Operation} {next : World} (moved : self.step id operation = some next) :
    next.names = self.names.after id operation ∧ next.guild.guild = self.guild.guild := by
  cases operation with
  | createRole key name permissions =>
    obtain rfl := Option.some.inj moved
    exact ⟨rfl, rfl⟩
  | updateRole key name permissions | deleteRole key | updateChannel key name channelType | deleteChannel key =>
    obtain ⟨found, -, made⟩ := bind_eq_some_iff.mp moved
    obtain rfl := Option.some.inj made
    exact ⟨rfl, rfl⟩
  | createChannel key name channelType parent =>
    obtain ⟨parentId, -, made⟩ := bind_eq_some_iff.mp moved
    obtain rfl := Option.some.inj made
    exact ⟨rfl, rfl⟩
  | createOverwrite channel target allow deny | updateOverwrite channel target allow deny =>
    obtain ⟨found, -, rest⟩ := bind_eq_some_iff.mp moved
    obtain ⟨meant, -, made⟩ := bind_eq_some_iff.mp rest
    obtain rfl := Option.some.inj made
    exact ⟨rfl, rfl⟩

/-- The channel of an overwrite is in the guild. -/
def sees : Operation → Prop
  | .createOverwrite channel _ _ _ | .updateOverwrite channel _ _ _ =>
    ∃ held ∈ self.guild.channels, self.names.channel channel = some held.id
  | .createRole _ _ _ | .updateRole _ _ _ | .deleteRole _ | .createChannel _ _ _ _ | .updateChannel _ _ _
  | .deleteChannel _ => True

end World

section
variable {ρ ι : Type} (idOf : ρ → ι)

def existingId : Option (ResolveResult ρ) → Option ι
  | some (.existing row) => some (idOf row)
  | some .missing | some (.conflict _) | none => none

theorem existingId_eq_some (resolved : Option (ResolveResult ρ)) (id : ι) :
    existingId idOf resolved = some id ↔ ∃ row, resolved = some (.existing row) ∧ idOf row = id := by
  match resolved with
  | some (.existing row) => simp [existingId]
  | some .missing | some (.conflict reason) | none => simp [existingId]

/-- The id a key stands for: the one it is bound to, or the one of the row it resolves to. -/
def keyId (rowFor : ResourceKey → Option (ResolveResult ρ)) (bindings : KeyMap ι) (key : ResourceKey) : Option ι :=
  bindings[key]?.or (existingId idOf (rowFor key))

variable {idOf : ρ → ι} {rowFor : ResourceKey → Option (ResolveResult ρ)} {bindings after : KeyMap ι} {key : ResourceKey}
  {id : ι}

/-- Resolving finds what the key stands for, and changes the meaning of no key. -/
theorem resolveKey_keyId (ok : resolveKey bindings key (rowFor key) idOf = .ok (id, after)) :
    keyId idOf rowFor bindings key = some id ∧ keyId idOf rowFor after = keyId idOf rowFor bindings := by
  obtain ⟨bound, rfl | ⟨unbound, rfl, row, existing, rfl⟩⟩ := resolveKey_ok ok
  · exact ⟨by rw [keyId, bound, some_or], rfl⟩
  · have found : keyId idOf rowFor bindings key = some (idOf row) := by
      rw [keyId, unbound, existing]
      rfl
    refine ⟨found, ?_⟩
    funext other
    rw [keyId, KeyMap.getElem?_insert]
    by_cases same : key = other
    · rw [if_pos same, ← same, found]
      rfl
    · rw [if_neg same]
      rfl

theorem resolveKey_of_keyId (found : keyId idOf rowFor bindings key = some id) :
    ∃ after, resolveKey bindings key (rowFor key) idOf = .ok (id, after) := by
  unfold resolveKey
  cases bound : bindings[key]? with
  | some held =>
    rw [keyId, bound, some_or] at found
    obtain rfl := Option.some.inj found
    exact ⟨bindings, rfl⟩
  | none =>
    rw [keyId, bound, none_or] at found
    match resolved : rowFor key with
    | some (.existing row) =>
      rw [resolved] at found
      obtain rfl := Option.some.inj found
      exact ⟨_, rfl⟩
    | some .missing | some (.conflict reason) | none =>
      rw [resolved] at found
      cases found

theorem keyId_insert : keyId idOf rowFor (bindings.insert key id) =
    Function.update (keyId idOf rowFor bindings) key (some id) := by
  funext other
  rw [keyId, KeyMap.getElem?_insert]
  by_cases same : key = other
  · rw [if_pos same, ← same, Function.update_self, some_or]
  · rw [if_neg same, Function.update_of_ne (Ne.symm same), keyId]

end

namespace ResourceResolutionContext
variable (self : ResourceResolutionContext)

def names : Names where
  role := keyId Role.id self.resolvedRole self.bindings.roleBindings
  channel := keyId Channel.id self.resolvedChannel self.bindings.channelBindings

/-- The same meaning of keys, for the same guild. -/
def Alike (other : ResourceResolutionContext) : Prop := other.names = self.names ∧ other.guildId = self.guildId

@[simp] theorem bindRole_names (key : ResourceKey) (id : RoleId) :
    (self.bindRole key id).names = self.names.bindRole key id := by
  simp only [names, bindRole, Names.bindRole, ← keyId_insert]
  rfl

@[simp] theorem bindChannel_names (key : ResourceKey) (id : ChannelId) :
    (self.bindChannel key id).names = self.names.bindChannel key id := by
  simp only [names, bindChannel, Names.bindChannel, ← keyId_insert]
  rfl

variable {self} {next : ResourceResolutionContext} {key : ResourceKey}

theorem resolveRoleKey_names {id : RoleId} (ok : self.resolveRoleKey key = .ok (id, next)) :
    self.names.role key = some id ∧ self.Alike next := by
  obtain ⟨⟨_, bindings⟩, found, made⟩ := bind_eq_ok.mp ok
  obtain ⟨rfl, rfl⟩ := Prod.mk.inj (Except.ok.inj made)
  obtain ⟨denoted, same⟩ := resolveKey_keyId found
  refine ⟨denoted, ?_, rfl⟩
  exact congrArg (fun role => { self.names with role }) same

theorem resolveChannelKey_names {id : ChannelId} (ok : self.resolveChannelKey key = .ok (id, next)) :
    self.names.channel key = some id ∧ self.Alike next := by
  obtain ⟨⟨_, bindings⟩, found, made⟩ := bind_eq_ok.mp ok
  obtain ⟨rfl, rfl⟩ := Prod.mk.inj (Except.ok.inj made)
  obtain ⟨denoted, same⟩ := resolveKey_keyId found
  refine ⟨denoted, ?_, rfl⟩
  exact congrArg (fun channel => { self.names with channel }) same

theorem resolveRoleKey_of_names {id : RoleId} (denoted : self.names.role key = some id) :
    ∃ next, self.resolveRoleKey key = .ok (id, next) := by
  obtain ⟨bindings, found⟩ := resolveKey_of_keyId denoted
  exact ⟨_, bind_eq_ok.mpr ⟨_, found, rfl⟩⟩

theorem resolveChannelKey_of_names {id : ChannelId} (denoted : self.names.channel key = some id) :
    ∃ next, self.resolveChannelKey key = .ok (id, next) := by
  obtain ⟨bindings, found⟩ := resolveKey_of_keyId denoted
  exact ⟨_, bind_eq_ok.mpr ⟨_, found, rfl⟩⟩

theorem resolveTarget_names {target : NormalizedTarget} {denoted : OverwriteTarget}
    (ok : self.resolveTarget target = .ok (denoted, next)) :
    self.names.target self.guildId target = some denoted ∧ self.Alike next := by
  cases target with
  | everyone =>
    obtain ⟨rfl, rfl⟩ := Prod.mk.inj (Except.ok.inj ok)
    exact ⟨rfl, rfl, rfl⟩
  | role key =>
    obtain ⟨⟨id, _⟩, resolved, made⟩ := bind_eq_ok.mp ok
    obtain ⟨rfl, rfl⟩ := Prod.mk.inj (Except.ok.inj made)
    obtain ⟨found, alike⟩ := resolveRoleKey_names resolved
    exact ⟨congrArg (Option.map _) found, alike⟩
  | member id =>
    rw [resolveTarget, orReject_bind_eq_ok] at ok
    obtain ⟨raw, parsed, made⟩ := ok
    obtain ⟨rfl, rfl⟩ := Prod.mk.inj (Except.ok.inj made)
    exact ⟨congrArg (Option.map _) parsed, rfl, rfl⟩

theorem resolveTarget_of_names {target : NormalizedTarget} {denoted : OverwriteTarget}
    (found : self.names.target self.guildId target = some denoted) :
    ∃ next, self.resolveTarget target = .ok (denoted, next) := by
  cases target with
  | everyone =>
    obtain rfl := Option.some.inj found
    exact ⟨self, rfl⟩
  | role key =>
    obtain ⟨id, here, rfl⟩ := map_eq_some_iff.mp found
    obtain ⟨next, resolved⟩ := resolveRoleKey_of_names here
    exact ⟨next, bind_eq_ok.mpr ⟨_, resolved, rfl⟩⟩
  | member id =>
    obtain ⟨raw, parsed, rfl⟩ := map_eq_some_iff.mp found
    exact ⟨self, orReject_bind_eq_ok.mpr ⟨raw, parsed, rfl⟩⟩

end ResourceResolutionContext

end Starring.Planning
