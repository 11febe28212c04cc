import Starring.Planning.Plan
import Starring.Planning.World

/-! A dry run is a run through worlds: it succeeds exactly where every operation finds
what its keys stand for, and warns where the channel of an overwrite is gone. -/

namespace Starring.Planning
open Foundation Option ResourceResolutionContext

namespace ApplyContext

def world (self : ApplyContext) : World := { guild := self.after, names := self.resources.names }

variable {self next : ApplyContext} {key : ResourceKey}

theorem resolveRoleKey_world {id : RoleId} (ok : self.resolveRoleKey key = .ok (id, next)) :
    self.world.names.role key = some id ∧ ∃ resources, self.resources.Alike resources ∧ next = { self with resources } := by
  obtain ⟨⟨_, resources⟩, resolved, made⟩ := bind_eq_ok.mp ok
  obtain ⟨rfl, rfl⟩ := Prod.mk.inj (Except.ok.inj made)
  rw [mapError_eq_ok] at resolved
  obtain ⟨denoted, alike⟩ := resolveRoleKey_names resolved
  exact ⟨denoted, resources, alike, rfl⟩

theorem resolveChannelKey_world {id : ChannelId} (ok : self.resolveChannelKey key = .ok (id, next)) :
    self.world.names.channel key = some id ∧
      ∃ resources, self.resources.Alike resources ∧ next = { self with resources } := by
  obtain ⟨⟨_, resources⟩, resolved, made⟩ := bind_eq_ok.mp ok
  obtain ⟨rfl, rfl⟩ := Prod.mk.inj (Except.ok.inj made)
  rw [mapError_eq_ok] at resolved
  obtain ⟨denoted, alike⟩ := resolveChannelKey_names resolved
  exact ⟨denoted, resources, alike, rfl⟩

theorem resolveRoleKey_of_world {id : RoleId} (denoted : self.world.names.role key = some id) :
    ∃ next, self.resolveRoleKey key = .ok (id, next) := by
  obtain ⟨resources, resolved⟩ := resolveRoleKey_of_names denoted
  exact ⟨_, bind_eq_ok.mpr ⟨_, mapError_eq_ok.mpr resolved, rfl⟩⟩

theorem resolveChannelKey_of_world {id : ChannelId} (denoted : self.world.names.channel key = some id) :
    ∃ next, self.resolveChannelKey key = .ok (id, next) := by
  obtain ⟨resources, resolved⟩ := resolveChannelKey_of_names denoted
  exact ⟨_, bind_eq_ok.mpr ⟨_, mapError_eq_ok.mpr resolved, rfl⟩⟩

end ApplyContext

/-- The operation takes the context to the next one, and its world along. -/
structure Moves (operation : Operation) (context next : ApplyContext) : Prop where
  world : context.world.step context.nextId operation = some next.world
  home : next.resources.guildId = next.after.guild.id
  nextId : next.nextId = if operation.creates then context.nextId + 1 else context.nextId
  warnings : next.warnings = [] ↔ context.warnings = [] ∧ context.world.sees operation

section
variable {context next : ApplyContext} {key : ResourceKey} {operation : Operation}
  (home : context.resources.guildId = context.after.guild.id)
include home

theorem moves_createChannel {name : Option String} {channelType : Option ChannelType} {parent : Option ResourceKey}
    (ok : context.createChannel key name channelType parent = .ok next) :
    Moves (.createChannel key name channelType parent) context next := by
  obtain ⟨⟨parentId, middle⟩, resolved, made⟩ := bind_eq_ok.mp ok
  obtain rfl := Except.ok.inj made
  have bound : (context.bindNewChannel key).world.names =
      context.world.names.bindChannel key ⟨context.nextId⟩ := bindChannel_names _ _ _
  cases parent with
  | none =>
    obtain ⟨rfl, rfl⟩ := Prod.mk.inj (Except.ok.inj resolved)
    refine ⟨?_, home, rfl, (and_iff_left trivial).symm⟩
    simp only [World.step, Names.parent, bind_eq_bind, bind_some, ← bound]
    rfl
  | some parent =>
    obtain ⟨⟨id, found⟩, parentFound, parentMade⟩ := bind_eq_ok.mp resolved
    obtain ⟨rfl, rfl⟩ := Prod.mk.inj (Except.ok.inj parentMade)
    obtain ⟨denoted, resources, alike, rfl⟩ := ApplyContext.resolveChannelKey_world parentFound
    refine ⟨?_, alike.2.trans home, rfl, (and_iff_left trivial).symm⟩
    have names : resources.names = context.world.names.bindChannel key ⟨context.nextId⟩ := alike.1.trans bound
    rw [bound, ← names] at denoted
    simp only [World.step, ← names, Names.parent, denoted, map_some, bind_eq_bind, bind_some]
    rfl

theorem moves_putOverwrite {target : NormalizedTarget} {allow deny : Permissions}
    (isStep : ∀ id, context.world.step id operation = context.world.putOverwrite key target allow deny)
    (isSight : context.world.sees operation ↔ ∃ held ∈ context.after.channels,
      context.world.names.channel key = some held.id)
    (keeps : operation.creates = false) (ok : context.putOverwrite key target allow deny = .ok next) :
    Moves operation context next := by
  obtain ⟨⟨id, middle⟩, resolved, rest⟩ := bind_eq_ok.mp ok
  obtain ⟨denoted, resources, alike, rfl⟩ := ApplyContext.resolveChannelKey_world resolved
  obtain ⟨⟨_, last⟩, targeted, made⟩ := bind_eq_ok.mp rest
  obtain ⟨⟨wanted, found⟩, targetFound, targetMade⟩ := bind_eq_ok.mp targeted
  obtain ⟨rfl, rfl⟩ := Prod.mk.inj (Except.ok.inj targetMade)
  rw [mapError_eq_ok] at targetFound
  obtain ⟨targetDenoted, alikeNext⟩ := resolveTarget_names targetFound
  have names : found.names = context.world.names := alikeNext.1.trans alike.1
  have guildId : found.guildId = context.after.guild.id := (alikeNext.2.trans alike.2).trans home
  have meant : context.world.names.target context.after.guild.id target = some wanted := by
    rw [alike.1, alike.2, home] at targetDenoted
    exact targetDenoted
  have moved : context.world.putOverwrite key target allow deny = some (context.world.mapChannels
      (modifyFirst (fun held => held.id = id) (changeOverwrite wanted allow deny))) := by
    have here : context.world.names.target context.world.guild.guild.id target = some wanted := meant
    simp only [World.putOverwrite, denoted, here, bind_eq_bind, bind_some, pure_def]
  simp only at made
  split at made
  · next present =>
    obtain rfl := Except.ok.inj made
    obtain ⟨held, inChannels, same⟩ := List.any_eq_true.mp present
    refine ⟨?_, guildId, by rw [keeps]; rfl, ?_⟩
    · rw [isStep, moved]
      exact congrArg some (congrArg (World.mk _) names.symm)
    · refine (and_iff_left (isSight.mpr ⟨held, inChannels, ?_⟩)).symm
      rw [denoted, of_decide_eq_true same]
  · next absent =>
    obtain rfl := Except.ok.inj made
    have gone : ∀ held ∈ context.after.channels, held.id ≠ id := by simpa using absent
    refine ⟨?_, guildId, by rw [keeps]; rfl, ?_⟩
    · rw [isStep, moved]
      have same : modifyFirst (fun held => held.id = id) (changeOverwrite wanted allow deny) context.after.channels =
          context.after.channels := by
        exact modifyFirst_of_none (fun held mem => decide_eq_false (gone held mem)) _
      have unmoved : context.world.mapChannels
          (modifyFirst (fun held => held.id = id) (changeOverwrite wanted allow deny)) = context.world :=
        congrArg (fun channels => World.mk { context.after with channels } _) same
      rw [unmoved]
      exact congrArg some (congrArg (World.mk _) names.symm)
    · refine iff_of_false (by simp) fun sees => ?_
      obtain ⟨held, inChannels, same⟩ := isSight.mp sees.2
      exact gone held inChannels (Option.some.inj (same.symm.trans denoted))

theorem applyOperation_moves (ok : context.applyOperation operation = .ok next) : Moves operation context next := by
  cases operation with
  | createRole key name permissions =>
    obtain rfl := Except.ok.inj ok
    refine ⟨?_, home, rfl, (and_iff_left trivial).symm⟩
    exact congrArg some (congrArg (World.mk _) (bindRole_names _ _ _).symm)
  | updateRole key name permissions | deleteRole key =>
    obtain ⟨⟨id, middle⟩, resolved, made⟩ := bind_eq_ok.mp ok
    obtain rfl := Except.ok.inj made
    obtain ⟨denoted, resources, alike, rfl⟩ := ApplyContext.resolveRoleKey_world resolved
    refine ⟨?_, alike.2.trans home, rfl, (and_iff_left trivial).symm⟩
    simp only [World.step, denoted, bind_eq_bind, bind_some, pure_def]
    exact congrArg some (congrArg (World.mk _) alike.1.symm)
  | createChannel key name channelType parent => exact moves_createChannel home ok
  | updateChannel key name channelType | deleteChannel key =>
    obtain ⟨⟨id, middle⟩, resolved, made⟩ := bind_eq_ok.mp ok
    obtain rfl := Except.ok.inj made
    obtain ⟨denoted, resources, alike, rfl⟩ := ApplyContext.resolveChannelKey_world resolved
    refine ⟨?_, alike.2.trans home, rfl, (and_iff_left trivial).symm⟩
    simp only [World.step, denoted, bind_eq_bind, bind_some, pure_def]
    exact congrArg some (congrArg (World.mk _) alike.1.symm)
  | createOverwrite channel target allow deny | updateOverwrite channel target allow deny =>
    exact moves_putOverwrite home (fun _ => rfl) Iff.rfl rfl ok

theorem putOverwrite_of_world {target : NormalizedTarget} {allow deny : Permissions} {last : World}
    (moved : context.world.putOverwrite key target allow deny = some last) :
    ∃ next, context.putOverwrite key target allow deny = .ok next := by
  obtain ⟨id, denoted, rest⟩ := bind_eq_some_iff.mp moved
  obtain ⟨wanted, meant, -⟩ := bind_eq_some_iff.mp rest
  obtain ⟨middle, resolved⟩ := ApplyContext.resolveChannelKey_of_world denoted
  obtain ⟨-, resources, alike, rfl⟩ := ApplyContext.resolveChannelKey_world resolved
  have here : resources.names.target resources.guildId target = some wanted := by
    rw [alike.1, alike.2, home]
    exact meant
  obtain ⟨found, targeted⟩ := resolveTarget_of_names here
  have both : ApplyContext.resolveTarget { context with resources } target =
      .ok (wanted, { context with resources := found }) :=
    bind_eq_ok.mpr ⟨_, mapError_eq_ok.mpr targeted, rfl⟩
  simp only [ApplyContext.putOverwrite, resolved, both, bind, Except.bind]
  split
  · exact ⟨_, rfl⟩
  · exact ⟨_, rfl⟩

/-- An operation that can be carried out in the world can be carried out in the context. -/
theorem applyOperation_of_world {last : World} (moved : context.world.step context.nextId operation = some last) :
    ∃ next, context.applyOperation operation = .ok next := by
  cases operation with
  | createRole key name permissions => exact ⟨_, rfl⟩
  | updateRole key name permissions | deleteRole key =>
    obtain ⟨id, denoted, -⟩ := bind_eq_some_iff.mp moved
    obtain ⟨middle, resolved⟩ := ApplyContext.resolveRoleKey_of_world denoted
    exact ⟨_, bind_eq_ok.mpr ⟨_, resolved, rfl⟩⟩
  | createChannel key name channelType parent =>
    obtain ⟨parentId, denoted, -⟩ := bind_eq_some_iff.mp moved
    have bound : (context.bindNewChannel key).world.names =
        context.world.names.bindChannel key ⟨context.nextId⟩ := bindChannel_names _ _ _
    rw [← bound] at denoted
    cases parent with
    | none => exact ⟨_, bind_eq_ok.mpr ⟨_, rfl, rfl⟩⟩
    | some parent =>
      obtain ⟨id, here, -⟩ := map_eq_some_iff.mp denoted
      obtain ⟨middle, resolved⟩ := ApplyContext.resolveChannelKey_of_world here
      exact ⟨_, bind_eq_ok.mpr ⟨_, bind_eq_ok.mpr ⟨_, resolved, rfl⟩, rfl⟩⟩
  | updateChannel key name channelType | deleteChannel key =>
    obtain ⟨id, denoted, -⟩ := bind_eq_some_iff.mp moved
    obtain ⟨middle, resolved⟩ := ApplyContext.resolveChannelKey_of_world denoted
    exact ⟨_, bind_eq_ok.mpr ⟨_, resolved, rfl⟩⟩
  | createOverwrite channel target allow deny | updateOverwrite channel target allow deny =>
    exact putOverwrite_of_world home moved

end

end Starring.Planning
