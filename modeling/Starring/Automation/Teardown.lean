import Starring.Automation.Execute
import Starring.Foundation.Processes

/-! The teardown of an instance. The instance is claimed in the store, its resources are deleted
one after the other, and it is marked as deleted. Several processes may do this at the
same time, and each of them may fail or crash after any call. -/

namespace Starring.Automation
open Foundation List Relation

inductive InstanceStoreError where
  | duplicateInstance
  | notFound
  | timedOut
  | backend (message : String)
  deriving DecidableEq

inductive InstanceTeardownClaimOutcome where
  | claimed
  | alreadyDeleting
  | alreadyDeleted
  deriving DecidableEq

inductive InstanceTeardownMarkOutcome where
  | markedDeleted
  | alreadyDeleted
  deriving DecidableEq

abbrev InstanceKey := GuildId × InstanceId

abbrev InstanceTable := InstanceKey → Option AutomationInstance

namespace InstanceTable
variable (self : InstanceTable) (key : InstanceKey)

def register (registered : AutomationInstance) : Except InstanceStoreError Unit × InstanceTable :=
  match self (registered.guildId, registered.id) with
  | some _ => (.error .duplicateInstance, self)
  | none => (.ok (), Function.update self (registered.guildId, registered.id) (some registered))

def setStatus (found : AutomationInstance) (status : InstanceStatus) : InstanceTable :=
  Function.update self key (some { found with status })

def claimDeleting : Except InstanceStoreError InstanceTeardownClaimOutcome × InstanceTable :=
  match self key with
  | none => (.error .notFound, self)
  | some found => match found.status with
    | .active | .disabled => (.ok .claimed, self.setStatus key found .deleting)
    | .deleting => (.ok .alreadyDeleting, self)
    | .deleted => (.ok .alreadyDeleted, self)

def markDeleted : Except InstanceStoreError InstanceTeardownMarkOutcome × InstanceTable :=
  match self key with
  | none => (.error .notFound, self)
  | some found => match found.status with
    | .deleting => (.ok .markedDeleted, self.setStatus key found .deleted)
    | .deleted => (.ok .alreadyDeleted, self)
    | .active | .disabled => (.error .notFound, self)

end InstanceTable

inductive InstanceResource where
  | role (aliasName : String) (id : RoleId)
  | channel (aliasName : String) (id : ChannelId)
  | message (aliasName : String) (channel : ChannelId) (id : MessageId)
  deriving DecidableEq

/-- What `delete_message`, `delete_channel` and `delete_role` are called with. -/
inductive DeletionTarget where
  | message (channel : ChannelId) (id : MessageId)
  | channel (id : ChannelId)
  | role (id : RoleId)
  deriving DecidableEq

def InstanceResource.target : InstanceResource → DeletionTarget
  | .role _ id => .role id
  | .channel _ id => .channel id
  | .message _ inChannel id => .message inChannel id

namespace InstanceResources
variable (self : InstanceResources)

def messageResources : List InstanceResource :=
  self.messages.toList.map fun entry => .message entry.1 entry.2.channel entry.2.id

def channelResources : List InstanceResource := self.channels.toList.map fun entry => .channel entry.1 entry.2

def roleResources : List InstanceResource := self.roles.toList.map fun entry => .role entry.1 entry.2

/-- Messages come before channels and channels before roles. -/
def targets : List DeletionTarget :=
  (self.messageResources ++ self.channelResources ++ self.roleResources).map InstanceResource.target

end InstanceResources

inductive DeleteOutcome where
  | deleted
  | alreadyGone
  deriving DecidableEq

inductive DeleterErrorKind where
  | forbidden
  | rateLimited
  | network
  | unknown
  deriving DecidableEq

structure DeleterError where
  kind : DeleterErrorKind
  message : String
  deriving DecidableEq

inductive TeardownError where
  | lookup (error : InstanceStoreError)
  | instanceNotFound
  | manifestDrift
  | deleteFailed (resource : InstanceResource) (source : DeleterError)
  | store (error : InstanceStoreError)
  deriving DecidableEq

structure ExactInstanceRegistrationIdentity where
  rulesetKey : String
  rulesetVersion : InstanceRuleSetVersion
  kind : InstanceKind
  createdBy : UserId
  deriving DecidableEq

def ExactInstanceRegistrationIdentity.matchesInstance (self : ExactInstanceRegistrationIdentity)
    (found : AutomationInstance) : Bool :=
  self.rulesetKey = found.rulesetKey ∧ self.rulesetVersion = found.rulesetVersion ∧ self.kind = found.kind ∧
    self.createdBy = found.createdBy

structure ExactInstanceTeardownRequest where
  guildId : GuildId
  instanceId : InstanceId
  expectedResources : InstanceResources
  expectedRegistrationIdentity : Option ExactInstanceRegistrationIdentity

def InstanceResources.same (self other : InstanceResources) : Bool :=
  self.roles.toList = other.roles.toList ∧ self.channels.toList = other.channels.toList ∧
    self.messages.toList = other.messages.toList

def ExactInstanceTeardownRequest.matchesInstance (self : ExactInstanceTeardownRequest) (found : AutomationInstance) : Bool :=
  self.expectedResources.same found.resources &&
    self.expectedRegistrationIdentity.all fun expected => expected.matchesInstance found

/-- The calls of a teardown, to the store and to the deleter. -/
inductive TeardownCall where
  | getForTeardown (key : InstanceKey)
  | claimDeleting (key : InstanceKey)
  | markDeleted (key : InstanceKey)
  | delete (guildId : GuildId) (target : DeletionTarget)

abbrev TeardownCall.Reply : TeardownCall → Type
  | getForTeardown _ => Except InstanceStoreError (Option AutomationInstance)
  | claimDeleting _ => Except InstanceStoreError InstanceTeardownClaimOutcome
  | markDeleted _ => Except InstanceStoreError InstanceTeardownMarkOutcome
  | delete _ _ => Except DeleterError DeleteOutcome

abbrev TeardownRoutine := Routine TeardownCall TeardownCall.Reply Unit TeardownError

section Program
variable (key : InstanceKey) (exact : Option ExactInstanceTeardownRequest)

/-- The instance is read, and has to be the one that was meant. -/
def readInstance : TeardownRoutine AutomationInstance := do
  let reply ← Routine.perform (TeardownCall.getForTeardown key)
  let known ← Routine.ofExcept (reply.mapError .lookup)
  let found ← Routine.ofExcept (orReject known .instanceNotFound)
  Routine.ofExcept (rejectIf ((exact.any fun request => !request.matchesInstance found) = true) .manifestDrift)
  pure found

def deleteResource (resource : InstanceResource) : TeardownRoutine Unit := do
  let reply ← Routine.perform (TeardownCall.delete key.1 resource.target)
  let _ ← Routine.ofExcept (reply.mapError (.deleteFailed resource))
  pure ()

def deleteAndMark (found : AutomationInstance) (outcome : TeardownOutcome) : TeardownRoutine TeardownOutcome := do
  found.resources.messageResources.forM (deleteResource key)
  found.resources.channelResources.forM (deleteResource key)
  found.resources.roleResources.forM (deleteResource key)
  let reply ← Routine.perform (TeardownCall.markDeleted key)
  let _ ← Routine.ofExcept (reply.mapError .store)
  pure outcome

def teardownLocked : TeardownRoutine TeardownOutcome := do
  let _ ← readInstance key exact
  let reply ← Routine.perform (TeardownCall.claimDeleting key)
  let claim ← Routine.ofExcept (reply.mapError .store)
  let found ← readInstance key exact
  match claim with
  | .claimed => deleteAndMark key found .completed
  | .alreadyDeleting => deleteAndMark key found .resumedAndCompleted
  | .alreadyDeleted => pure .alreadyDeleted

end Program

/-- A call of the teardown service; `held` says whether the service is at work on the instance already. -/
inductive TeardownTask where
  | teardown (guildId : GuildId) (instanceId : InstanceId) (held : Bool)
  | teardownExact (request : ExactInstanceTeardownRequest) (held : Bool)

def TeardownTask.key : TeardownTask → InstanceKey
  | teardown guildId instanceId _ => (guildId, instanceId)
  | teardownExact request _ => (request.guildId, request.instanceId)

def TeardownTask.program : TeardownTask → Process TeardownCall TeardownCall.Reply (Except TeardownError (TeardownOutcome × Unit))
  | teardown guildId instanceId held =>
    if held then .done (.ok (.inProgress, ())) else teardownLocked (guildId, instanceId) none ()
  | teardownExact request held =>
    if held then .done (.ok (.inProgress, ()))
    else teardownLocked (request.guildId, request.instanceId) (some request) ()

inductive InstanceStatus.Moves : InstanceStatus → InstanceStatus → Prop where
  | claimActive : Moves .active .deleting
  | claimDisabled : Moves .disabled .deleting
  | mark : Moves .deleting .deleted

/-- The store, and the deletions that have been reported as done so far. -/
structure TeardownWorld where
  store : InstanceTable
  deletions : List (GuildId × DeletionTarget)

namespace TeardownWorld

/-- A call to the store may fail before or after it has taken effect. -/
def StoreAnswers {α : Type} (self : TeardownWorld) (served : Except InstanceStoreError α × InstanceTable)
    (reply : Except InstanceStoreError α) (after : TeardownWorld) : Prop :=
  reply = served.1 ∧ after = { self with store := served.2 } ∨
    (∃ error, reply = .error error) ∧ (after = self ∨ after = { self with store := served.2 })

def Answers (self : TeardownWorld) : (request : TeardownCall) → request.Reply → TeardownWorld → Prop
  | .getForTeardown key => self.StoreAnswers (.ok (self.store key), self.store)
  | .claimDeleting key => self.StoreAnswers (self.store.claimDeleting key)
  | .markDeleted key => self.StoreAnswers (self.store.markDeleted key)
  | .delete guildId target => fun
    | .ok _, after => after = { self with deletions := self.deletions ++ [(guildId, target)] }
    | .error _, after => after = self

/-- Elsewhere new instances are registered. -/
def Registers (self after : TeardownWorld) : Prop :=
  ∃ registered, after = { self with store := (self.store.register registered).2 }

/-- What can happen in one step to the instances and the deletions that are there. -/
structure Changes (before after : TeardownWorld) : Prop where
  store : ∀ key found, before.store key = some found → ∃ later, after.store key = some later ∧
    (later = found ∨ ∃ status, found.status.Moves status ∧ later = { found with status })
  deletions : before.deletions ⊆ after.deletions

end TeardownWorld

/-- The deletions that a teardown has done itself, in their order. -/
def deletedBy (own : List (Exchange TeardownCall TeardownCall.Reply)) : List DeletionTarget :=
  own.filterMap fun
    | ⟨.delete _ target, .ok _⟩ => some target
    | _ => none

/-- A teardown is to delete the resources of its own instance in their order, and to mark the instance
when they are all gone. -/
def teardownContract : Contract TeardownWorld TeardownTask TeardownCall TeardownCall.Reply where
  evolves := ReflTransGen TeardownWorld.Changes
  answers := TeardownWorld.Answers
  permitted task own world
    | .getForTeardown key | .claimDeleting key => key = task.key
    | .delete guildId target => guildId = task.key.1 ∧ ∃ found rest, world.store task.key = some found ∧
        found.resources.targets = deletedBy own ++ target :: rest
    | .markDeleted key => key = task.key ∧ ∃ found, world.store key = some found ∧
        ∀ target ∈ found.resources.targets, (key.1, target) ∈ world.deletions
  refl _ := .refl
  trans := .trans

abbrev TeardownPool (ι : Type) :=
  Pool ι TeardownWorld TeardownTask TeardownCall TeardownCall.Reply (Except TeardownError (TeardownOutcome × Unit))

/-- Service instances may start, go on with and abandon teardowns at any time. -/
def TeardownStep {ι : Type} [DecidableEq ι] : TeardownPool ι → TeardownPool ι → Prop :=
  Pool.Step teardownContract TeardownTask.program TeardownWorld.Registers

section Store
variable (table : InstanceTable) (key : InstanceKey)

theorem claimDeleting_moves : (table.claimDeleting key).2 = table ∨ ∃ found, table key = some found ∧
    found.status.Moves .deleting ∧ (table.claimDeleting key).2 = table.setStatus key found .deleting := by
  cases read : table key with
  | none => exact .inl (by simp only [InstanceTable.claimDeleting, read])
  | some found =>
    cases status : found.status with
    | active => exact .inr ⟨found, rfl, status ▸ .claimActive, by simp only [InstanceTable.claimDeleting, read, status]⟩
    | disabled => exact .inr ⟨found, rfl, status ▸ .claimDisabled, by simp only [InstanceTable.claimDeleting, read, status]⟩
    | deleting | deleted => exact .inl (by simp only [InstanceTable.claimDeleting, read, status])

theorem markDeleted_moves : (table.markDeleted key).2 = table ∨ ∃ found, table key = some found ∧
    found.status.Moves .deleted ∧ (table.markDeleted key).2 = table.setStatus key found .deleted := by
  cases read : table key with
  | none => exact .inl (by simp only [InstanceTable.markDeleted, read])
  | some found =>
    cases status : found.status with
    | deleting => exact .inr ⟨found, rfl, status ▸ .mark, by simp only [InstanceTable.markDeleted, read, status]⟩
    | active | disabled | deleted => exact .inl (by simp only [InstanceTable.markDeleted, read, status])

end Store

namespace TeardownWorld
variable {before after : TeardownWorld}

theorem StoreAnswers.after_eq {α : Type} {served : Except InstanceStoreError α × InstanceTable}
    {reply : Except InstanceStoreError α} (answers : before.StoreAnswers served reply after) :
    after = before ∨ after = { before with store := served.2 } := by
  obtain ⟨-, same⟩ | ⟨-, same⟩ := answers
  · exact .inr same
  · exact same

/-- What the calls can do: nothing, move the status of one instance, or delete one target. -/
theorem Answers.cases {request : TeardownCall} {reply : request.Reply} (answers : before.Answers request reply after) :
    after = before ∨
    (∃ key found status, (status = .deleting ∨ request = .markDeleted key) ∧ before.store key = some found ∧
      found.status.Moves status ∧ after = { before with store := before.store.setStatus key found status }) ∨
    ∃ guildId target, after = { before with deletions := before.deletions ++ [(guildId, target)] } := by
  cases request with
  | getForTeardown key =>
    obtain same | same := StoreAnswers.after_eq answers
    · exact .inl same
    · exact .inl same
  | claimDeleting key =>
    obtain same | rfl := StoreAnswers.after_eq answers
    · exact .inl same
    obtain same | ⟨found, read, moves, same⟩ := claimDeleting_moves before.store key
    · exact .inl (by rw [same])
    · exact .inr (.inl ⟨key, found, _, .inl rfl, read, moves, by rw [same]⟩)
  | markDeleted key =>
    obtain same | rfl := StoreAnswers.after_eq answers
    · exact .inl same
    obtain same | ⟨found, read, moves, same⟩ := markDeleted_moves before.store key
    · exact .inl (by rw [same])
    · exact .inr (.inl ⟨key, found, _, .inr rfl, read, moves, by rw [same]⟩)
  | delete guildId target =>
    cases reply with
    | ok outcome => exact .inr (.inr ⟨guildId, target, answers⟩)
    | error error => exact .inl answers

theorem Changes.rfl : before.Changes before := ⟨fun _ found read => ⟨found, read, .inl (Eq.refl _)⟩, fun _ listed => listed⟩

variable {key : InstanceKey} {found : AutomationInstance}

theorem changes_setStatus {status : InstanceStatus} (read : before.store key = some found)
    (moves : found.status.Moves status) :
    before.Changes { before with store := before.store.setStatus key found status } := by
  refine ⟨fun other stored was => ?_, fun _ listed => listed⟩
  by_cases same : other = key
  · subst same
    obtain rfl : stored = found := Option.some.inj (was.symm.trans read)
    exact ⟨_, Function.update_self .., .inr ⟨status, moves, Eq.refl _⟩⟩
  · exact ⟨stored, (Function.update_of_ne same ..).trans was, .inl (Eq.refl _)⟩

theorem Answers.changes {request : TeardownCall} {reply : request.Reply} (answers : before.Answers request reply after) :
    before.Changes after := by
  obtain same | ⟨key, found, status, -, read, moves, same⟩ | ⟨guildId, target, same⟩ := answers.cases
  · exact same ▸ .rfl
  · exact same ▸ changes_setStatus read moves
  · exact same ▸ ⟨Changes.rfl.store, subset_append_left ..⟩

theorem Registers.store_eq (registers : before.Registers after) (read : before.store key = some found) :
    after.store key = some found := by
  obtain ⟨registered, rfl⟩ := registers
  simp only [InstanceTable.register]
  cases taken : before.store (registered.guildId, registered.id) with
  | some other => exact read
  | none =>
    have other : key ≠ (registered.guildId, registered.id) := fun same => by
      rw [same, taken] at read
      cases read
    exact (Function.update_of_ne other ..).trans read

theorem Registers.deletions_eq (registers : before.Registers after) : after.deletions = before.deletions := by
  obtain ⟨registered, rfl⟩ := registers
  rfl

theorem Registers.changes (registers : before.Registers after) : before.Changes after :=
  ⟨fun _ found read => ⟨found, registers.store_eq read, .inl rfl⟩, registers.deletions_eq ▸ fun _ listed => listed⟩

/-- Whatever happens, an instance keeps its manifest, and what has been deleted stays listed. -/
theorem evolved_store (evolved : ReflTransGen Changes before after) (read : before.store key = some found) :
    ∃ later, after.store key = some later ∧ later.resources = found.resources := by
  induction evolved with
  | refl => exact ⟨found, read, rfl⟩
  | tail _ changes ih =>
    obtain ⟨middle, there, kept⟩ := ih
    obtain ⟨later, stored, rfl | ⟨status, -, rfl⟩⟩ := changes.store key middle there
    · exact ⟨later, stored, kept⟩
    · exact ⟨_, stored, kept⟩

theorem evolved_deletions (evolved : ReflTransGen Changes before after) : before.deletions ⊆ after.deletions := by
  induction evolved with
  | refl => exact fun _ listed => listed
  | tail _ changes ih => exact fun _ listed => changes.deletions (ih listed)

end TeardownWorld

/-- The instance of the task is stored, and its manifest begins with what the teardown has deleted. -/
def Remaining (task : TeardownTask) (left : List DeletionTarget) (own : List (Exchange TeardownCall TeardownCall.Reply))
    (world : TeardownWorld) : Prop :=
  ∃ found, world.store task.key = some found ∧ found.resources.targets = deletedBy own ++ left ∧
    ∀ target ∈ deletedBy own, (task.key.1, target) ∈ world.deletions

section Program
variable {task : TeardownTask} {own : List (Exchange TeardownCall TeardownCall.Reply)} {world later : TeardownWorld}

theorem Remaining.evolve {left : List DeletionTarget} (evolved : ReflTransGen TeardownWorld.Changes world later)
    (remaining : Remaining task left own world) : Remaining task left own later := by
  obtain ⟨found, read, manifest, gone⟩ := remaining
  obtain ⟨after, stored, kept⟩ := TeardownWorld.evolved_store evolved read
  exact ⟨after, stored, by rw [kept, manifest], fun target listed => TeardownWorld.evolved_deletions evolved (gone target listed)⟩

theorem deletedBy_append (earlier last : List (Exchange TeardownCall TeardownCall.Reply)) :
    deletedBy (earlier ++ last) = deletedBy earlier ++ deletedBy last :=
  filterMap_append

theorem deleteResource_ensures {resource : InstanceResource} {left : List DeletionTarget}
    (remaining : Remaining task (resource.target :: left) own world) :
    (deleteResource task.key resource).Ensures teardownContract task (fun _ _ => Remaining task left) (fun _ _ _ => True)
      () own world := by
  refine Routine.ensures_call fun later evolved => ?_
  obtain ⟨found, read, manifest, gone⟩ := remaining.evolve evolved
  refine ⟨⟨rfl, found, left, read, manifest⟩, fun reply last answered => ?_⟩
  cases reply with
  | error error => exact Routine.ensures_throw fun _ _ => trivial
  | ok outcome =>
    obtain rfl : last = _ := answered
    refine Routine.ensures_pure fun _ evolved => Remaining.evolve evolved ⟨found, read, ?_, fun target listed => ?_⟩
    · rw [manifest, deletedBy_append]
      simp [deletedBy]
    · rw [deletedBy_append, mem_append] at listed
      obtain before | now := listed
      · exact mem_append_left _ (gone target before)
      · obtain rfl : target = resource.target := by simpa [deletedBy] using now
        exact mem_append_right _ mem_cons_self

theorem deleteAll_ensures {resources : List InstanceResource} {rest : List DeletionTarget}
    (remaining : Remaining task (resources.map InstanceResource.target ++ rest) own world) :
    (resources.forM (deleteResource task.key)).Ensures teardownContract task (fun _ _ => Remaining task rest)
      (fun _ _ _ => True) () own world :=
  Routine.ensures_forM (fun left _ => Remaining task (left.map InstanceResource.target ++ rest))
    (fun evolved remaining => remaining.evolve evolved) (fun _ _ _ _ _ remaining => deleteResource_ensures remaining) remaining

theorem deleteAndMark_ensures {found : AutomationInstance} {outcome : TeardownOutcome}
    (remaining : Remaining task found.resources.targets own world) :
    (deleteAndMark task.key found outcome).Ensures teardownContract task (fun _ _ _ _ => True) (fun _ _ _ => True)
      () own world := by
  rw [InstanceResources.targets, append_assoc, map_append, map_append] at remaining
  refine Routine.Ensures.bind ((deleteAll_ensures remaining).mono (fun _ _ _ _ remaining => ?_) fun _ _ _ _ => trivial)
  refine Routine.Ensures.bind ((deleteAll_ensures remaining).mono (fun _ _ _ _ remaining => ?_) fun _ _ _ _ => trivial)
  rw [← append_nil (List.map _ _)] at remaining
  refine Routine.Ensures.bind ((deleteAll_ensures remaining).mono (fun _ _ _ _ remaining => ?_) fun _ _ _ _ => trivial)
  refine Routine.ensures_call fun later evolved => ?_
  obtain ⟨stored, read, manifest, gone⟩ := remaining.evolve evolved
  rw [append_nil] at manifest
  refine ⟨⟨rfl, stored, read, manifest ▸ gone⟩, fun reply last answered => ?_⟩
  exact Routine.ensures_ofExcept (fun _ _ => Routine.ensures_pure fun _ _ => trivial) fun _ _ _ _ => trivial

/-- Reading the instance deletes nothing, and what is read is what is stored. -/
theorem readInstance_ensures {exact : Option ExactInstanceTeardownRequest} (clean : deletedBy own = []) :
    (readInstance task.key exact).Ensures teardownContract task
      (fun found _ own world => deletedBy own = [] ∧ Remaining task found.resources.targets own world)
      (fun _ _ _ => True) () own world := by
  refine Routine.ensures_call fun later evolved => ⟨rfl, fun reply last answered => ?_⟩
  have still : deletedBy (own ++ [⟨.getForTeardown task.key, reply⟩]) = [] := by
    rw [deletedBy_append, clean]
    rfl
  refine Routine.ensures_ofExcept (fun known replied => ?_) fun _ _ _ _ => trivial
  refine Routine.ensures_ofExcept (fun found isKnown => ?_) fun _ _ _ _ => trivial
  refine Routine.ensures_ofExcept (fun _ _ => Routine.ensures_pure fun _ evolved => ?_) fun _ _ _ _ => trivial
  have read : last.store task.key = some found := by
    obtain rfl : known = some found := (orReject_eq_ok ..).mp isKnown
    obtain ⟨rfl, rfl⟩ | ⟨⟨error, rfl⟩, -⟩ := answered
    · exact Except.ok.inj replied
    · cases replied
  refine ⟨still, Remaining.evolve evolved ⟨found, read, by rw [still, nil_append], ?_⟩⟩
  rw [still]
  exact fun _ listed => nomatch listed

theorem teardownLocked_ensures {exact : Option ExactInstanceTeardownRequest} :
    (teardownLocked task.key exact).Ensures teardownContract task (fun _ _ _ _ => True) (fun _ _ _ => True) () [] world := by
  refine Routine.Ensures.bind ((readInstance_ensures rfl).mono (fun _ _ own _ read => ?_) fun _ _ _ _ => trivial)
  refine Routine.ensures_call fun later evolved => ⟨rfl, fun reply last answered => ?_⟩
  have clean : deletedBy (own ++ [⟨.claimDeleting task.key, reply⟩]) = [] := by
    rw [deletedBy_append, read.1]
    rfl
  refine Routine.ensures_ofExcept (fun claim _ => ?_) fun _ _ _ _ => trivial
  refine Routine.Ensures.bind ((readInstance_ensures clean).mono (fun _ _ _ _ again => ?_) fun _ _ _ _ => trivial)
  cases claim with
  | claimed | alreadyDeleting => exact deleteAndMark_ensures again.2
  | alreadyDeleted => exact Routine.ensures_pure fun _ _ => trivial

theorem program_safe (task : TeardownTask) (world : TeardownWorld) :
    task.program.Safe teardownContract task (fun _ _ _ => True) [] world := by
  have safe (exact : Option ExactInstanceTeardownRequest) :
      (teardownLocked task.key exact ()).Safe teardownContract task (fun _ _ _ => True) [] world :=
    Process.Safe.mono (fun _ _ _ _ => trivial) teardownLocked_ensures
  cases task with
  | teardown guildId instanceId held =>
    cases held with
    | true => exact fun _ _ => trivial
    | false => exact safe none
  | teardownExact request held =>
    cases held with
    | true => exact fun _ _ => trivial
    | false => exact safe (some request)

end Program

/-- Since the first world, no instance has become deleted without all of its resources. -/
structure TeardownWorld.SoundSince (first world : TeardownWorld) : Prop where
  evolved : ReflTransGen TeardownWorld.Changes first world
  deleted : ∀ key found later, first.store key = some found → found.status ≠ .deleted → world.store key = some later →
    later.status = .deleted → ∀ target ∈ later.resources.targets, (key.1, target) ∈ world.deletions

namespace TeardownWorld.SoundSince
variable {first world after : TeardownWorld}

theorem rfl : SoundSince first first := by
  refine ⟨.refl, fun key found later read notYet again deleted => ?_⟩
  obtain same : later = found := Option.some.inj (again.symm.trans read)
  exact absurd (same ▸ deleted) notYet

theorem step_answers {task : TeardownTask} {own : List (Exchange TeardownCall TeardownCall.Reply)}
    {request : TeardownCall} {reply : request.Reply} (sound : SoundSince first world)
    (permitted : teardownContract.permitted task own world request) (answers : world.Answers request reply after) :
    SoundSince first after := by
  refine ⟨sound.evolved.tail answers.changes, fun key found later read notYet now deleted => ?_⟩
  obtain rfl | ⟨moved, stored, status, why, was, -, rfl⟩ | ⟨guildId, target, rfl⟩ := answers.cases
  · exact sound.deleted key found later read notYet now deleted
  · obtain ⟨rfl, same⟩ | ⟨-, before⟩ := Pool.of_update now
    · -- only a mark makes an instance deleted, and it is permitted when the resources are gone
      cases same
      obtain rfl | rfl := why
      · cases deleted
      · obtain ⟨-, marked, read, gone⟩ := permitted
        obtain rfl : marked = stored := Option.some.inj (read.symm.trans was)
        exact gone
    · exact sound.deleted key found later read notYet before deleted
  · intro target listed
    exact mem_append_left _ (sound.deleted key found later read notYet now deleted target listed)

theorem step_registers (sound : SoundSince first world) (registers : world.Registers after) : SoundSince first after := by
  refine ⟨sound.evolved.tail registers.changes, fun key found later read notYet now deleted => ?_⟩
  obtain ⟨middle, was, -⟩ := evolved_store sound.evolved read
  obtain rfl : middle = later := Option.some.inj ((registers.store_eq was).symm.trans now)
  rw [registers.deletions_eq]
  exact sound.deleted key found middle read notYet was deleted

end TeardownWorld.SoundSince

section Pools
variable {ι : Type} [DecidableEq ι] {pool later : TeardownPool ι}

theorem TeardownStep.changes (step : TeardownStep pool later) : pool.world.Changes later.world := by
  cases step with
  | start | stop => exact .rfl
  | advance place task request next own reply after running answered => exact TeardownWorld.Answers.changes answered
  | elsewhere after registers => exact TeardownWorld.Registers.changes registers

theorem keeps_since {first : TeardownWorld} (keeps : pool.Keeps teardownContract (TeardownWorld.SoundSince first))
    (steps : ReflTransGen TeardownStep pool later) :
    later.Keeps teardownContract (TeardownWorld.SoundSince first) :=
  keeps.run (fun task world _ => program_safe task world)
    (fun sound permitted answers => ⟨.single (TeardownWorld.Answers.changes answers), sound.step_answers permitted answers⟩)
    (fun sound registers => ⟨.single (TeardownWorld.Registers.changes registers), sound.step_registers registers⟩) steps

/-- In every run of any number of teardowns, an instance only moves towards deletion; it is deleted after all of its
resources; and each teardown deletes nothing but the resources of its instance, in their order. -/
theorem deleted_after_resources {table : InstanceTable}
    (reached : ReflTransGen TeardownStep (Pool.idle ⟨table, []⟩) pool) :
    (∀ later, TeardownStep pool later → ∀ key found, pool.world.store key = some found →
      ∃ after, later.world.store key = some after ∧
        (after = found ∨ ∃ status, found.status.Moves status ∧ after = { found with status })) ∧
    (∀ later, ReflTransGen TeardownStep pool later → ∀ key found after, pool.world.store key = some found →
      found.status ≠ .deleted → later.world.store key = some after → after.status = .deleted →
        ∀ target ∈ after.resources.targets, (key.1, target) ∈ later.world.deletions) ∧
    ∀ place task guildId target next own, pool.threads place = some ⟨task, .call (.delete guildId target) next, own⟩ →
      guildId = task.key.1 ∧ ∃ found rest, pool.world.store task.key = some found ∧
        found.resources.targets = deletedBy own ++ target :: rest := by
  have keeps := keeps_since (Pool.Keeps.idle TeardownWorld.SoundSince.rfl) reached
  refine ⟨fun later step => step.changes.store, fun later steps key found after => ?_, ?_⟩
  · have since : pool.Keeps teardownContract (TeardownWorld.SoundSince pool.world) := ⟨.rfl, keeps.threads⟩
    exact (keeps_since since steps).world.deleted key found after
  · exact fun place task guildId target next own running => keeps.permitted running

end Pools

def serveTeardown (world : TeardownWorld) : (request : TeardownCall) → request.Reply × TeardownWorld
  | .getForTeardown key => (.ok (world.store key), world)
  | .claimDeleting key => ((world.store.claimDeleting key).1, { world with store := (world.store.claimDeleting key).2 })
  | .markDeleted key => ((world.store.markDeleted key).1, { world with store := (world.store.markDeleted key).2 })
  | .delete guildId target => (.ok .deleted, { world with deletions := world.deletions ++ [(guildId, target)] })

theorem serveTeardown_answers (world : TeardownWorld) (request : TeardownCall) :
    teardownContract.answers world request (serveTeardown world request).1 (serveTeardown world request).2 := by
  cases request with
  | getForTeardown | claimDeleting | markDeleted => exact Or.inl ⟨rfl, rfl⟩
  | delete => rfl

theorem roomName_parsed : isInstanceId "room_1" = true := by decide +kernel

def room : AutomationInstance where
  id := ⟨"room_1", roomName_parsed⟩
  guildId := ⟨1⟩
  rulesetKey := "rooms"
  rulesetVersion := ⟨⟨1, Nat.one_pos, NonZeroU32.one_bounded⟩⟩
  kind := ⟨"room"⟩
  createdBy := ⟨2⟩
  resources :=
    { roles := Std.ExtTreeMap.ofList [("member", RoleId.mk 3)]
      channels := Std.ExtTreeMap.ofList [("room", ChannelId.mk 4)]
      messages := Std.ExtTreeMap.ofList [("welcome", InstanceMessageRef.mk ⟨4⟩ ⟨5⟩)] }
  status := .active

def onlyRoom : InstanceTable := fun key => if key = (room.guildId, room.id) then some room else none

def roomTeardown : TeardownWorld :=
  ((TeardownTask.teardown room.guildId room.id false).program.drive serveTeardown [] ⟨onlyRoom, []⟩).2.2

theorem deleted_after_room_resources :
    ∃ found, roomTeardown.store (room.guildId, room.id) = some found ∧ found.status = .deleted ∧
      found.resources.targets.length = 3 ∧
      ∀ target ∈ found.resources.targets, (room.guildId, target) ∈ roomTeardown.deletions := by
  have ended : (roomTeardown.store (room.guildId, room.id)).any
      (fun found => found.status = .deleted ∧ found.resources.targets.length = 3) = true := by decide +kernel
  obtain ⟨found, stored, checked⟩ := (Option.any_eq_true ..).mp ended
  obtain ⟨deleted, three⟩ := of_decide_eq_true checked
  obtain ⟨later, steps, ends⟩ :
      ∃ later, ReflTransGen TeardownStep (Pool.idle ⟨onlyRoom, []⟩ : TeardownPool Unit) later ∧
        later.world = roomTeardown := by
    unfold TeardownStep
    exact Pool.drive_from_idle serveTeardown_answers () (TeardownTask.teardown room.guildId room.id false) ⟨onlyRoom, []⟩
  rw [← ends] at stored ⊢
  exact ⟨found, stored, deleted, three,
    (deleted_after_resources .refl).2.1 later steps (room.guildId, room.id) room found rfl (by decide) stored deleted⟩

end Starring.Automation
