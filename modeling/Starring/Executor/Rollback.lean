import Starring.Executor.Undoable

/-! What a rollback leaves. While the job runs, everything done to the guild is recorded;
a rollback that reports success has undone all of it, and the guild is the snapshot
again, but for the ids of what had to be created anew. -/

namespace Starring.Executor
open Foundation Foundation.UndoLog Planning List ResourceResolutionContext RollbackAction

/-- What undoes the step, if it has to be undone. -/
def StepResult.undo (step : StepResult) : Option RollbackAction :=
  if step.outcome = .success then step.rollback else none

def pendingOf (steps : List StepResult) : List RollbackAction := steps.reverse.filterMap StepResult.undo

section
variable (refuses : Nat → Bool → Option AdapterError) (store : Store)

theorem Store.serve_cases {α : Type} (known : Bool) (value : α) (effect : GuildState → GuildState) (made : Nat) :
    (∃ error, store.serve refuses known value effect made = (.error error, { store with calls := store.calls + 1 })) ∨
      refuses store.calls known = none ∧ store.serve refuses known value effect made =
        (.ok value, { guild := effect store.guild, calls := store.calls + 1, made := store.made + made }) := by
  unfold Store.serve
  split
  · next error _ => exact .inl ⟨error, rfl⟩
  · next accepted => exact .inr ⟨accepted, rfl⟩

theorem Store.serve_made {α : Type} (known : Bool) (value : α) (effect : GuildState → GuildState) (made : Nat) :
    store.made ≤ (store.serve refuses known value effect made).2.made := by
  obtain ⟨error, refused⟩ | ⟨-, served⟩ :=
    store.serve_cases refuses known value effect made
  · rw [refused]
  · rw [served]
    exact Nat.le_add_right _ _

end

@[simp] theorem created_adapter {σ ι : Type} (opId : OpId) (context : ResourceResolutionContext)
    (reply : Except AdapterError ι × σ) (resource : ι → CreatedResource) (undo : ι → RollbackAction)
    (bind : ι → ResourceResolutionContext) : (created opId context reply resource undo bind).adapter = reply.2 := by
  unfold created
  split <;> rfl

@[simp] theorem changed_adapter {σ : Type} (opId : OpId) (context : ResourceResolutionContext)
    (reply : Except AdapterError Unit × σ) (undo : Option RollbackAction) :
    (changed opId context reply undo).adapter = reply.2 := by
  unfold changed
  split <;> rfl

section
variable {snapshot : GuildState} {ids : Nat → UInt64} {refuses : Nat → Bool → Option AdapterError}
  {pending : List RollbackAction} {context : ResourceResolutionContext} {store : Store} {opId : OpId} {guild : GuildId}

theorem resolving_made {ι : Type} {resolved : Except ResolutionError (ι × ResourceResolutionContext)}
    {next : ι → ResourceResolutionContext → Progress Store} (made : ∀ id context, store.made ≤ (next id context).adapter.made) :
    store.made ≤ (resolving opId context store resolved next).adapter.made := by
  unfold resolving
  split
  · exact made _ _
  · exact Nat.le_refl _

theorem runOp_made (operation : Operation) :
    store.made ≤ (runOp opId (guildStore ids refuses) snapshot guild operation context store).adapter.made := by
  cases operation with
  | createRole key name permissions =>
    rw [runOp, created_adapter]
    exact store.serve_made refuses _ _ _ _
  | updateRole key name permissions | deleteRole key | updateChannel key name channelType | deleteChannel key =>
    refine resolving_made fun id context => ?_
    rw [changed_adapter]
    exact store.serve_made refuses _ _ _ _
  | createChannel key name channelType parent =>
    cases parent with
    | none =>
      rw [runOp, runCreateChannel, created_adapter]
      exact store.serve_made refuses _ _ _ _
    | some parent =>
      refine resolving_made fun id context => ?_
      rw [runCreateChannel, created_adapter]
      exact store.serve_made refuses _ _ _ _
  | createOverwrite channel target allow deny | updateOverwrite channel target allow deny =>
    refine resolving_made fun id context => resolving_made fun target context => ?_
    rw [changed_adapter]
    exact store.serve_made refuses _ _ _ _

def Recorded (snapshot : GuildState) (ids : Nat → UInt64) (pending : List RollbackAction) (progress : Progress Store) :
    Prop :=
  Undoable snapshot ids (progress.step.undo.toList ++ pending) progress.context.names progress.adapter

theorem Undoable.unrecorded {progress : Progress Store}
    (undoable : Undoable snapshot ids pending progress.context.names progress.adapter)
    (nothing : progress.step.rollback = none) : Recorded snapshot ids pending progress := by
  rw [Recorded, StepResult.undo, nothing, ite_self]
  exact undoable

theorem Undoable.resolving {ι : Type} (undoable : Undoable snapshot ids pending context.names store)
    {resolved : Except ResolutionError (ι × ResourceResolutionContext)}
    {next : ι → ResourceResolutionContext → Progress Store}
    (found : ∀ id after, resolved = .ok (id, after) → Recorded snapshot ids pending (next id after)) :
    Recorded snapshot ids pending (resolving opId context store resolved next) := by
  cases resolved with
  | ok pair => exact found pair.1 pair.2 rfl
  | error error => exact undoable

theorem Undoable.changed (undoable : Undoable snapshot ids pending context.names store) {known : Bool}
    {effect : GuildState → GuildState} {undo : Option RollbackAction}
    (served : refuses store.calls known = none → Undoable snapshot ids (undo.toList ++ pending) context.names
      { store with guild := effect store.guild, calls := store.calls + 1 }) :
    Recorded snapshot ids pending (changed opId context (store.serve refuses known () effect 0) undo) := by
  obtain ⟨error, refused⟩ | ⟨accepted, done⟩ := store.serve_cases refuses known () effect 0
  · rw [refused]
    exact (undoable.called _).unrecorded rfl
  · rw [done]
    exact served accepted

theorem Undoable.created {ι : Type} (undoable : Undoable snapshot ids pending context.names store) {value : ι}
    {effect : GuildState → GuildState} {resource : ι → CreatedResource} {undo : ι → RollbackAction}
    {bind : ι → ResourceResolutionContext}
    (served : store.made < (created opId context (store.serve refuses true value effect 1) resource undo bind).adapter.made →
      Undoable snapshot ids (undo value :: pending) (bind value).names
        { guild := effect store.guild, calls := store.calls + 1, made := store.made + 1 }) :
    Recorded snapshot ids pending
      (created opId context (store.serve refuses true value effect 1) resource undo bind) := by
  obtain ⟨error, refused⟩ | ⟨-, done⟩ := store.serve_cases refuses true value effect 1
  · rw [refused]
    exact (undoable.called _).unrecorded rfl
  · rw [done] at served ⊢
    exact served (Nat.lt_succ_self _)

/-- A call for something that is not there is refused. -/
theorem exists_of_accepted {α : Type} {rows : List α} {condition : α → Bool} {calls : Nat}
    (strict : ∀ calls, refuses calls false ≠ none) (accepted : refuses calls (rows.any condition) = none) :
    ∃ row ∈ rows, condition row = true := by
  cases known : rows.any condition with
  | true => exact any_eq_true.mp known
  | false => exact (strict calls (known ▸ accepted)).elim

theorem Undoable.runCreateChannel (undoable : Undoable snapshot ids pending context.names store) {key : ResourceKey}
    {name : Option String} {channelType : Option ChannelType} {parentId : Option ChannelId}
    (unused : store.made < (runCreateChannel opId (guildStore ids refuses) guild key name channelType parentId context
      store).adapter.made → Unused snapshot ids store.made) :
    Recorded snapshot ids pending
      (runCreateChannel opId (guildStore ids refuses) guild key name channelType parentId context store) := by
  refine undoable.created fun more => ?_
  rw [bindChannel_names]
  exact undoable.addChannel (unused more) key name channelType parentId _

theorem Undoable.runOverwrite (undoable : Undoable snapshot ids pending context.names store) (channel : ResourceKey)
    (target : NormalizedTarget) (allow deny : Permissions) :
    Recorded snapshot ids pending
      (runOverwrite opId (guildStore ids refuses) snapshot guild channel target allow deny context store) := by
  refine undoable.resolving fun id after resolved => ?_
  obtain ⟨-, alike⟩ := resolveChannelKey_names resolved
  have later : Undoable snapshot ids pending after.names store := alike.1 ▸ undoable
  refine later.resolving fun meant last targeted => ?_
  obtain ⟨-, alikeLast⟩ := resolveTarget_names targeted
  have latest : Undoable snapshot ids pending last.names store := alikeLast.1 ▸ later
  exact latest.changed fun _ => latest.putOverwrite rfl allow deny _

theorem Undoable.runOp (undoable : Undoable snapshot ids pending context.names store)
    (strict : ∀ calls, refuses calls false ≠ none) (operation : Operation)
    (unused : store.made < (runOp opId (guildStore ids refuses) snapshot guild operation context store).adapter.made →
      Unused snapshot ids store.made) :
    Recorded snapshot ids pending (runOp opId (guildStore ids refuses) snapshot guild operation context store) := by
  cases operation with
  | createRole key name permissions =>
    refine undoable.created fun more => ?_
    rw [bindRole_names]
    exact undoable.addRole (unused more) key name permissions _
  | updateRole key name permissions =>
    refine undoable.resolving fun id after resolved => ?_
    obtain ⟨named, alike⟩ := resolveRoleKey_names resolved
    have later : Undoable snapshot ids pending after.names store := alike.1 ▸ undoable
    exact later.changed fun _ => later.updateRole (alike.1 ▸ named) name permissions _
  | deleteRole key =>
    refine undoable.resolving fun id after resolved => ?_
    obtain ⟨named, alike⟩ := resolveRoleKey_names resolved
    have later : Undoable snapshot ids pending after.names store := alike.1 ▸ undoable
    refine later.changed fun accepted => later.deleteRole (alike.1 ▸ named) ?_ _
    obtain ⟨role, mem, same⟩ := exists_of_accepted strict accepted
    exact ⟨role, mem, of_decide_eq_true same⟩
  | createChannel key name channelType parent =>
    cases parent with
    | none => exact undoable.runCreateChannel unused
    | some parent =>
      refine undoable.resolving fun id after resolved => ?_
      obtain ⟨-, alike⟩ := resolveChannelKey_names resolved
      have later : Undoable snapshot ids pending after.names store := alike.1 ▸ undoable
      simp only [Executor.runOp, Executor.resolving, resolved] at unused
      exact later.runCreateChannel unused
  | updateChannel key name channelType =>
    refine undoable.resolving fun id after resolved => ?_
    obtain ⟨named, alike⟩ := resolveChannelKey_names resolved
    have later : Undoable snapshot ids pending after.names store := alike.1 ▸ undoable
    exact later.changed fun _ => later.updateChannel (alike.1 ▸ named) name channelType _
  | deleteChannel key =>
    refine undoable.resolving fun id after resolved => ?_
    obtain ⟨named, alike⟩ := resolveChannelKey_names resolved
    have later : Undoable snapshot ids pending after.names store := alike.1 ▸ undoable
    refine later.changed fun accepted => later.deleteChannel (alike.1 ▸ named) ?_ _
    obtain ⟨channel, mem, same⟩ := exists_of_accepted strict accepted
    exact ⟨channel, mem, of_decide_eq_true same⟩
  | createOverwrite channel target allow deny | updateOverwrite channel target allow deny =>
    exact undoable.runOverwrite channel target allow deny

def JobRecorded (snapshot : GuildState) (ids : Nat → UInt64) (job : Job Store) : Prop :=
  Undoable snapshot ids (pendingOf job.steps) job.context.names job.adapter

variable {request : ApprovedExecutionRequest}

theorem pendingOf_concat (steps : List StepResult) (step : StepResult) :
    pendingOf (steps ++ [step]) = step.undo.toList ++ pendingOf steps := by
  rw [pendingOf, reverse_concat, filterMap_cons]
  cases step.undo <;> rfl

theorem runNode_made (job : Job Store) (node : OperationNode) :
    job.adapter.made ≤ (runNode (guildStore ids refuses) request job node).adapter.made := by
  unfold runNode
  split
  · exact Nat.le_refl _
  · exact runOp_made node.operation

theorem foldl_runNode_made (nodes : List OperationNode) (job : Job Store) :
    job.adapter.made ≤ (nodes.foldl (runNode (guildStore ids refuses) request) job).adapter.made := by
  induction nodes generalizing job with
  | nil => exact Nat.le_refl _
  | cons node nodes ih => exact (runNode_made job node).trans (ih _)

theorem JobRecorded.step {job : Job Store} (recorded : JobRecorded request.snapshot ids job)
    (strict : ∀ calls, refuses calls false ≠ none) (node : OperationNode)
    (unused : job.adapter.made < (runNode (guildStore ids refuses) request job node).adapter.made →
      Unused request.snapshot ids job.adapter.made) :
    JobRecorded request.snapshot ids (runNode (guildStore ids refuses) request job node) := by
  unfold Executor.runNode at unused ⊢
  split at unused
  · next stopped =>
    rw [if_pos stopped, JobRecorded, pendingOf_concat]
    exact recorded
  · next running =>
    rw [if_neg running, JobRecorded, pendingOf_concat]
    exact Undoable.runOp recorded strict node.operation unused

theorem JobRecorded.run {job : Job Store} (recorded : JobRecorded request.snapshot ids job)
    (strict : ∀ calls, refuses calls false ≠ none) (nodes : List OperationNode)
    (unused : ∀ made < (nodes.foldl (runNode (guildStore ids refuses) request) job).adapter.made,
      Unused request.snapshot ids made) :
    JobRecorded request.snapshot ids (nodes.foldl (runNode (guildStore ids refuses) request) job) := by
  induction nodes generalizing job with
  | nil => exact recorded
  | cons node nodes ih =>
    refine ih (recorded.step strict node fun more => unused _ (more.trans_le ?_)) unused
    exact foldl_runNode_made nodes _

theorem jobRecorded_start (normalized : NormalizedDesiredState) (guildId : GuildId) (calls made : Nat) :
    JobRecorded snapshot ids
      { steps := [], stopped := false, context := .new normalized (inMemoryMatchResolver snapshot) guildId
        adapter := { guild := snapshot, calls, made } } where
  roles := .start _
  channels := .start _
  captured _ mem := (not_mem_nil mem).elim
  roleNames _ _ found := .inl (firstNames_role_mem found)
  channelNames _ _ found := .inl (firstNames_channel_mem found)
  rolesGiven _ mem := (not_mem_nil mem).elim
  channelsGiven _ mem := (not_mem_nil mem).elim
  untouched _ := rfl

end

/-- Values that were given out one after another, within bounds. -/
def Given (ids : Nat → UInt64) (low high : Nat) (values : List UInt64) : Prop :=
  ∃ indices : List Nat, values = indices.map ids ∧ indices.Pairwise (· < ·) ∧ ∀ index ∈ indices, low ≤ index ∧ index < high

theorem Given.nil (ids : Nat → UInt64) (low high : Nat) : Given ids low high [] :=
  ⟨[], rfl, .nil, fun _ mem => (not_mem_nil mem).elim⟩

theorem Given.cons {ids : Nat → UInt64} {low high : Nat} {values : List UInt64} (bound : low + 1 ≤ high)
    (given : Given ids (low + 1) high values) : Given ids low high (ids low :: values) := by
  obtain ⟨indices, rfl, increasing, bounded⟩ := given
  refine ⟨low :: indices, rfl, pairwise_cons.mpr ⟨fun index mem => (bounded index mem).1, increasing⟩, ?_⟩
  intro index mem
  obtain rfl | later := mem_cons.mp mem
  · exact ⟨Nat.le_refl _, bound⟩
  · exact ⟨(Nat.le_succ low).trans (bounded index later).1, (bounded index later).2⟩

theorem Given.widen {ids : Nat → UInt64} {low lower high : Nat} {values : List UInt64}
    (given : Given ids low high values) (le : lower ≤ low) : Given ids lower high values := by
  obtain ⟨indices, rfl, increasing, bounded⟩ := given
  exact ⟨indices, rfl, increasing, fun index mem => ⟨le.trans (bounded index mem).1, (bounded index mem).2⟩⟩

def RollbackAction.recreatedRole : RollbackAction → Option Role
  | recreateRole before => some before
  | deleteRole _ | restoreRole _ _ | deleteChannel _ | restoreChannel _ _ | recreateChannel _
  | restoreOverwrite _ _ _ => none

def RollbackAction.recreatedChannel : RollbackAction → Option Channel
  | recreateChannel before => some before
  | deleteRole _ | restoreRole _ _ | recreateRole _ | deleteChannel _ | restoreChannel _ _
  | restoreOverwrite _ _ _ => none

/-- All actions have been undone. What had been deleted is there as bare copies with new ids. -/
structure Rebuilt (ids : Nat → UInt64) (actions : List RollbackAction) (store last : Store) (newRoles : List Role)
    (newChannels : List ChannelView) : Prop where
  roles : Undoes Role.id store.guild.roles (actions.filterMap roleUndo) newRoles last.guild.roles
  channels : Undoes ChannelView.id (store.guild.channels.map channelView)
    (actions.filterMap channelUndo) newChannels (last.guild.channels.map channelView)
  free : .stuck ∉ actions.filterMap channelUndo
  roleCopies : List.Forall₂ (fun before row => roleView row = { roleView before with id := row.id })
    (actions.filterMap recreatedRole) newRoles
  channelCopies : List.Forall₂ (fun before view => view = { channelView before with id := view.id, overwrites := 0 })
    (actions.filterMap recreatedChannel) newChannels
  roleIds : Given ids store.made last.made (newRoles.map fun role => role.id.value)
  channelIds : Given ids store.made last.made (newChannels.map fun view => view.id.value)

section
variable {ids : Nat → UInt64} {refuses : Nat → Bool → Option AdapterError} {store last : Store} {guild : GuildId}
  {actions : List RollbackAction} {newRoles : List Role} {newChannels : List ChannelView}

theorem answered_undone {α : Type} {known : Bool} {value : α} {effect : GuildState → GuildState} {made : Nat}
    (undone : (answered (store.serve refuses known value effect made)).1 = .undone) :
    (answered (store.serve refuses known value effect made)).2 =
      { guild := effect store.guild, calls := store.calls + 1, made := store.made + made } := by
  obtain ⟨error, refused⟩ | ⟨-, served⟩ := store.serve_cases refuses known value effect made
  · rw [refused] at undone
    cases undone
  · rw [served]
    rfl

theorem Rebuilt.cons {action : RollbackAction}
    (undone : (runRollback (guildStore ids refuses) guild action store).1 = .undone)
    (rest : Rebuilt ids actions (runRollback (guildStore ids refuses) guild action store).2 last newRoles newChannels)
    (bound : (runRollback (guildStore ids refuses) guild action store).2.made ≤ last.made) :
    ∃ roles channels, Rebuilt ids (action :: actions) store last roles channels := by
  cases action with
  | deleteRole id | restoreRole id before =>
    have done := answered_undone undone
    simp only [runRollback, guildStore, done] at rest
    exact ⟨newRoles, newChannels, { rest with roles := .leave rfl rest.roles }⟩
  | recreateRole before =>
    have done := answered_undone undone
    simp only [runRollback, guildStore, done] at rest bound
    exact ⟨newRole ⟨ids store.made⟩ (some before.name) (some before.permissions) :: newRoles, newChannels,
      { rest with
        roles := .bring rest.roles
        roleCopies := .cons rfl rest.roleCopies
        roleIds := rest.roleIds.cons bound
        channelIds := rest.channelIds.widen (Nat.le_succ _) }⟩
  | deleteChannel id =>
    have done := answered_undone undone
    simp only [runRollback, guildStore, done] at rest
    have views : Undoes ChannelView.id ((store.guild.channels.map channelView).filter fun view => view.id ≠ id)
        (actions.filterMap channelUndo) newChannels (last.guild.channels.map channelView) := by
      rw [filter_map]
      exact rest.channels
    exact ⟨newRoles, newChannels, { rest with channels := .leave rfl views, free := by simpa [channelUndo] using rest.free }⟩
  | restoreChannel id before =>
    have done := answered_undone undone
    simp only [runRollback, guildStore, done] at rest
    have views : Undoes ChannelView.id
        (modifyFirst (fun view => view.id = id) (ChannelView.change (restoringSpec before))
          (store.guild.channels.map channelView))
        (actions.filterMap channelUndo) newChannels (last.guild.channels.map channelView) := by
      rw [← map_modifyFirst (channelView_change (restoringSpec before))]
      exact rest.channels
    exact ⟨newRoles, newChannels, { rest with channels := .leave rfl views, free := by simpa [channelUndo] using rest.free }⟩
  | recreateChannel before =>
    have done := answered_undone undone
    simp only [runRollback, guildStore, done] at rest bound
    have views : Undoes ChannelView.id
        (store.guild.channels.map channelView ++
          [channelView (newChannel ⟨ids store.made⟩ (some before.name) (some before.channelType) before.parentId)])
        (actions.filterMap channelUndo) newChannels (last.guild.channels.map channelView) := by
      have appended := rest.channels
      rw [map_append] at appended
      exact appended
    exact ⟨newRoles, channelView (newChannel ⟨ids store.made⟩ (some before.name) (some before.channelType)
        before.parentId) :: newChannels,
      { rest with
        channels := .bring views
        free := by simpa [channelUndo] using rest.free
        channelCopies := .cons rfl rest.channelCopies
        roleIds := rest.roleIds.widen (Nat.le_succ _)
        channelIds := rest.channelIds.cons bound }⟩
  | restoreOverwrite channel target before =>
    cases before with
    | none => cases undone
    | some before =>
      have done := answered_undone undone
      simp only [runRollback, guildStore, done] at rest
      have views : Undoes ChannelView.id
          (modifyFirst (fun view => view.id = channel) (ChannelView.putOverwrite target before.allow before.deny)
            (store.guild.channels.map channelView))
          (actions.filterMap channelUndo) newChannels (last.guild.channels.map channelView) := by
        rw [← map_modifyFirst (channelView_putOverwrite target before.allow before.deny)]
        exact rest.channels
      exact ⟨newRoles, newChannels, { rest with channels := .leave rfl views, free := by simpa [channelUndo] using rest.free }⟩

theorem runRollback_made (action : RollbackAction) :
    store.made ≤ (runRollback (guildStore ids refuses) guild action store).2.made := by
  cases action with
  | restoreOverwrite channel target before =>
    cases before with
    | none => exact Nat.le_refl _
    | some before => exact store.serve_made refuses _ _ _ _
  | deleteRole | restoreRole | recreateRole | deleteChannel | restoreChannel | recreateChannel =>
    exact store.serve_made refuses _ _ _ _

theorem rollbackStep_none {step : StepResult} (nothing : step.undo = none) (progress : List RollbackStepResult × Store) :
    rollbackStep (guildStore ids refuses) guild progress step = progress := by
  unfold StepResult.undo at nothing
  unfold rollbackStep
  split
  · next action success held =>
    rw [success, if_pos rfl, held] at nothing
    cases nothing
  · rfl

theorem rollbackStep_some {step : StepResult} {action : RollbackAction} (undo : step.undo = some action)
    (progress : List RollbackStepResult × Store) :
    rollbackStep (guildStore ids refuses) guild progress step =
      (progress.1 ++ [{ sourceOpId := step.opId, action
                        outcome := (runRollback (guildStore ids refuses) guild action progress.2).1 }],
        (runRollback (guildStore ids refuses) guild action progress.2).2) := by
  unfold StepResult.undo at undo
  split at undo
  · next success => simp only [rollbackStep, success, undo]
  · cases undo

theorem foldl_rollbackStep_none {steps : List StepResult} (nothing : steps.filterMap StepResult.undo = [])
    (progress : List RollbackStepResult × Store) :
    steps.foldl (rollbackStep (guildStore ids refuses) guild) progress = progress := by
  induction steps with
  | nil => rfl
  | cons step steps ih =>
    have all := filterMap_eq_nil_iff.mp nothing
    rw [foldl_cons, rollbackStep_none (all step mem_cons_self)]
    exact ih (filterMap_eq_nil_iff.mpr fun other mem => all other (mem_cons_of_mem _ mem))

variable (ids refuses guild) in
/-- A run through the steps, the last one first. -/
theorem rollback_run (steps : List StepResult) (results : List RollbackStepResult) (store : Store) :
    ∃ added last, steps.foldl (rollbackStep (guildStore ids refuses) guild) (results, store) = (results ++ added, last) ∧
      added.map RollbackStepResult.action = steps.filterMap StepResult.undo ∧ store.made ≤ last.made ∧
      ((∀ result ∈ added, result.outcome = .undone) →
        ∃ newRoles newChannels, Rebuilt ids (steps.filterMap StepResult.undo) store last newRoles newChannels) := by
  induction steps generalizing results store with
  | nil =>
    exact ⟨[], store, by rw [append_nil]; rfl, rfl, Nat.le_refl _, fun _ =>
      ⟨[], [], .done _, .done _, not_mem_nil, .nil, .nil, .nil _ _ _, .nil _ _ _⟩⟩
  | cons step steps ih =>
    rw [foldl_cons, filterMap_cons]
    cases undo : step.undo with
    | none =>
      rw [rollbackStep_none undo]
      exact ih results store
    | some action =>
      rw [rollbackStep_some undo]
      let reply := runRollback (guildStore ids refuses) guild action store
      let result : RollbackStepResult := { sourceOpId := step.opId, action, outcome := reply.1 }
      obtain ⟨added, last, ran, same, le, rebuilt⟩ := ih (results ++ [result]) reply.2
      have bound : store.made ≤ last.made := (runRollback_made action).trans le
      refine ⟨result :: added, last, ran.trans ?_, congrArg (action :: ·) same, bound, fun all => ?_⟩
      · rw [append_assoc]
        rfl
      · obtain ⟨newRoles, newChannels, rest⟩ := rebuilt fun result mem => all result (mem_cons_of_mem _ mem)
        exact rest.cons (all _ mem_cons_self) le

end

end Starring.Executor
