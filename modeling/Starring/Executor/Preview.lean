import Starring.Executor.Store
import Starring.Planning.Relabelling

/-! What a preview shows is what an execution does. Against a guild that refuses
nothing the executor goes through the same worlds as a dry run, only with the ids that
the guild gives out. -/

namespace Starring.Executor
open Foundation Planning List Option ResourceResolutionContext

/-- No call is refused. -/
def obliging (_ : Nat) (_ : Bool) : Option AdapterError := none

def worldOf (context : ResourceResolutionContext) (store : Store) : World :=
  { guild := store.guild, names := context.names }

/-- The step has succeeded, and the world has moved on. -/
structure Advances (opId : OpId) (operation : Operation) (context : ResourceResolutionContext) (store : Store)
    (next : World) (progress : Progress Store) : Prop where
  opId : progress.step.opId = opId
  success : progress.step.outcome = .success
  world : worldOf progress.context progress.adapter = next
  guildId : progress.context.guildId = context.guildId
  made : progress.adapter.made = store.made + operation.creates.toNat

section
variable {ids : Nat → UInt64} {snapshot : GuildState} {guild : GuildId} {opId : OpId}
  {context : ResourceResolutionContext} {store : Store} {next : World}

theorem advances_putOverwrite {operation : Operation} (keeps : operation.creates = false) {channel : ResourceKey}
    {target : NormalizedTarget} {allow deny : Permissions} (home : context.guildId = store.guild.guild.id)
    (moved : (worldOf context store).putOverwrite channel target allow deny = some next) :
    Advances opId operation context store next
      (runOverwrite opId (guildStore ids obliging) snapshot guild channel target allow deny context store) := by
  obtain ⟨id, denoted, rest⟩ := bind_eq_some_iff.mp moved
  obtain ⟨wanted, meant, made⟩ := bind_eq_some_iff.mp rest
  obtain rfl := Option.some.inj made
  obtain ⟨middle, resolved⟩ := resolveChannelKey_of_names denoted
  obtain ⟨-, alike⟩ := resolveChannelKey_names resolved
  have here : middle.names.target middle.guildId target = some wanted := by
    rw [alike.1, alike.2, home]
    exact meant
  obtain ⟨last, targeted⟩ := resolveTarget_of_names here
  obtain ⟨-, alikeLast⟩ := resolveTarget_names targeted
  have names : last.names = context.names := alikeLast.1.trans alike.1
  simp only [runOverwrite, resolved, resolving, targeted]
  refine ⟨rfl, rfl, ?_, alikeLast.2.trans alike.2, by rw [keeps]; rfl⟩
  exact congrArg (World.mk _) names

theorem advances {operation : Operation} (home : context.guildId = store.guild.guild.id)
    (distinct : ∀ key name channelType, operation ≠ .createChannel key name channelType (some key))
    (moved : (worldOf context store).step (ids store.made) operation = some next) :
    Advances opId operation context store next
      (runOp opId (guildStore ids obliging) snapshot guild operation context store) := by
  cases operation with
  | createRole key name permissions =>
    obtain rfl := Option.some.inj moved
    refine ⟨rfl, rfl, ?_, rfl, rfl⟩
    exact congrArg (World.mk _) (context.bindRole_names key ⟨ids store.made⟩)
  | updateRole key name permissions | deleteRole key =>
    obtain ⟨id, denoted, made⟩ := bind_eq_some_iff.mp moved
    obtain rfl := Option.some.inj made
    obtain ⟨middle, resolved⟩ := resolveRoleKey_of_names denoted
    obtain ⟨-, alike⟩ := resolveRoleKey_names resolved
    simp only [runOp, resolved, resolving]
    exact ⟨rfl, rfl, congrArg (World.mk _) alike.1, alike.2, rfl⟩
  | createChannel key name channelType parent =>
    obtain ⟨parentId, denoted, made⟩ := bind_eq_some_iff.mp moved
    obtain rfl := Option.some.inj made
    cases parent with
    | none =>
      obtain rfl := Option.some.inj denoted
      refine ⟨rfl, rfl, ?_, rfl, rfl⟩
      exact congrArg (World.mk _) (context.bindChannel_names key ⟨ids store.made⟩)
    | some parent =>
      have other : parent ≠ key := fun same => distinct key name channelType (same ▸ rfl)
      obtain ⟨id, found, rfl⟩ := map_eq_some_iff.mp denoted
      have before : context.names.channel parent = some id := by
        simpa [Names.bindChannel, other, worldOf] using found
      obtain ⟨middle, resolved⟩ := resolveChannelKey_of_names before
      obtain ⟨-, alike⟩ := resolveChannelKey_names resolved
      simp only [runOp, resolved, resolving]
      refine ⟨rfl, rfl, ?_, alike.2, rfl⟩
      have names : (middle.bindChannel key ⟨ids store.made⟩).names = context.names.bindChannel key ⟨ids store.made⟩ := by
        rw [bindChannel_names, alike.1]
      exact congrArg (World.mk _) names
  | updateChannel key name channelType | deleteChannel key =>
    obtain ⟨id, denoted, made⟩ := bind_eq_some_iff.mp moved
    obtain rfl := Option.some.inj made
    obtain ⟨middle, resolved⟩ := resolveChannelKey_of_names denoted
    obtain ⟨-, alike⟩ := resolveChannelKey_names resolved
    simp only [runOp, resolved, resolving]
    exact ⟨rfl, rfl, congrArg (World.mk _) alike.1, alike.2, rfl⟩
  | createOverwrite channel target allow deny | updateOverwrite channel target allow deny =>
    exact advances_putOverwrite rfl home moved

theorem advances_all {request : ApprovedExecutionRequest} {nodes : List OperationNode} (job : Job Store) {last : World}
    (running : job.stopped = false) (home : job.context.guildId = job.adapter.guild.guild.id)
    (distinct : ∀ node ∈ nodes, ∀ key name channelType, node.operation ≠ .createChannel key name channelType (some key))
    (moved : (worldOf job.context job.adapter).run ids job.adapter.made (nodes.map OperationNode.operation) = some last) :
    ∃ done, nodes.foldl (runNode (guildStore ids obliging) request) job = done ∧ done.stopped = false ∧
      done.steps.map StepResult.opId = job.steps.map StepResult.opId ++ nodes.map OperationNode.id ∧
      (∀ step ∈ done.steps, step ∈ job.steps ∨ step.outcome = .success) ∧ done.adapter.guild = last.guild := by
  induction nodes generalizing job with
  | nil =>
    obtain rfl := Option.some.inj moved
    exact ⟨job, rfl, running, (append_nil _).symm, fun _ mem => .inl mem, rfl⟩
  | cons node nodes ih =>
    obtain ⟨next, first, rest⟩ := bind_eq_some_iff.mp moved
    let progress := runOp node.id (guildStore ids obliging) request.snapshot request.guildId node.operation job.context
      job.adapter
    have ahead : Advances node.id node.operation job.context job.adapter next progress :=
      advances home (distinct node mem_cons_self) first
    let stepped : Job Store :=
      { steps := job.steps ++ [progress.step], stopped := false, context := progress.context
        adapter := progress.adapter }
    have ran : runNode (guildStore ids obliging) request job node = stepped := by
      simp only [runNode, running, stepped, progress, ahead.success]
      rfl
    have homeNext : progress.context.guildId = progress.adapter.guild.guild.id := by
      have kept := (World.step_names _ first).2
      rw [ahead.guildId, home, ← show next.guild = progress.adapter.guild from congrArg World.guild ahead.world.symm, kept]
      rfl
    have movedNext : (worldOf progress.context progress.adapter).run ids progress.adapter.made
        (nodes.map OperationNode.operation) = some last := by
      rw [ahead.world, ahead.made]
      exact rest
    rw [foldl_cons, ran]
    obtain ⟨done, runs, on, opIds, successes, guild⟩ :=
      ih stepped rfl homeNext (fun other mem => distinct other (mem_cons_of_mem _ mem)) movedNext
    refine ⟨done, runs, on, ?_, fun step mem => ?_, guild⟩
    · rw [opIds, map_append, map_singleton, ahead.opId, append_assoc]
      rfl
    · obtain old | success := successes step mem
      · obtain older | here := mem_append.mp old
        · exact .inl older
        · exact .inr (mem_singleton.mp here ▸ ahead.success)
      · exact .inr success

end

/-- An execution does what the preview shows, up to the ids of what is created. -/
theorem execution_agrees {desired normalized : NormalizedDesiredState} {changes : DiffResult} {graph : OperationGraph}
    {order : List OpId} {snapshot : GuildState} {result : VirtualApplyResult} {approval : ApprovalRequest}
    {ids : Nat → UInt64} (compiled : compileOperations desired changes = .ok graph)
    (ordered : graph.topologicalOrder = .ok order)
    (distinct : ∀ node ∈ graph.nodes, ∀ key name channelType,
      node.operation ≠ .createChannel key name channelType (some key))
    (previewed : apply snapshot graph normalized (inMemoryMatchResolver snapshot) = .ok result)
    (approved : approval.canExecute = true) (fresh : Fresh snapshot ids (graph.inOrder order))
    (synthetic : Fresh snapshot (syntheticIds snapshot) (graph.inOrder order)) :
    ∃ steps store, execute (guildStore ids obliging)
        { operationGraph := graph, normalized, approval, snapshot, guildId := snapshot.guild.id }
        { guild := snapshot, calls := 0, made := 0 } = (.ok { status := .succeeded, steps }, store) ∧
      steps.map StepResult.opId = order ∧ order.Perm (graph.nodes.map OperationNode.id) ∧
      (∀ step ∈ steps, step.outcome = .success) ∧
      ∃ relabel : Renaming, relabel.Keeps snapshot ∧ store.guild = result.after.rename relabel := by
  have nodeIds := (compileOperations_planned compiled).ids
  have orderIds := topologicalOrder_ids nodeIds ordered
  obtain ⟨last, ran, rfl⟩ := (apply_eq_ok ordered _ result).mp previewed
  obtain ⟨relabel, keeps, sends⟩ := synthetic.exists_renaming fresh
  let first : World := { guild := snapshot, names := firstNames snapshot normalized }
  have dry : first.run (syntheticIds snapshot) 0 (graph.inOrder order) = some last.world :=
    foldlM_runNode_world rfl (UInt64.add_zero _).symm ran
  have kept : first.rename relabel = first := by
    rw [World.rename, keeps.rename, firstNames_rename keeps]
  have live : first.run ids 0 (graph.inOrder order) = some (last.world.rename relabel) := by
    have renamed := World.run_rename first keeps.everyone sends
    rw [kept, dry] at renamed
    exact renamed
  let request : ApprovedExecutionRequest :=
    { operationGraph := graph, normalized, approval, snapshot, guildId := snapshot.guild.id }
  obtain ⟨job, jobRan, executed⟩ := execute_eq (guildStore ids obliging) request approved ordered
    { guild := snapshot, calls := 0, made := 0 }
  obtain ⟨done, doneRan, running, opIds, successes, guild⟩ := advances_all
    { steps := [], stopped := false, context := .new normalized (inMemoryMatchResolver snapshot) snapshot.guild.id
      adapter := { guild := snapshot, calls := 0, made := 0 } } rfl rfl
    (fun node mem => distinct node ((topologicalOrder_nodes nodeIds ordered).mem_iff.mp mem)) live
  obtain rfl : done = job := doneRan.symm.trans jobRan
  refine ⟨done.steps, done.adapter, ?_, ?_, orderIds, fun step mem => ?_, relabel, keeps, guild⟩
  · rw [running] at executed
    exact executed
  · rw [opIds]
    exact nodesOf_map_id fun id mem => orderIds.mem_iff.mp mem
  · exact (successes step mem).resolve_left (not_mem_nil)

namespace Stale

def identity (key : String) : Identity :=
  { key := ⟨key⟩, matchBy := .byName, ownership := .managed, state := .present }

def normalized : NormalizedDesiredState :=
  { mode := .patch, scope := none
    roles := [{ identity := identity "helper", name := some "Helper", permissions := none }]
    channels := [{
      identity := identity "hall", name := some "hall", channelType := none, parent := none
      overwrites := [{ target := .role ⟨"helper"⟩, allow := .viewChannel, deny := .empty }] }]
    verificationPanels := [] }

/-- The channel has an overwrite for a role that is gone. -/
def guild (gone : UInt64) : GuildState :=
  { guild := { id := ⟨1⟩, name := "guild", ownerId := ⟨2⟩ }, roles := []
    channels := [{
      id := ⟨10⟩, name := "hall", channelType := .text, parentId := none, position := 0
      overwrites := [{ target := .role ⟨gone⟩, allow := .empty, deny := .viewChannel }] }]
    members := [] }

def ids (made : Nat) : UInt64 := 100 + UInt64.ofNat made

def approval : ApprovalRequest := { verdict := .allow, requiredApprovals := 0, approvals := [], rejection := none }

def request (gone : UInt64) (graph : OperationGraph) : ApprovedExecutionRequest :=
  { operationGraph := graph, normalized, approval, snapshot := guild gone, guildId := ⟨1⟩ }

end Stale

theorem stale_agrees :
    ∃ graph result steps store relabel,
      compileOperations Stale.normalized (diff Stale.normalized (inMemoryMatchResolver (Stale.guild 5))) = .ok graph ∧
      apply (Stale.guild 5) graph Stale.normalized (inMemoryMatchResolver (Stale.guild 5)) = .ok result ∧
      execute (guildStore Stale.ids obliging) (Stale.request 5 graph) { guild := Stale.guild 5, calls := 0, made := 0 } =
        (.ok { status := .succeeded, steps }, store) ∧
      store.guild = result.after.rename relabel := by
  obtain ⟨graph, compiled, checked⟩ := exists_ok_of_any
    (compileOperations Stale.normalized (diff Stale.normalized (inMemoryMatchResolver (Stale.guild 5))))
    (fun graph => (∀ node ∈ graph.nodes, node.operation.makesChannel = false) ∧
      (apply (Stale.guild 5) graph Stale.normalized (inMemoryMatchResolver (Stale.guild 5))).toOption.any (fun _ => true) ∧
      graph.topologicalOrder.toOption.any fun order =>
        Fresh (Stale.guild 5) Stale.ids (graph.inOrder order) ∧
          Fresh (Stale.guild 5) (syntheticIds (Stale.guild 5)) (graph.inOrder order))
    (by decide +kernel)
  obtain ⟨kinds, any, more⟩ := of_decide_eq_true checked
  obtain ⟨result, previewed, -⟩ := exists_ok_of_any _ _ any
  obtain ⟨order, ordered, supplies⟩ := exists_ok_of_any _ _ more
  obtain ⟨fresh, synthetic⟩ := of_decide_eq_true supplies
  have distinct : ∀ node ∈ graph.nodes, ∀ key name channelType,
      node.operation ≠ .createChannel key name channelType (some key) := by
    intro node mem key name channelType same
    have other := kinds node mem
    rw [same] at other
    cases other
  have approved : Stale.approval.canExecute = true := rfl
  obtain ⟨steps, store, executed, -, -, -, relabel, -, same⟩ :=
    execution_agrees compiled ordered distinct previewed approved fresh synthetic
  exact ⟨graph, result, steps, store, relabel, compiled, previewed, executed, same⟩

def overwriteCounts (state : GuildState) : List Nat := state.channels.map fun channel => channel.overwrites.length

theorem overwriteCounts_rename (relabel : Renaming) (state : GuildState) :
    overwriteCounts (state.rename relabel) = overwriteCounts state := by
  simp [overwriteCounts, GuildState.rename, Channel.rename]

/-- The dry run gives the new role the id of the old overwrite, which it then replaces; the execution
leaves the old overwrite. -/
theorem stale_differs :
    ∃ graph order result job store,
      compileOperations Stale.normalized (diff Stale.normalized (inMemoryMatchResolver (Stale.guild 11))) = .ok graph ∧
      graph.topologicalOrder = .ok order ∧ Fresh (Stale.guild 11) Stale.ids (graph.inOrder order) ∧
      (∀ node ∈ graph.nodes, node.operation.makesChannel = false) ∧ Stale.approval.canExecute = true ∧
      apply (Stale.guild 11) graph Stale.normalized (inMemoryMatchResolver (Stale.guild 11)) = .ok result ∧
      execute (guildStore Stale.ids obliging) (Stale.request 11 graph)
        { guild := Stale.guild 11, calls := 0, made := 0 } = (.ok job, store) ∧
      ∀ relabel, store.guild ≠ result.after.rename relabel := by
  obtain ⟨graph, compiled, checked⟩ := exists_ok_of_any
    (compileOperations Stale.normalized (diff Stale.normalized (inMemoryMatchResolver (Stale.guild 11))))
    (fun graph => (∀ node ∈ graph.nodes, node.operation.makesChannel = false) ∧
      ((apply (Stale.guild 11) graph Stale.normalized (inMemoryMatchResolver (Stale.guild 11))).toOption.any
        fun result => overwriteCounts result.after = [1]) ∧
      ((execute (guildStore Stale.ids obliging) (Stale.request 11 graph)
        { guild := Stale.guild 11, calls := 0, made := 0 }).1.toOption.any fun _ => true) ∧
      overwriteCounts (execute (guildStore Stale.ids obliging) (Stale.request 11 graph)
        { guild := Stale.guild 11, calls := 0, made := 0 }).2.guild = [2] ∧
      graph.topologicalOrder.toOption.any fun order => Fresh (Stale.guild 11) Stale.ids (graph.inOrder order))
    (by decide +kernel)
  obtain ⟨kinds, previewed, executed, two, more⟩ := of_decide_eq_true checked
  obtain ⟨result, applied, one⟩ := exists_ok_of_any _ _ previewed
  obtain ⟨job, ran, -⟩ := exists_ok_of_any _ _ executed
  obtain ⟨order, ordered, fresh⟩ := exists_ok_of_any _ _ more
  refine ⟨graph, order, result, job, _, compiled, ordered, of_decide_eq_true fresh, kinds, rfl, applied,
    Prod.ext ran rfl, fun relabel same => ?_⟩
  rw [same, overwriteCounts_rename, of_decide_eq_true one] at two
  cases two

end Starring.Executor
