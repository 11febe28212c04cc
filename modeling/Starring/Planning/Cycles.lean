import Starring.Planning.Order
import Starring.Planning.Plan

/-! When the compiler of diffs finds a cycle: exactly if the created channels have one through their
parents. A node never waits for itself, so a channel that is its own parent is not taken for one. -/

namespace Starring.Planning
open Foundation List Relation

section
variable (desired : NormalizedDesiredState) (diff : DiffResult)

def CreatesChannel (key : ResourceKey) : Prop :=
  ∃ change ∈ diff.changes, change.op = .create ∧ change.target = .channel key

/-- A created channel whose parent is created too. -/
structure CreatedUnder (key parent : ResourceKey) : Prop where
  created : CreatesChannel diff key
  parentCreated : CreatesChannel diff parent
  under : ∃ channel, findChannel desired key = .ok channel ∧ channel.parent = some parent

/-- Two channels each of which leads to the other by way of their parents. -/
def ParentCycle : Prop :=
  ∃ key other, key ≠ other ∧ TransGen (CreatedUnder desired diff) key other ∧
    TransGen (CreatedUnder desired diff) other key

/-- There is an operation for every change, with the payload it needs. -/
def HasPayloads : Prop :=
  ∀ change ∈ diff.changes, change.op ≠ .noOp → ∃ operation, Compiles desired change.op change.target operation

end

section
variable {desired : NormalizedDesiredState}

theorem Compiles.buildOperation {change : DiffChange} {operation : Operation}
    (compiles : Compiles desired change.op change.target operation) :
    buildOperation desired change = .ok (operation, operation.produces, operation.consumes) := by
  obtain ⟨op, target, changed⟩ := change
  cases compiles with
  | deleteRole | deleteChannel => rfl
  | createRole found | updateRole found | createChannel found | updateChannel found | createOverwrite found
  | updateOverwrite found =>
    simp only [Planning.buildOperation, found]
    rfl

theorem exists_buildNodes {changes : List DiffChange}
    (payloads : ∀ change ∈ changes, change.op ≠ .noOp → ∃ operation, Compiles desired change.op change.target operation)
    (nextId : OpId) : ∃ nodes, buildNodes desired nextId changes = .ok nodes := by
  induction changes generalizing nextId with
  | nil => exact ⟨[], rfl⟩
  | cons change changes ih =>
    have later := ih fun other mem => payloads other (mem_cons_of_mem _ mem)
    by_cases skipped : change.op = .noOp
    · rw [buildNodes, if_pos skipped]
      exact later nextId
    · obtain ⟨operation, compiles⟩ := payloads change mem_cons_self skipped
      obtain ⟨nodes, built⟩ := later (nextId + 1)
      refine ⟨⟨nextId, operation, operation.produces, operation.consumes, []⟩ :: nodes, ?_⟩
      rw [buildNodes, if_neg skipped, compiles.buildOperation]
      exact bind_eq_ok.mpr ⟨_, rfl, bind_eq_ok.mpr ⟨nodes, built, rfl⟩⟩

end

theorem producer_inv {nodes : List OperationNode} {symbol : ResourceSymbol} {id : OpId}
    (found : producer nodes symbol = some id) : ∃ node ∈ nodes, node.id = id ∧ symbol ∈ node.produces := by
  obtain ⟨node, last, same⟩ := Option.map_eq_some_iff.mp found
  exact ⟨node, mem_reverse.mp (mem_of_find?_eq_some last), same, by simpa using find?_some last⟩

theorem Operation.channel_mem_produces {operation : Operation} {key : ResourceKey} :
    .channel key ∈ operation.produces ↔ ∃ name channelType parent, operation = .createChannel key name channelType parent := by
  cases operation <;> simp [Operation.produces, eq_comm]

/-- Of the operations that produce something only those of channels consume something. -/
theorem Operation.produces_consumes {operation : Operation} {made needed : ResourceSymbol}
    (produced : made ∈ operation.produces) (consumed : needed ∈ operation.consumes) :
    ∃ key name channelType parent, operation = .createChannel key name channelType parent := by
  cases operation with
  | createChannel key name channelType parent => exact ⟨key, name, channelType, parent, rfl⟩
  | createRole | updateRole | deleteRole | updateChannel | deleteChannel => cases consumed
  | createOverwrite | updateOverwrite => cases produced

/-- The graph whose order the compiler asks for. -/
abbrev derived (nodes : List OperationNode) : OperationGraph := ⟨deriveDependencies nodes⟩

/-- The nodes of a diff before the dependencies are derived. -/
structure Built (desired : NormalizedDesiredState) (diff : DiffResult) (nodes : List OperationNode) : Prop where
  planned : Planned desired diff.changes nodes
  labelled : ∀ node ∈ nodes, node.Labelled

namespace Built
variable {desired : NormalizedDesiredState} {diff : DiffResult} {nodes : List OperationNode}
  (built : Built desired diff nodes)
include built

variable {node : OperationNode}

theorem node_ext {other : OperationNode} (mem : node ∈ nodes) (inNodes : other ∈ nodes) (same : node.id = other.id) :
    node = other :=
  inj_on_of_nodup_map built.planned.ids mem inNodes same

variable {key : ResourceKey}

theorem created (mem : node ∈ nodes) (produced : .channel key ∈ node.produces) :
    CreatesChannel diff key ∧ ∃ channel, findChannel desired key = .ok channel ∧
      node.consumes = channel.parent.toList.map .channel := by
  have labels := built.labelled node mem
  obtain ⟨name, channelType, parent, made⟩ := Operation.channel_mem_produces.mp (labels.1 ▸ produced)
  obtain ⟨change, inChanges, compiles⟩ := built.planned.compiled node mem
  rw [made] at compiles
  rw [labels.2, made]
  generalize kind : change.op = op, about : change.target = target at compiles
  cases compiles with
  | createChannel found => exact ⟨⟨change, inChanges, kind, about⟩, _, found, rfl⟩

theorem producer_of_created (creates : CreatesChannel diff key) :
    ∃ node ∈ nodes, producer nodes (.channel key) = some node.id ∧ .channel key ∈ node.produces := by
  obtain ⟨change, mem, create, about⟩ := creates
  obtain ⟨node, inNodes, compiles⟩ := built.planned.covered change mem (by rw [create]; decide)
  rw [create, about] at compiles
  have produced : .channel key ∈ node.produces := by
    rw [(built.labelled node inNodes).1]
    generalize node.operation = operation at compiles
    cases compiles with
    | createChannel found => exact mem_singleton.mpr rfl
  obtain ⟨last, inLast, makes, found⟩ := producer_of_mem inNodes produced
  exact ⟨last, inLast, found, makes⟩

theorem channel_unique {other : ResourceKey} (mem : node ∈ nodes) (produced : .channel key ∈ node.produces)
    (also : .channel other ∈ node.produces) : key = other := by
  rw [(built.labelled node mem).1] at produced also
  obtain ⟨name, channelType, parent, made⟩ := Operation.channel_mem_produces.mp produced
  rw [made] at also
  exact (ResourceSymbol.channel.inj (mem_singleton.mp also)).symm

variable {id dependency : OpId}

theorem depends_iff : (derived nodes).Depends id dependency ↔
    ∃ node ∈ nodes, node.id = id ∧ dependency ≠ id ∧ ∃ symbol ∈ node.consumes, producer nodes symbol = some dependency := by
  constructor
  · intro depends
    obtain ⟨node, mem, rfl, mentioned⟩ := depends
    obtain ⟨source, inNodes, same, -, exact⟩ := mem_deriveDependencies mem
    obtain ⟨found, other⟩ := (exact dependency).mp mentioned
    exact ⟨source, inNodes, same.symm, other, mem_filterMap.mp found⟩
  · intro waits
    obtain ⟨node, mem, rfl, other, found⟩ := waits
    have derived : _ ∈ deriveDependencies nodes := mem_map_of_mem mem
    obtain ⟨source, inNodes, same, -, exact⟩ := mem_deriveDependencies derived
    obtain rfl := built.node_ext mem inNodes same
    exact ⟨_, derived, same, (exact dependency).mpr ⟨mem_filterMap.mpr found, other⟩⟩

/-- The node that stands for a created channel. -/
def nodeOf (nodes : List OperationNode) (key : ResourceKey) : OpId := (producer nodes (.channel key)).getD 0

theorem depends_of_createdUnder {parent : ResourceKey} (under : CreatedUnder desired diff key parent) :
    ReflTransGen (derived nodes).Depends (nodeOf nodes key) (nodeOf nodes parent) := by
  obtain ⟨node, mem, found, produced⟩ := built.producer_of_created under.created
  obtain ⟨above, inNodes, foundAbove, producedAbove⟩ := built.producer_of_created under.parentCreated
  rw [nodeOf, nodeOf, found, foundAbove]
  by_cases same : above.id = node.id
  · rw [Option.getD_some, Option.getD_some, same]
  · obtain ⟨-, channel, payload, consumes⟩ := built.created mem produced
    obtain ⟨entry, sameEntry, isParent⟩ := under.under
    obtain rfl := Except.ok.inj (payload.symm.trans sameEntry)
    refine .single (built.depends_iff.mpr ⟨node, mem, rfl, same, .channel parent, ?_, foundAbove⟩)
    rw [consumes, isParent]
    exact mem_singleton.mpr rfl

theorem nodeOf_ne {other : ResourceKey} (creates : CreatesChannel diff key) (createsOther : CreatesChannel diff other)
    (different : key ≠ other) : nodeOf nodes key ≠ nodeOf nodes other := by
  obtain ⟨node, mem, found, produced⟩ := built.producer_of_created creates
  obtain ⟨second, inNodes, foundSecond, producedSecond⟩ := built.producer_of_created createsOther
  rw [nodeOf, nodeOf, found, foundSecond]
  intro same
  obtain rfl := built.node_ext mem inNodes same
  exact different (built.channel_unique mem produced producedSecond)

theorem cyclic_of_parentCycle (cycle : ParentCycle desired diff) :
    ∃ id, TransGen (derived nodes).Depends id id := by
  obtain ⟨key, other, different, there, back⟩ := cycle
  have created {first second : ResourceKey} (leads : TransGen (CreatedUnder desired diff) first second) :
      CreatesChannel diff first := by
    obtain ⟨next, under, -⟩ := TransGen.head'_iff.mp leads
    exact under.created
  have path {first second : ResourceKey} (leads : TransGen (CreatedUnder desired diff) first second) :
      ReflTransGen (derived nodes).Depends (nodeOf nodes first)
        (nodeOf nodes second) :=
    leads.to_reflTransGen.lift' (nodeOf nodes) fun _ _ under => built.depends_of_createdUnder under
  have forward := (reflTransGen_iff_eq_or_transGen.mp (path there)).resolve_left
    (built.nodeOf_ne (created back) (created there) different.symm)
  exact ⟨nodeOf nodes key, forward.trans_left (path back)⟩

/-- What the node of a channel depends on is the node of another channel, its parent. -/
theorem createdUnder_of_depends (found : producer nodes (.channel key) = some id)
    (depends : (derived nodes).Depends id dependency) :
    ∃ parent, producer nodes (.channel parent) = some dependency ∧ CreatedUnder desired diff key parent ∧ key ≠ parent := by
  obtain ⟨source, inNodes, same, other, symbol, consumed, foundAbove⟩ := built.depends_iff.mp depends
  obtain ⟨node, mem, rfl, produced⟩ := producer_inv found
  obtain rfl := built.node_ext inNodes mem same
  obtain ⟨above, inAbove, rfl, producedAbove⟩ := producer_inv foundAbove
  obtain ⟨creates, channel, payload, consumes⟩ := built.created mem produced
  rw [consumes] at consumed
  obtain ⟨parent, isParent, rfl⟩ := mem_map.mp consumed
  refine ⟨parent, foundAbove,
    ⟨creates, (built.created inAbove producedAbove).1, channel, payload, Option.mem_toList.mp isParent⟩, ?_⟩
  intro self
  rw [self, foundAbove] at found
  exact other (Option.some.inj found)

theorem transGen_of_depends (found : producer nodes (.channel key) = some id)
    (depends : TransGen (derived nodes).Depends id dependency) :
    ∃ above, producer nodes (.channel above) = some dependency ∧
      TransGen (fun first second => CreatedUnder desired diff first second ∧ first ≠ second) key above := by
  induction depends with
  | single depends =>
    obtain ⟨parent, foundParent, under⟩ := built.createdUnder_of_depends found depends
    exact ⟨parent, foundParent, .single under⟩
  | tail _ depends ih =>
    obtain ⟨above, foundAbove, leads⟩ := ih
    obtain ⟨parent, foundParent, under⟩ := built.createdUnder_of_depends foundAbove depends
    exact ⟨parent, foundParent, leads.tail under⟩

theorem channel_of_cyclic (cycle : TransGen (derived nodes).Depends id id) :
    ∃ key, producer nodes (.channel key) = some id := by
  obtain ⟨_, first, _⟩ := TransGen.head'_iff.mp cycle
  obtain ⟨_, _, last⟩ := TransGen.tail'_iff.mp cycle
  obtain ⟨source, inSources, sameSource, -, needed, consumed, -⟩ := built.depends_iff.mp first
  obtain ⟨_, -, -, -, made, -, found⟩ := built.depends_iff.mp last
  obtain ⟨node, mem, rfl, produced⟩ := producer_inv found
  obtain rfl := built.node_ext inSources mem sameSource
  rw [(built.labelled source mem).1] at produced
  rw [(built.labelled source mem).2] at consumed
  obtain ⟨key, name, channelType, parent, creates⟩ := Operation.produces_consumes produced consumed
  rw [creates] at produced
  obtain rfl := mem_singleton.mp produced
  exact ⟨key, found⟩

theorem parentCycle_of_cyclic (cycle : TransGen (derived nodes).Depends id id) : ParentCycle desired diff := by
  obtain ⟨key, found⟩ := built.channel_of_cyclic cycle
  obtain ⟨above, foundAbove, leads⟩ := built.transGen_of_depends found cycle
  obtain ⟨node, mem, same, produced⟩ := producer_inv found
  obtain ⟨other, inNodes, sameOther, producedAbove⟩ := producer_inv foundAbove
  obtain rfl := built.node_ext mem inNodes (same.trans sameOther.symm)
  obtain rfl := built.channel_unique mem produced producedAbove
  obtain ⟨next, ⟨under, different⟩, back⟩ := TransGen.head'_iff.mp leads
  have back := (reflTransGen_iff_eq_or_transGen.mp back).resolve_left different
  exact ⟨key, next, different, .single under, back.lift (·) fun _ _ step => step.1⟩

theorem depends_known (depends : (derived nodes).Depends id dependency) : dependency ∈ (derived nodes).ids := by
  obtain ⟨_, -, -, -, symbol, -, found⟩ := built.depends_iff.mp depends
  obtain ⟨node, mem, rfl, -⟩ := producer_inv found
  exact mem_map.mpr ⟨_, mem_map_of_mem mem, rfl⟩

theorem exists_order : (∃ order, (derived nodes).topologicalOrder = .ok order) ↔
    ¬ParentCycle desired diff := by
  have distinct : (derived nodes).ids.Nodup := built.planned.deriveDependencies.ids
  rw [OperationGraph.exists_topologicalOrder distinct]
  constructor
  · intro ordered cycle
    obtain ⟨id, leads⟩ := built.cyclic_of_parentCycle cycle
    exact ordered.2 id leads
  · intro none
    exact ⟨fun _ _ => built.depends_known, fun id leads => none (built.parentCycle_of_cyclic leads)⟩

end Built

section
variable {desired : NormalizedDesiredState} {diff : DiffResult}

theorem buildNodes_built {nodes : List OperationNode} (built : buildNodes desired 0 diff.changes = .ok nodes) :
    Built desired diff nodes :=
  ⟨(buildNodes_planned built).1, buildNodes_labelled built⟩

theorem compileOperations_of_built (settled : diff.conflicts = []) {nodes : List OperationNode}
    (built : buildNodes desired 0 diff.changes = .ok nodes) : compileOperations desired diff = (do
      let _ ← (derived nodes).topologicalOrder
      return ⟨deriveDependencies nodes⟩) := by
  rw [compileOperations, built, settled]
  rfl

theorem topologicalOrder_error {graph : OperationGraph} (unordered : ¬∃ order, graph.topologicalOrder = .ok order) :
    graph.topologicalOrder = .error .dependencyCycle := by
  cases ordered : graph.topologicalOrder with
  | ok order => exact (unordered ⟨order, ordered⟩).elim
  | error error =>
    obtain ⟨-, rfl⟩ := orReject_eq_error.mp ordered
    rfl

end

/-- Channels that name a parent each, and nothing else. -/
def nested (channels : List (String × String)) : NormalizedDesiredState where
  mode := .patch
  scope := none
  roles := []
  channels := channels.map fun (key, parent) =>
    { identity := { key := ⟨key⟩, matchBy := .byName, ownership := .managed, state := .present }
      name := some key, channelType := none, parent := some ⟨parent⟩, overwrites := [] }
  verificationPanels := []

def creation (target : DiffTarget) : DiffChange := { op := .create, target, changed := [] }

end Starring.Planning
