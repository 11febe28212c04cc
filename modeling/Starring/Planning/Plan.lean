import Starring.Foundation.Tables
import Starring.Planning.Decisions
import Starring.Planning.Operations

/-! What an operation graph holds: one operation for each change that is not a no-op,
each about its own target, and all of them exactly once in the topological order. -/

namespace Starring.Planning
open Foundation Table List

def Operation.target : Operation → DiffTarget
  | createRole key _ _ | updateRole key _ _ | deleteRole key => .role key
  | createChannel key _ _ _ | updateChannel key _ _ | deleteChannel key => .channel key
  | createOverwrite channel target _ _ | updateOverwrite channel target _ _ => .overwrite channel target

/-- The operation that a change of a target is compiled to, with the payload of the entry it finds. -/
inductive Compiles (desired : NormalizedDesiredState) : ChangeOp → DiffTarget → Operation → Prop where
  | createRole {key : ResourceKey} {role : NormalizedRole} (found : findRole desired key = .ok role) :
      Compiles desired .create (.role key) (.createRole key role.name role.permissions)
  | updateRole {key : ResourceKey} {role : NormalizedRole} (found : findRole desired key = .ok role) :
      Compiles desired .update (.role key) (.updateRole key role.name role.permissions)
  | deleteRole {key : ResourceKey} : Compiles desired .delete (.role key) (.deleteRole key)
  | createChannel {key : ResourceKey} {channel : NormalizedChannel} (found : findChannel desired key = .ok channel) :
      Compiles desired .create (.channel key)
        (.createChannel key channel.name channel.channelType channel.parent)
  | updateChannel {key : ResourceKey} {channel : NormalizedChannel} (found : findChannel desired key = .ok channel) :
      Compiles desired .update (.channel key) (.updateChannel key channel.name channel.channelType)
  | deleteChannel {key : ResourceKey} : Compiles desired .delete (.channel key) (.deleteChannel key)
  | createOverwrite {key : ResourceKey} {target : NormalizedTarget} {overwrite : NormalizedOverwrite}
      (found : findOverwrite desired key target = .ok overwrite) :
      Compiles desired .create (.overwrite key target) (.createOverwrite key target overwrite.allow overwrite.deny)
  | updateOverwrite {key : ResourceKey} {target : NormalizedTarget} {overwrite : NormalizedOverwrite}
      (found : findOverwrite desired key target = .ok overwrite) :
      Compiles desired .update (.overwrite key target) (.updateOverwrite key target overwrite.allow overwrite.deny)

section
variable {desired : NormalizedDesiredState} {operation : Operation} {symbols : List ResourceSymbol × List ResourceSymbol}

theorem payload_inv {α : Type} {found : Except OperationGraphError α}
    {make : α → Operation × List ResourceSymbol × List ResourceSymbol}
    (built : (do let payload ← found; return make payload) = .ok (operation, symbols)) :
    ∃ payload, found = .ok payload ∧ operation = (make payload).1 := by
  obtain ⟨payload, same, made⟩ := bind_eq_ok.mp built
  exact ⟨payload, same, (congrArg Prod.fst (Except.ok.inj made)).symm⟩

theorem buildOperation_compiles {change : DiffChange}
    (built : buildOperation desired change = .ok (operation, symbols)) :
    Compiles desired change.op change.target operation := by
  obtain ⟨op, target, changed⟩ := change
  cases op <;> cases target
  case create.role key =>
    obtain ⟨role, found, rfl⟩ := payload_inv built
    exact .createRole found
  case create.channel key =>
    obtain ⟨channel, found, rfl⟩ := payload_inv built
    exact .createChannel found
  case create.overwrite key target =>
    obtain ⟨overwrite, found, rfl⟩ := payload_inv built
    exact .createOverwrite found
  case update.role key =>
    obtain ⟨role, found, rfl⟩ := payload_inv built
    exact .updateRole found
  case update.channel key =>
    obtain ⟨channel, found, rfl⟩ := payload_inv built
    exact .updateChannel found
  case update.overwrite key target =>
    obtain ⟨overwrite, found, rfl⟩ := payload_inv built
    exact .updateOverwrite found
  case delete.role key =>
    cases built
    exact .deleteRole
  case delete.channel key =>
    cases built
    exact .deleteChannel
  all_goals cases built

theorem Compiles.target {op : ChangeOp} {target : DiffTarget} (compiles : Compiles desired op target operation) :
    operation.target = target := by
  cases compiles <;> rfl

end

/-- The operations of the changes, each in a node of its own. -/
structure Planned (desired : NormalizedDesiredState) (changes : List DiffChange) (nodes : List OperationNode) : Prop where
  ids : (nodes.map OperationNode.id).Nodup
  compiled : ∀ node ∈ nodes, ∃ change ∈ changes, Compiles desired change.op change.target node.operation
  covered : ∀ change ∈ changes, change.op ≠ .noOp →
    ∃ node ∈ nodes, Compiles desired change.op change.target node.operation
  targets : (nodes.map fun node => node.operation.target).Sublist (changes.map DiffChange.target)

section
variable {desired : NormalizedDesiredState}

variable {nodes : List OperationNode}

theorem buildNodes_planned {nextId : OpId} {changes : List DiffChange}
    (built : buildNodes desired nextId changes = .ok nodes) :
    Planned desired changes nodes ∧ ∀ node ∈ nodes, nextId ≤ node.id := by
  induction changes generalizing nextId nodes with
  | nil =>
    obtain rfl := Except.ok.inj built
    exact ⟨⟨nodup_nil, by simp, by simp, List.Sublist.refl _⟩, by simp⟩
  | cons change changes ih =>
    by_cases skipped : change.op = .noOp
    · rw [buildNodes, if_pos skipped] at built
      obtain ⟨planned, later⟩ := ih built
      refine ⟨⟨planned.ids, fun node mem => ?_, fun other mem acts => ?_, planned.targets.cons _⟩, later⟩
      · obtain ⟨source, inChanges, compiles⟩ := planned.compiled node mem
        exact ⟨source, mem_cons_of_mem _ inChanges, compiles⟩
      · obtain rfl | inChanges := mem_cons.mp mem
        · exact (acts skipped).elim
        · exact planned.covered other inChanges acts
    · rw [buildNodes, if_neg skipped, bind_eq_ok] at built
      obtain ⟨⟨operation, produces, consumes⟩, first, rest⟩ := built
      obtain ⟨tail, builtTail, made⟩ := bind_eq_ok.mp rest
      obtain rfl := Except.ok.inj made
      obtain ⟨planned, later⟩ := ih builtTail
      have compiles := buildOperation_compiles first
      refine ⟨⟨?_, fun node mem => ?_, fun other mem acts => ?_, ?_⟩, fun node mem => ?_⟩
      · refine nodup_cons.mpr ⟨fun clash => ?_, planned.ids⟩
        obtain ⟨node, mem, same⟩ := mem_map.mp clash
        have same : node.id = nextId := same
        exact Nat.not_succ_le_self nextId (same ▸ later node mem)
      · obtain rfl | inTail := mem_cons.mp mem
        · exact ⟨change, mem_cons_self, compiles⟩
        · obtain ⟨source, inChanges, compiles⟩ := planned.compiled node inTail
          exact ⟨source, mem_cons_of_mem _ inChanges, compiles⟩
      · obtain rfl | inChanges := mem_cons.mp mem
        · exact ⟨_, mem_cons_self, compiles⟩
        · obtain ⟨node, inTail, compiles⟩ := planned.covered other inChanges acts
          exact ⟨node, mem_cons_of_mem _ inTail, compiles⟩
      · rw [map_cons, map_cons, compiles.target]
        exact planned.targets.cons_cons _
      · obtain rfl | inTail := mem_cons.mp mem
        · exact Nat.le_refl _
        · exact Nat.le_of_succ_le (later node inTail)

theorem Planned.deriveDependencies {changes : List DiffChange} (planned : Planned desired changes nodes) :
    Planned desired changes (deriveDependencies nodes) := by
  refine ⟨?_, fun node mem => ?_, fun change mem acts => ?_, ?_⟩
  · rw [Planning.deriveDependencies, map_map]
    exact planned.ids
  · obtain ⟨source, inNodes, rfl⟩ := mem_map.mp mem
    exact planned.compiled source inNodes
  · obtain ⟨node, inNodes, compiles⟩ := planned.covered change mem acts
    exact ⟨_, mem_map_of_mem inNodes, compiles⟩
  · rw [Planning.deriveDependencies, map_map]
    exact planned.targets

variable {graph : OperationGraph}

theorem compileOperations_planned {result : DiffResult} (compiled : compileOperations desired result = .ok graph) :
    Planned desired result.changes graph.nodes := by
  rw [compileOperations, check_bind_eq_ok, bind_eq_ok] at compiled
  obtain ⟨-, nodes, built, rest⟩ := compiled
  obtain ⟨order, -, made⟩ := bind_eq_ok.mp rest
  obtain rfl := Except.ok.inj made
  exact (buildNodes_planned built).1.deriveDependencies

theorem compileOperations_ordered {result : DiffResult} (compiled : compileOperations desired result = .ok graph) :
    ∃ order, graph.topologicalOrder = .ok order := by
  rw [compileOperations, check_bind_eq_ok, bind_eq_ok] at compiled
  obtain ⟨-, nodes, -, rest⟩ := compiled
  obtain ⟨order, ordered, made⟩ := bind_eq_ok.mp rest
  obtain rfl := Except.ok.inj made
  exact ⟨order, ordered⟩

theorem findRole_eq_ok (wellFormed : WellFormed desired) (key : ResourceKey) (role : NormalizedRole) :
    findRole desired key = .ok role ↔ role ∈ desired.roles ∧ role.identity.key = key := by
  rw [findRole, orReject_eq_ok]
  exact lookup_eq_some_iff wellFormed.roleKeys key role

theorem findChannel_eq_ok (wellFormed : WellFormed desired) (key : ResourceKey) (channel : NormalizedChannel) :
    findChannel desired key = .ok channel ↔ channel ∈ desired.channels ∧ channel.identity.key = key := by
  rw [findChannel, orReject_eq_ok]
  exact lookup_eq_some_iff wellFormed.channelKeys key channel

theorem findOverwrite_eq_ok (wellFormed : WellFormed desired) (key : ResourceKey) (target : NormalizedTarget)
    (overwrite : NormalizedOverwrite) : findOverwrite desired key target = .ok overwrite ↔
      ∃ channel ∈ desired.channels, channel.identity.key = key ∧ overwrite ∈ channel.overwrites ∧
        overwrite.target = target := by
  rw [findOverwrite, bind_eq_ok]
  constructor
  · rintro ⟨channel, found, held⟩
    obtain ⟨mem, here⟩ := (findChannel_eq_ok wellFormed key channel).mp found
    rw [orReject_eq_ok] at held
    exact ⟨channel, mem, here, (lookup_eq_some_iff (wellFormed.targets channel mem) target overwrite).mp held⟩
  · rintro ⟨channel, mem, here, held⟩
    refine ⟨channel, (findChannel_eq_ok wellFormed key channel).mpr ⟨mem, here⟩, ?_⟩
    rw [orReject_eq_ok]
    exact (lookup_eq_some_iff (wellFormed.targets channel mem) target overwrite).mpr held

/-- The nodes of a graph in the order of their ids. -/
def OperationGraph.nodesOf (graph : OperationGraph) (order : List OpId) : List OperationNode :=
  order.filterMap fun id => graph.nodes.find? fun node => node.id = id

theorem OperationGraph.nodesOf_cons (graph : OperationGraph) (id : OpId) (order : List OpId) :
    graph.nodesOf (id :: order) = (graph.nodes.find? fun node => node.id = id).toList ++ graph.nodesOf order := by
  cases found : graph.nodes.find? fun node => node.id = id <;> simp [nodesOf, found]

theorem nodesOf_ids (distinct : (nodes.map OperationNode.id).Nodup) :
    OperationGraph.nodesOf ⟨nodes⟩ (nodes.map OperationNode.id) = nodes := by
  have found : ∀ node ∈ nodes, (nodes.find? fun other => other.id = node.id) = some node := fun node mem =>
    (lookup_eq_some_iff distinct node.id node).mpr ⟨mem, rfl⟩
  rw [OperationGraph.nodesOf, filterMap_map]
  exact (filterMap_congr found).trans filterMap_some

theorem topologicalOrder_ids (distinct : (graph.nodes.map OperationNode.id).Nodup) {order : List OpId}
    (ordered : graph.topologicalOrder = .ok order) : order.Perm (graph.nodes.map OperationNode.id) := by
  rw [OperationGraph.topologicalOrder, orReject_eq_ok] at ordered
  have ids : (graph.nodes.map fun node => { id := node.id, dependsOn := node.dependsOn : Kahn.Node OpId }).map
      Kahn.Node.id = graph.nodes.map OperationNode.id := map_map
  exact ids ▸ Kahn.topologicalOrder_perm (ids.symm ▸ distinct) ordered

theorem topologicalOrder_nodes (distinct : (graph.nodes.map OperationNode.id).Nodup) {order : List OpId}
    (ordered : graph.topologicalOrder = .ok order) : (graph.nodesOf order).Perm graph.nodes :=
  ((topologicalOrder_ids distinct ordered).filterMap _).trans (List.Perm.of_eq (nodesOf_ids distinct))

end

def Operation.produces : Operation → List ResourceSymbol
  | createRole key _ _ => [.role key]
  | createChannel key _ _ _ => [.channel key]
  | updateRole _ _ _ | deleteRole _ | updateChannel _ _ _ | deleteChannel _ | createOverwrite _ _ _ _
  | updateOverwrite _ _ _ _ => []

def Operation.consumes : Operation → List ResourceSymbol
  | createChannel _ _ _ parent => parent.toList.map .channel
  | createOverwrite channel target _ _ | updateOverwrite channel target _ _ => overwriteConsumes channel target
  | createRole _ _ _ | updateRole _ _ _ | deleteRole _ | updateChannel _ _ _ | deleteChannel _ => []

/-- The node states what its operation produces and consumes. -/
def OperationNode.Labelled (node : OperationNode) : Prop :=
  node.produces = node.operation.produces ∧ node.consumes = node.operation.consumes

section
variable {desired : NormalizedDesiredState} {operation : Operation} {produces consumes : List ResourceSymbol}

theorem payload_symbols {α : Type} {found : Except OperationGraphError α}
    {make : α → Operation × List ResourceSymbol × List ResourceSymbol}
    (built : (do let payload ← found; return make payload) = .ok (operation, produces, consumes))
    (labelled : ∀ payload, (make payload).2 = ((make payload).1.produces, (make payload).1.consumes)) :
    produces = operation.produces ∧ consumes = operation.consumes := by
  obtain ⟨payload, -, made⟩ := bind_eq_ok.mp built
  have same : make payload = (operation, produces, consumes) := Except.ok.inj made
  have symbols := labelled payload
  rw [same] at symbols
  exact Prod.mk.inj symbols

theorem buildOperation_symbols {change : DiffChange}
    (built : buildOperation desired change = .ok (operation, produces, consumes)) :
    produces = operation.produces ∧ consumes = operation.consumes := by
  obtain ⟨op, target, changed⟩ := change
  cases op <;> cases target
  case delete.role key => cases built; exact ⟨rfl, rfl⟩
  case delete.channel key => cases built; exact ⟨rfl, rfl⟩
  case delete.overwrite key target => cases built
  case noOp.role | noOp.channel | noOp.overwrite => cases built
  all_goals exact payload_symbols built fun _ => rfl

variable {nodes : List OperationNode}

theorem buildNodes_labelled {nextId : OpId} {changes : List DiffChange}
    (built : buildNodes desired nextId changes = .ok nodes) : ∀ node ∈ nodes, node.Labelled := by
  induction changes generalizing nextId nodes with
  | nil =>
    obtain rfl := Except.ok.inj built
    exact fun _ mem => (not_mem_nil mem).elim
  | cons change changes ih =>
    by_cases skipped : change.op = .noOp
    · rw [buildNodes, if_pos skipped] at built
      exact ih built
    · rw [buildNodes, if_neg skipped, bind_eq_ok] at built
      obtain ⟨⟨operation, produces, consumes⟩, first, rest⟩ := built
      obtain ⟨tail, builtTail, made⟩ := bind_eq_ok.mp rest
      obtain rfl := Except.ok.inj made
      intro node mem
      obtain rfl | inTail := mem_cons.mp mem
      · exact buildOperation_symbols first
      · exact ih builtTail node inTail

variable {symbol : ResourceSymbol} {source : OperationNode}

theorem producer_of_mem (mem : source ∈ nodes) (produced : symbol ∈ source.produces) :
    ∃ last ∈ nodes, symbol ∈ last.produces ∧ producer nodes symbol = some last.id := by
  cases found : nodes.reverse.find? fun node => symbol ∈ node.produces with
  | none =>
    have absent := find?_eq_none.mp found source (mem_reverse.mpr mem)
    exact (absent (decide_eq_true produced)).elim
  | some last =>
    have produced : symbol ∈ last.produces := by simpa using find?_some found
    exact ⟨last, mem_reverse.mp (mem_of_find?_eq_some found), produced, by rw [producer, found]; rfl⟩

variable {node : OperationNode}

theorem mem_deriveDependencies (mem : node ∈ deriveDependencies nodes) :
    ∃ source ∈ nodes, node.id = source.id ∧ node.operation = source.operation ∧
      ∀ dep, dep ∈ node.dependsOn ↔ dep ∈ source.consumes.filterMap (producer nodes) ∧ dep ≠ node.id := by
  obtain ⟨source, inNodes, rfl⟩ := mem_map.mp mem
  refine ⟨source, inNodes, rfl, rfl, fun dep => ?_⟩
  dsimp only
  rw [List.Pairwise.destutter_eq_dedup (pairwise_insertionSort (· ≤ ·) _), mem_dedup,
    mem_insertionSort, mem_filter, decide_eq_true_eq]

variable {graph : OperationGraph}

theorem compileOperations_waits {result : DiffResult} (compiled : compileOperations desired result = .ok graph)
    (mem : node ∈ graph.nodes) (inNodes : source ∈ graph.nodes) (consumed : symbol ∈ node.operation.consumes)
    (produced : symbol ∈ source.operation.produces) :
    ∃ last ∈ graph.nodes, symbol ∈ last.operation.produces ∧ (last.id ∈ node.dependsOn ∨ last.id = node.id) := by
  rw [compileOperations, check_bind_eq_ok, bind_eq_ok] at compiled
  obtain ⟨-, nodes, built, rest⟩ := compiled
  obtain ⟨order, -, made⟩ := bind_eq_ok.mp rest
  obtain rfl := Except.ok.inj made
  have labelled := buildNodes_labelled built
  obtain ⟨origin, inOrigins, sameId, sameOperation, depends⟩ := mem_deriveDependencies mem
  obtain ⟨maker, inMakers, -, makerOperation, -⟩ := mem_deriveDependencies inNodes
  rw [makerOperation, ← (labelled maker inMakers).1] at produced
  obtain ⟨last, inLast, makes, found⟩ := producer_of_mem inMakers produced
  refine ⟨_, mem_map_of_mem inLast, (labelled last inLast).1 ▸ makes, ?_⟩
  by_cases self : last.id = node.id
  · exact .inr self
  · refine .inl ((depends last.id).mpr ⟨mem_filterMap.mpr ⟨symbol, ?_, found⟩, self⟩)
    rw [(labelled origin inOrigins).2, ← sameOperation]
    exact consumed

variable {order : List OpId}

theorem nodesOf_map_id (known : ∀ id ∈ order, id ∈ graph.nodes.map OperationNode.id) :
    (graph.nodesOf order).map OperationNode.id = order := by
  induction order with
  | nil => rfl
  | cons id order ih =>
    rw [OperationGraph.nodesOf_cons, map_append, ih fun other mem => known other (mem_cons_of_mem _ mem)]
    obtain ⟨node, mem, rfl⟩ := mem_map.mp (known id mem_cons_self)
    cases found : graph.nodes.find? fun other => other.id = node.id with
    | none => exact (find?_eq_none.mp found node mem (decide_eq_true rfl)).elim
    | some other =>
      have same : other.id = node.id := by simpa using find?_some found
      rw [Option.toList_some, map_singleton, same, singleton_append]

theorem topologicalOrder_before (distinct : (graph.nodes.map OperationNode.id).Nodup)
    (ordered : graph.topologicalOrder = .ok order) {earlier later : List OperationNode}
    (split : graph.nodesOf order = earlier ++ node :: later) (inNodes : source ∈ graph.nodes)
    (waits : source.id ∈ node.dependsOn) : source ∈ earlier := by
  have perm := topologicalOrder_nodes distinct ordered
  rw [OperationGraph.topologicalOrder, orReject_eq_ok] at ordered
  have ids : (graph.nodes.map fun node => { id := node.id, dependsOn := node.dependsOn : Kahn.Node OpId }).map
      Kahn.Node.id = graph.nodes.map OperationNode.id := map_map
  have known : order.Perm (graph.nodes.map OperationNode.id) := by
    have same := Kahn.topologicalOrder_perm (ids.symm ▸ distinct) ordered
    rwa [ids] at same
  have inOrder : order = earlier.map OperationNode.id ++ node.id :: later.map OperationNode.id := by
    rw [← nodesOf_map_id fun id mem => known.mem_iff.mp mem, split, map_append, map_cons]
  have inGraph (other : OperationNode) (mem : other ∈ earlier ++ node :: later) : other ∈ graph.nodes :=
    perm.mem_iff.mp (split ▸ mem)
  have waiting : ({ id := node.id, dependsOn := node.dependsOn } : Kahn.Node OpId) ∈
      graph.nodes.map fun node => { id := node.id, dependsOn := node.dependsOn : Kahn.Node OpId } :=
    mem_map_of_mem (inGraph node (mem_append_right _ mem_cons_self))
  have before := Kahn.topologicalOrder_respects (ids.symm ▸ distinct) ordered _ _ _ inOrder _ waiting rfl source.id waits
  obtain ⟨other, inEarlier, same⟩ := mem_map.mp before
  obtain rfl := inj_on_of_nodup_map distinct (inGraph other (mem_append_left _ inEarlier)) inNodes same
  exact inEarlier

/-- The operations of a graph in the order in which they are carried out. -/
def OperationGraph.inOrder (graph : OperationGraph) (order : List OpId) : List Operation :=
  (graph.nodesOf order).map OperationNode.operation

theorem produced_before {result : DiffResult} (compiled : compileOperations desired result = .ok graph)
    (ordered : graph.topologicalOrder = .ok order) {earlier later : List Operation}
    (split : graph.inOrder order = earlier ++ operation :: later) (consumed : symbol ∈ operation.consumes)
    (other : symbol ∉ operation.produces) {maker : Operation} (mem : maker ∈ graph.inOrder order)
    (made : symbol ∈ maker.produces) : ∃ first ∈ earlier, symbol ∈ first.produces := by
  have distinct := (compileOperations_planned compiled).ids
  have perm := topologicalOrder_nodes distinct ordered
  obtain ⟨front, rest, nodes, rfl, tail⟩ := map_eq_append_iff.mp split
  obtain ⟨node, back, rfl, rfl, rfl⟩ := map_eq_cons_iff.mp tail
  obtain ⟨source, inOrder, rfl⟩ := mem_map.mp mem
  have inGraph : node ∈ graph.nodes := perm.mem_iff.mp (nodes ▸ mem_append_right _ mem_cons_self)
  obtain ⟨last, inNodes, makes, waits | self⟩ :=
    compileOperations_waits compiled inGraph (perm.mem_iff.mp inOrder) consumed made
  · exact ⟨_, mem_map_of_mem (topologicalOrder_before distinct ordered nodes inNodes waits), makes⟩
  · obtain rfl := inj_on_of_nodup_map distinct inNodes inGraph self
    exact (other makes).elim

end

end Starring.Planning
