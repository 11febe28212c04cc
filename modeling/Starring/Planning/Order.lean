import Starring.Planning.Operations

/-! The order in which the operations of a graph are carried out: it exists exactly for graphs without
cycles, and it is the smallest one in which every node follows its dependencies. -/

namespace Starring.Planning
open Foundation

namespace OperationGraph
variable (graph : OperationGraph)

def ids : List OpId := graph.nodes.map OperationNode.id

def Depends (id dependency : OpId) : Prop := ∃ node ∈ graph.nodes, node.id = id ∧ dependency ∈ node.dependsOn

/-- Every node occurs once and follows all its dependencies. -/
structure IsTopological (order : List OpId) : Prop where
  perm : order.Perm graph.ids
  follows : ∀ earlier id later, order = earlier ++ id :: later → ∀ dependency, graph.Depends id dependency →
    dependency ∈ earlier

def kahnNodes : List (Kahn.Node OpId) := graph.nodes.map fun node => { id := node.id, dependsOn := node.dependsOn }

def drained : Kahn.State OpId := Kahn.drain graph.kahnNodes (Kahn.rounds graph.kahnNodes) (Kahn.start graph.kahnNodes)

variable {graph}

theorem kahnNodes_ids : graph.kahnNodes.map Kahn.Node.id = graph.ids := by
  simp [kahnNodes, ids]

theorem kahnNodes_nodup (distinct : graph.ids.Nodup) : (graph.kahnNodes.map Kahn.Node.id).Nodup :=
  kahnNodes_ids ▸ distinct

theorem dependsOn_kahnNodes : Kahn.DependsOn graph.kahnNodes = graph.Depends := by
  funext id dependency
  simp [Kahn.DependsOn, Depends, kahnNodes]

theorem respects_kahnNodes {order : List OpId} : Kahn.Respects graph.kahnNodes order ↔
    ∀ earlier id later, order = earlier ++ id :: later → ∀ dependency, graph.Depends id dependency → dependency ∈ earlier := by
  rw [← dependsOn_kahnNodes]
  constructor
  · intro respects earlier id later split dependency depends
    obtain ⟨node, mem, same, mentioned⟩ := depends
    exact respects earlier id later split node mem same dependency mentioned
  · intro follows earlier id later split node mem same dependency mentioned
    exact follows earlier id later split dependency ⟨node, mem, same, mentioned⟩

theorem topologicalOrder_eq_ok {order : List OpId} :
    graph.topologicalOrder = .ok order ↔ Kahn.topologicalOrder graph.kahnNodes = some order :=
  orReject_eq_ok

/-- The order is undone in reverse, so that every node comes before its dependencies. -/
theorem rollbackOrder_eq : graph.rollbackOrder = graph.topologicalOrder.map List.reverse := by
  unfold rollbackOrder
  cases graph.topologicalOrder <;> rfl

/-- An order exists exactly if all dependencies are there and none leads back. -/
theorem exists_topologicalOrder (distinct : graph.ids.Nodup) : (∃ order, graph.topologicalOrder = .ok order) ↔
    (∀ id dependency, graph.Depends id dependency → dependency ∈ graph.ids) ∧
      ∀ id, ¬Relation.TransGen graph.Depends id id := by
  have exact := Kahn.topologicalOrder_isSome (kahnNodes_nodup distinct)
  rw [kahnNodes_ids, dependsOn_kahnNodes, Kahn.Acyclic, dependsOn_kahnNodes] at exact
  exact (exists_congr fun order => topologicalOrder_eq_ok).trans exact

/-- Where an order exists it is the smallest of all that respect the dependencies. The loop that finds it runs
until no node is ready and decreases no count below zero; the rollback takes the reverse. -/
theorem topological_order_is_canonical (graph : OperationGraph) (distinct : graph.ids.Nodup) :
    ((∃ order, graph.topologicalOrder = .ok order) ↔
        (∀ id dependency, graph.Depends id dependency → dependency ∈ graph.ids) ∧
          ∀ id, ¬Relation.TransGen graph.Depends id id) ∧
      (∀ order, graph.topologicalOrder = .ok order → graph.IsTopological order ∧
        ∀ other, graph.IsTopological other → order = other ∨ List.Lex (· < ·) order other) ∧
      graph.drained.ready = [] ∧ graph.drained.underflow = false ∧
      graph.rollbackOrder = graph.topologicalOrder.map List.reverse ∧
      ∀ order, graph.rollbackOrder = .ok order → ∀ earlier id later, order = earlier ++ id :: later →
        ∀ dependency, graph.Depends id dependency → dependency ∈ later := by
  have distinctNodes := kahnNodes_nodup distinct
  have topological {order : List OpId} (found : graph.topologicalOrder = .ok order) : graph.IsTopological order := by
    rw [topologicalOrder_eq_ok] at found
    exact ⟨kahnNodes_ids ▸ Kahn.topologicalOrder_perm distinctNodes found,
      respects_kahnNodes.mp (Kahn.topologicalOrder_respects distinctNodes found)⟩
  have sound := Kahn.sound_start distinctNodes
  refine ⟨exists_topologicalOrder distinct, fun order found => ⟨topological found, fun other isOther => ?_⟩,
    sound.drain_ready distinctNodes ?_, (sound.drain distinctNodes _).whole, rollbackOrder_eq, ?_⟩
  · exact Kahn.topologicalOrder_lex distinctNodes (topologicalOrder_eq_ok.mp found) (kahnNodes_ids ▸ isOther.perm)
      (respects_kahnNodes.mpr isOther.follows)
  · exact (Nat.le_add_right _ _).trans (Nat.le_add_left _ _)
  · intro reversed undone earlier id later split dependency depends
    rw [rollbackOrder_eq] at undone
    cases found : graph.topologicalOrder with
    | error error =>
      rw [found] at undone
      cases undone
    | ok order =>
      rw [found] at undone
      obtain rfl := Except.ok.inj undone
      have forward : order = later.reverse ++ id :: earlier.reverse := by
        rw [← order.reverse_reverse, split]
        simp
      exact List.mem_reverse.mp ((topological found).follows _ _ _ forward dependency depends)

/-- Three nodes with a doubled mention. -/
theorem doubled_mention_is_ordered :
    let graph : OperationGraph := ⟨[⟨2, .deleteRole ⟨"a"⟩, [], [], [1, 1]⟩, ⟨1, .deleteRole ⟨"b"⟩, [], [], []⟩,
      ⟨0, .deleteRole ⟨"c"⟩, [], [], [2]⟩]⟩
    graph.topologicalOrder = .ok [1, 2, 0] ∧ graph.IsTopological [1, 2, 0] := by
  intro graph
  have found : graph.topologicalOrder = .ok [1, 2, 0] := by decide +kernel
  exact ⟨found, ((topological_order_is_canonical graph (by decide)).2.1 _ found).1⟩

end OperationGraph

end Starring.Planning
