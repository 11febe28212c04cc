import Mathlib

/-! Topological sorting by counting unmet dependencies, always taking the smallest
node that is ready. The count of a node is the number of mentions of nodes that have
not been taken yet; it is never decreased below zero, and every node is taken once. -/

namespace Starring.Foundation.Kahn
open List Option Relation

structure Node (α : Type) where
  id : α
  dependsOn : List α

structure State (α : Type) where
  indegree : α → Nat
  ready : List α
  order : List α
  underflow : Bool

/-- Whatever a node depends on is taken before it. -/
def Respects {α : Type} (nodes : List (Node α)) (order : List α) : Prop :=
  ∀ earlier id later, order = earlier ++ id :: later →
    ∀ node ∈ nodes, node.id = id → ∀ dependency ∈ node.dependsOn, dependency ∈ earlier

theorem Respects.snoc {α : Type} {nodes : List (Node α)} {order : List α} (respects : Respects nodes order) {id : α}
    (met : ∀ node ∈ nodes, node.id = id → ∀ dependency ∈ node.dependsOn, dependency ∈ order) :
    Respects nodes (order ++ [id]) := by
  intro earlier other later split
  obtain rfl | ⟨front, last, rfl⟩ := later.eq_nil_or_concat
  · obtain ⟨rfl, same⟩ := append_inj' split rfl
    obtain rfl := head_eq_of_cons_eq same
    exact met
  · rw [concat_eq_append, ← cons_append, ← append_assoc] at split
    exact respects earlier other front (append_inj' split rfl).1

/-- One node depends on the other. -/
def DependsOn {α : Type} (nodes : List (Node α)) (id dependency : α) : Prop :=
  ∃ node ∈ nodes, node.id = id ∧ dependency ∈ node.dependsOn

/-- No node depends on itself, directly or through others. -/
def Acyclic {α : Type} (nodes : List (Node α)) : Prop := ∀ id, ¬TransGen (DependsOn nodes) id id

/-- In an order that respects the dependencies, what a node depends on through others stands before it. -/
theorem Respects.transGen {α : Type} {nodes : List (Node α)} {order : List α} (respects : Respects nodes order)
    {earlier later : List α} {id dependency : α} (split : order = earlier ++ id :: later)
    (depends : TransGen (DependsOn nodes) id dependency) : dependency ∈ earlier := by
  induction depends using TransGen.head_induction_on generalizing earlier later with
  | single depends =>
    obtain ⟨node, mem, same, mentioned⟩ := depends
    exact respects _ _ _ split node mem same _ mentioned
  | head depends _ ih =>
    obtain ⟨node, mem, same, mentioned⟩ := depends
    obtain ⟨front, back, rfl⟩ := append_of_mem (respects _ _ _ split node mem same _ mentioned)
    exact mem_append_left _ (ih (split.trans (append_assoc _ _ _)))

variable {α : Type} [LinearOrder α]

/-- The nodes that mention a dependency, once for every mention. -/
def dependents (nodes : List (Node α)) (dependency : α) : List α :=
  nodes.flatMap fun node => (node.dependsOn.filter (· = dependency)).map fun _ => node.id

def indegree (nodes : List (Node α)) (id : α) : Nat :=
  ((nodes.filter fun node => node.id = id).map fun node => node.dependsOn.length).sum

def start (nodes : List (Node α)) : State α where
  indegree := indegree nodes
  ready := (nodes.map Node.id).filter fun id => indegree nodes id = 0
  order := []
  underflow := false

/-- One dependency of the node is met. -/
def release (state : State α) (id : α) : State α :=
  let left := state.indegree id - 1
  { state with
    indegree := Function.update state.indegree id left
    ready := if left = 0 then id :: state.ready else state.ready
    underflow := state.underflow || state.indegree id == 0 }

/-- Take the smallest node that is ready until none is left. -/
def drain (nodes : List (Node α)) : Nat → State α → State α
  | 0, state => state
  | fuel + 1, state =>
    match state.ready.min? with
    | none => state
    | some id =>
      drain nodes fuel ((dependents nodes id).foldl release
        { state with ready := state.ready.erase id, order := state.order ++ [id] })

/-- Every round takes a node, and a node becomes ready when it has none of its mentions left. -/
def rounds (nodes : List (Node α)) : Nat := nodes.length + (nodes.map fun node => node.dependsOn.length).sum

def topologicalOrder (nodes : List (Node α)) : Option (List α) :=
  let order := (drain nodes (rounds nodes) (start nodes)).order
  if order.length = nodes.length then some order else none

/-- The state while the mentions in `remaining` are still to be released. -/
structure Sound (nodes : List (Node α)) (remaining : List α) (state : State α) : Prop where
  once : (state.order ++ state.ready).Nodup
  known : ∀ id ∈ state.order ++ state.ready, id ∈ nodes.map Node.id
  counts : ∀ node ∈ nodes,
    state.indegree node.id = node.dependsOn.countP (fun id => id ∉ state.order) + remaining.count node.id
  waiting : ∀ node ∈ nodes, state.indegree node.id = 0 ↔ node.id ∈ state.order ++ state.ready
  whole : state.underflow = false

variable {nodes : List (Node α)}

theorem indegree_eq (distinct : (nodes.map Node.id).Nodup) {node : Node α} (mem : node ∈ nodes) :
    indegree nodes node.id = node.dependsOn.length := by
  induction nodes with
  | nil => cases mem
  | cons head tail ih =>
    obtain ⟨fresh, rest⟩ := nodup_cons.mp distinct
    obtain rfl | later := mem_cons.mp mem
    · have others : (tail.filter fun other => other.id = node.id) = [] := by
        refine filter_eq_nil_iff.mpr fun other inTail => ?_
        have differ : other.id ≠ node.id := fun same => fresh (same ▸ mem_map_of_mem inTail)
        simpa using differ
      simp [indegree, others]
    · have differ : head.id ≠ node.id := fun same => fresh (same ▸ mem_map_of_mem later)
      simpa [indegree, differ] using ih rest later

theorem dependents_cons (head : Node α) (tail : List (Node α)) (dependency : α) :
    dependents (head :: tail) dependency =
      List.replicate (head.dependsOn.count dependency) head.id ++ dependents tail dependency := by
  have mentions : (head.dependsOn.filter (· = dependency)).length = head.dependsOn.count dependency := by
    rw [List.count, countP_eq_length_filter]
    congr 1
  simp [dependents, mentions]

/-- A node that does not occur is nobody's dependent. -/
theorem count_dependents_eq_zero {id : α} (absent : id ∉ nodes.map Node.id) (dependency : α) :
    (dependents nodes dependency).count id = 0 := by
  refine count_eq_zero.mpr fun mem => absent ?_
  obtain ⟨node, inNodes, mentioned⟩ := mem_flatMap.mp mem
  obtain ⟨_, _, rfl⟩ := mem_map.mp mentioned
  exact mem_map_of_mem inNodes

theorem count_dependents (distinct : (nodes.map Node.id).Nodup) {node : Node α} (mem : node ∈ nodes) (dependency : α) :
    (dependents nodes dependency).count node.id = node.dependsOn.count dependency := by
  induction nodes with
  | nil => cases mem
  | cons head tail ih =>
    obtain ⟨fresh, rest⟩ := nodup_cons.mp distinct
    rw [dependents_cons, count_append, count_replicate]
    obtain rfl | later := mem_cons.mp mem
    · rw [count_dependents_eq_zero fresh]
      simp
    · have differ : head.id ≠ node.id := fun same => fresh (same ▸ mem_map_of_mem later)
      rw [ih rest later]
      simp [differ]

/-- Of the mentions of nodes not taken yet, those of one node are set apart when it is taken. -/
theorem countP_not_mem_append {order : List α} {id : α} (untaken : id ∉ order) (mentions : List α) :
    mentions.countP (fun other => other ∉ order) =
      mentions.countP (fun other => other ∉ order ++ [id]) + mentions.count id := by
  induction mentions with
  | nil => rfl
  | cons head tail ih =>
    rw [countP_cons, countP_cons, count_cons, ih]
    by_cases same : head = id
    · simp [same, untaken]
      omega
    · simp [same]
      omega

section
variable {nodes : List (Node α)} {state : State α}

theorem sound_start (distinct : (nodes.map Node.id).Nodup) : Sound nodes [] (start nodes) where
  once := filter_sublist.nodup distinct
  known id mem := by
    simp only [start, nil_append, mem_filter] at mem
    exact mem.1
  counts node mem := by simp [start, indegree_eq distinct mem, countP_true]
  waiting node mem := by
    simp only [start, nil_append, mem_filter, mem_map_of_mem mem, true_and, decide_eq_true_eq]
  whole := rfl

theorem release_indegree_self (state : State α) (id : α) :
    (release state id).indegree id = state.indegree id - 1 := Function.update_self id _ _

variable {id : α}

theorem release_indegree_of_ne (state : State α) {other : α} (differ : other ≠ id) :
    (release state id).indegree other = state.indegree other := Function.update_of_ne differ _ _

/-- Releasing a mention leaves the count one smaller, which it can be. -/
theorem Sound.release {remaining : List α} (sound : Sound nodes (id :: remaining) state)
    (known : id ∈ nodes.map Node.id) : Sound nodes remaining (release state id) := by
  obtain ⟨node, mem, rfl⟩ := mem_map.mp known
  have count := sound.counts node mem
  rw [count_cons_self] at count
  have blocked : node.id ∉ state.order ++ state.ready := fun taken => by
    have zero := (sound.waiting node mem).mpr taken
    omega
  have counts : ∀ other ∈ nodes, (Kahn.release state node.id).indegree other.id =
      other.dependsOn.countP (fun id => id ∉ state.order) + remaining.count other.id := by
    intro other inNodes
    by_cases same : other.id = node.id
    · have whole := sound.counts other inNodes
      rw [same, count_cons_self] at whole
      rw [same, release_indegree_self]
      omega
    · rw [release_indegree_of_ne state same, sound.counts other inNodes, count_cons_of_ne (Ne.symm same)]
  have whole : (Kahn.release state node.id).underflow = false := by
    have positive : state.indegree node.id ≠ 0 := by omega
    simp [Kahn.release, sound.whole, positive]
  by_cases last : state.indegree node.id - 1 = 0
  · have ready : (Kahn.release state node.id).ready = node.id :: state.ready := if_pos last
    refine ⟨?_, ?_, counts, ?_, whole⟩
    · rw [ready]
      exact (perm_middle.nodup_iff).mpr (nodup_cons.mpr ⟨blocked, sound.once⟩)
    · intro id mem
      rw [ready] at mem
      obtain rfl | old := mem_cons.mp (perm_middle.mem_iff.mp mem)
      · exact known
      · exact sound.known id old
    · intro other inNodes
      rw [ready]
      by_cases same : other.id = node.id
      · simp [release_indegree_self, same, last]
      · rw [release_indegree_of_ne state same, sound.waiting other inNodes]
        simp [Kahn.release, same]
  · have ready : (Kahn.release state node.id).ready = state.ready := if_neg last
    refine ⟨?_, ?_, counts, ?_, whole⟩
    · rw [ready]
      exact sound.once
    · rw [ready]
      exact sound.known
    · intro other inNodes
      rw [ready]
      by_cases same : other.id = node.id
      · rw [same, release_indegree_self]
        exact iff_of_false last blocked
      · rw [release_indegree_of_ne state same]
        exact sound.waiting other inNodes

theorem Sound.releaseAll {remaining : List α} (sound : Sound nodes remaining state)
    (known : ∀ id ∈ remaining, id ∈ nodes.map Node.id) : Sound nodes [] (remaining.foldl Kahn.release state) := by
  induction remaining generalizing state with
  | nil => exact sound
  | cons id remaining ih =>
    exact ih (sound.release (known id mem_cons_self)) fun other mem => known other (mem_cons_of_mem _ mem)

/-- Taking a node that is ready makes its dependents the mentions to be released. -/
theorem Sound.take (distinct : (nodes.map Node.id).Nodup) (sound : Sound nodes [] state) (ready : id ∈ state.ready) :
    Sound nodes (dependents nodes id)
      { state with ready := state.ready.erase id, order := state.order ++ [id] } := by
  have moved : (state.order ++ [id] ++ state.ready.erase id).Perm (state.order ++ state.ready) := by
    rw [append_assoc]
    exact (perm_cons_erase ready).symm.append_left state.order
  have untaken : id ∉ state.order := fun taken =>
    (nodup_append.mp sound.once).2.2 id taken id ready rfl
  refine ⟨moved.nodup_iff.mpr sound.once, fun other mem => sound.known other (moved.mem_iff.mp mem), ?_, ?_,
    sound.whole⟩
  · intro node mem
    rw [count_dependents distinct mem, sound.counts node mem, countP_not_mem_append untaken]
    simp
  · intro node mem
    rw [sound.waiting node mem]
    exact moved.mem_iff.symm

theorem mem_of_mem_dependents {dependency : α} (mem : id ∈ dependents nodes dependency) : id ∈ nodes.map Node.id := by
  by_contra absent
  exact count_eq_zero.mp (count_dependents_eq_zero absent dependency) mem

theorem Sound.drain (distinct : (nodes.map Node.id).Nodup) (sound : Sound nodes [] state) (fuel : Nat) :
    Sound nodes [] (drain nodes fuel state) := by
  induction fuel generalizing state with
  | zero => exact sound
  | succ fuel ih =>
    cases smallest : state.ready.min? with
    | none =>
      rw [Kahn.drain, smallest]
      exact sound
    | some id =>
      rw [Kahn.drain, smallest]
      have : Std.MinEqOr α := ⟨min_choice⟩
      have taken := sound.take distinct (min?_mem smallest)
      exact ih (taken.releaseAll fun _ mem => mem_of_mem_dependents mem)

variable {order : List α}

/-- A complete order takes every node exactly once. -/
theorem topologicalOrder_perm (distinct : (nodes.map Node.id).Nodup) (found : topologicalOrder nodes = some order) :
    order.Perm (nodes.map Node.id) := by
  have sound := (sound_start distinct).drain distinct (rounds nodes)
  rw [topologicalOrder, ite_none_right_eq_some] at found
  obtain ⟨complete, found⟩ := found
  obtain rfl := Option.some.inj found
  refine (subperm_of_subset (nodup_append.mp sound.once).1 ?_).perm_of_length_le ?_
  · exact fun id mem => sound.known id (mem_append_left _ mem)
  · rw [length_map]
    exact Nat.le_of_eq complete.symm

theorem release_order (state : State α) (ids : List α) : (ids.foldl release state).order = state.order := by
  induction ids generalizing state with
  | nil => rfl
  | cons id ids ih => exact ih (release state id)

/-- A node that is ready depends on nothing but nodes that were taken. -/
theorem Sound.met (sound : Sound nodes [] state) (ready : id ∈ state.ready) :
    ∀ node ∈ nodes, node.id = id → ∀ dependency ∈ node.dependsOn, dependency ∈ state.order := by
  rintro node mem rfl dependency mentioned
  have count := sound.counts node mem
  rw [(sound.waiting node mem).mpr (mem_append_right _ ready), count_nil, Nat.add_zero] at count
  simpa using countP_eq_zero.mp count.symm dependency mentioned

theorem Sound.drain_respects (distinct : (nodes.map Node.id).Nodup) (sound : Sound nodes [] state)
    (respects : Respects nodes state.order) (fuel : Nat) : Respects nodes (Kahn.drain nodes fuel state).order := by
  induction fuel generalizing state with
  | zero => exact respects
  | succ fuel ih =>
    cases smallest : state.ready.min? with
    | none =>
      rw [Kahn.drain, smallest]
      exact respects
    | some id =>
      rw [Kahn.drain, smallest]
      have : Std.MinEqOr α := ⟨min_choice⟩
      have ready := min?_mem smallest
      apply ih ((sound.take distinct ready).releaseAll fun _ mem => mem_of_mem_dependents mem)
      rw [release_order]
      exact respects.snoc (sound.met ready)

theorem topologicalOrder_respects (distinct : (nodes.map Node.id).Nodup) (found : topologicalOrder nodes = some order) :
    Respects nodes order := by
  rw [topologicalOrder, ite_none_right_eq_some] at found
  obtain rfl := Option.some.inj found.2
  refine (sound_start distinct).drain_respects distinct ?_ (rounds nodes)
  intro earlier id later split
  cases earlier <;> cases split

/-- With enough rounds no node is left that could be taken. -/
theorem Sound.drain_ready (distinct : (nodes.map Node.id).Nodup) (sound : Sound nodes [] state) {fuel : Nat}
    (enough : nodes.length ≤ state.order.length + fuel) : (Kahn.drain nodes fuel state).ready = [] := by
  induction fuel generalizing state with
  | zero =>
    have few := (subperm_of_subset sound.once sound.known).length_le
    rw [length_append, length_map] at few
    have none : state.ready.length = 0 := by omega
    exact length_eq_zero_iff.mp none
  | succ fuel ih =>
    cases smallest : state.ready.min? with
    | none =>
      rw [Kahn.drain, smallest]
      exact min?_eq_none_iff.mp smallest
    | some id =>
      rw [Kahn.drain, smallest]
      have : Std.MinEqOr α := ⟨min_choice⟩
      apply ih ((sound.take distinct (min?_mem smallest)).releaseAll fun _ mem => mem_of_mem_dependents mem)
      rw [release_order, length_append, length_singleton]
      omega

theorem drain_prefix (nodes : List (Node α)) (fuel : Nat) (state : State α) :
    state.order <+: (Kahn.drain nodes fuel state).order := by
  induction fuel generalizing state with
  | zero => exact prefix_rfl
  | succ fuel ih =>
    cases smallest : state.ready.min? with
    | none =>
      rw [Kahn.drain, smallest]
    | some id =>
      rw [Kahn.drain, smallest]
      refine List.IsPrefix.trans ?_ (ih _)
      rw [release_order]
      exact prefix_append _ _

/-- A node whose dependencies were all taken is taken or ready. -/
theorem Sound.ready_of_met (sound : Sound nodes [] state) {node : Node α} (mem : node ∈ nodes)
    (met : ∀ dependency ∈ node.dependsOn, dependency ∈ state.order) : node.id ∈ state.order ++ state.ready := by
  rw [← sound.waiting node mem, sound.counts node mem, count_nil, Nat.add_zero, countP_eq_zero]
  intro dependency mentioned
  simpa using met dependency mentioned

/-- A list stands before those it begins. -/
theorem eq_or_lex_of_prefix {first second : List α} (begins : first <+: second) :
    first = second ∨ List.Lex (· < ·) first second := by
  obtain ⟨rest, rfl⟩ := begins
  cases rest with
  | nil => exact .inl (append_nil first).symm
  | cons next rest =>
    have longer : List.Lex (· < ·) (first ++ []) (first ++ next :: rest) := List.Lex.append_left _ .nil first
    rw [append_nil] at longer
    exact .inr longer

/-- Until they differ, the order drained so far begins every competitor; where they differ it has the smaller node. -/
theorem Sound.drain_lex (distinct : (nodes.map Node.id).Nodup) (sound : Sound nodes [] state) {other : List α}
    (perm : other.Perm (nodes.map Node.id)) (respects : Respects nodes other) (begins : state.order <+: other) (fuel : Nat) :
    (Kahn.drain nodes fuel state).order = other ∨ List.Lex (· < ·) (Kahn.drain nodes fuel state).order other := by
  induction fuel generalizing state with
  | zero => exact eq_or_lex_of_prefix begins
  | succ fuel ih =>
    cases smallest : state.ready.min? with
    | none =>
      rw [Kahn.drain, smallest]
      exact eq_or_lex_of_prefix begins
    | some id =>
      have : Std.MinEqOr α := ⟨min_choice⟩
      have ready := min?_mem smallest
      obtain ⟨rest, rfl⟩ := begins
      have untaken : id ∉ state.order := fun taken => (nodup_append.mp sound.once).2.2 id taken id ready rfl
      cases rest with
      | nil =>
        have mem := perm.mem_iff.mpr (sound.known id (mem_append_right _ ready))
        rw [append_nil] at mem
        exact absurd mem untaken
      | cons next rest =>
        obtain ⟨node, mem, rfl⟩ := mem_map.mp (perm.mem_iff.mp (mem_append_right _ mem_cons_self))
        have isReady : node.id ∈ state.ready := by
          have here := sound.ready_of_met mem (respects state.order node.id rest rfl node mem rfl)
          refine (mem_append.mp here).resolve_left fun taken => ?_
          exact (nodup_append.mp (perm.nodup_iff.mpr distinct)).2.2 node.id taken node.id mem_cons_self rfl
        rw [Kahn.drain, smallest]
        have after := (sound.take distinct ready).releaseAll fun _ mem => mem_of_mem_dependents mem
        obtain same | less := ((min?_eq_some_iff.mp smallest).2 _ isReady).eq_or_lt
        · refine ih after ?_
          rw [release_order, same]
          exact ⟨rest, by simp⟩
        · obtain ⟨later, whole⟩ := drain_prefix nodes fuel ((dependents nodes id).foldl Kahn.release
            { state with ready := state.ready.erase id, order := state.order ++ [id] })
          rw [release_order] at whole
          rw [← whole, append_assoc]
          exact .inr (List.Lex.append_left _ (.rel less) state.order)

/-- Of some nodes of an acyclic graph there is one that depends on none of them. -/
theorem Acyclic.exists_minimal (acyclic : Acyclic nodes) {ids : List α} (nonempty : ids ≠ []) :
    ∃ id ∈ ids, ∀ dependency, DependsOn nodes id dependency → dependency ∉ ids := by
  let below (first second : { id // id ∈ ids }) : Prop := TransGen (DependsOn nodes) second.1 first.1
  have : Finite { id // id ∈ ids } := Finite.of_fintype _
  have : IsTrans _ below := ⟨fun _ _ _ first second => second.trans first⟩
  have : Std.Irrefl below := ⟨fun id => acyclic id.1⟩
  obtain ⟨first, mem⟩ := exists_mem_of_ne_nil ids nonempty
  obtain ⟨least, -, minimal⟩ := (Finite.wellFounded_of_trans_of_irrefl below).has_min Set.univ ⟨⟨first, mem⟩, trivial⟩
  exact ⟨least.1, least.2, fun dependency depends inIds => minimal ⟨dependency, inIds⟩ trivial (.single depends)⟩

theorem topologicalOrder_of_acyclic (distinct : (nodes.map Node.id).Nodup)
    (known : ∀ id dependency, DependsOn nodes id dependency → dependency ∈ nodes.map Node.id) (acyclic : Acyclic nodes) :
    ∃ order, topologicalOrder nodes = some order := by
  have sound := (sound_start distinct).drain distinct (rounds nodes)
  have enough : nodes.length ≤ (start nodes).order.length + rounds nodes := by simp [start, rounds]
  have ready := (sound_start distinct).drain_ready distinct enough
  refine ⟨_, if_pos ?_⟩
  by_contra partly
  -- Among the nodes that were not taken one depends on none of them, so it would have been ready.
  have left : (nodes.map Node.id).filter (fun id => id ∉ (Kahn.drain nodes (rounds nodes) (start nodes)).order) ≠ [] := by
    intro none
    refine partly (((perm_ext_iff_of_nodup (nodup_append.mp sound.once).1 distinct).mpr fun id => ?_).length_eq.trans
      (length_map _))
    refine ⟨fun mem => sound.known id (mem_append_left _ mem), fun mem => ?_⟩
    simpa using filter_eq_nil_iff.mp none id mem
  obtain ⟨id, mem, minimal⟩ := acyclic.exists_minimal left
  obtain ⟨isNode, untaken⟩ := mem_filter.mp mem
  obtain ⟨node, inNodes, rfl⟩ := mem_map.mp isNode
  have here := sound.ready_of_met inNodes fun dependency mentioned => by
    have depends : DependsOn nodes node.id dependency := ⟨node, inNodes, rfl, mentioned⟩
    by_contra missing
    exact minimal dependency depends (mem_filter.mpr ⟨known _ _ depends, by simpa using missing⟩)
  rw [ready, append_nil] at here
  simp only [decide_eq_true_eq] at untaken
  exact untaken here

theorem topologicalOrder_isSome (distinct : (nodes.map Node.id).Nodup) :
    (∃ order, topologicalOrder nodes = some order) ↔
      (∀ id dependency, DependsOn nodes id dependency → dependency ∈ nodes.map Node.id) ∧ Acyclic nodes := by
  refine ⟨fun ⟨order, found⟩ => ?_, fun ⟨known, acyclic⟩ => topologicalOrder_of_acyclic distinct known acyclic⟩
  have perm := topologicalOrder_perm distinct found
  have respects := topologicalOrder_respects distinct found
  have place {id dependency : α} (depends : DependsOn nodes id dependency) : ∃ earlier later, order = earlier ++ id :: later := by
    obtain ⟨node, mem, rfl, -⟩ := depends
    exact append_of_mem (perm.mem_iff.mpr (mem_map_of_mem mem))
  constructor
  · intro id dependency depends
    obtain ⟨earlier, later, split⟩ := place depends
    rw [← perm.mem_iff, split]
    exact mem_append_left _ (respects.transGen split (.single depends))
  · intro id cycle
    obtain ⟨next, depends, -⟩ := TransGen.head'_iff.mp cycle
    obtain ⟨earlier, later, split⟩ := place depends
    have nodup := perm.nodup_iff.mpr distinct
    rw [split] at nodup
    exact (nodup_append.mp nodup).2.2 id (respects.transGen split cycle) id mem_cons_self rfl

/-- The order is the smallest of all that respect the dependencies. -/
theorem topologicalOrder_lex (distinct : (nodes.map Node.id).Nodup) {other : List α}
    (found : topologicalOrder nodes = some order) (perm : other.Perm (nodes.map Node.id))
    (respects : Respects nodes other) : order = other ∨ List.Lex (· < ·) order other := by
  rw [topologicalOrder, ite_none_right_eq_some] at found
  obtain rfl := Option.some.inj found.2
  exact (sound_start distinct).drain_lex distinct perm respects nil_prefix (rounds nodes)

end

end Starring.Foundation.Kahn
