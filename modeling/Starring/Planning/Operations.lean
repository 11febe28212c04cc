import Starring.Foundation.Kahn
import Starring.Planning.Diff

/-! The compiler of diffs into operation graphs. Every change that is not a no-op
becomes one node; a node depends on the nodes that produce what it consumes. -/

namespace Starring.Planning
open Foundation

abbrev OpId := Nat

inductive ResourceSymbol where
  | role (key : ResourceKey)
  | channel (key : ResourceKey)
  deriving DecidableEq

inductive Operation where
  | createRole (key : ResourceKey) (name : Option String) (permissions : Option Permissions)
  | updateRole (key : ResourceKey) (name : Option String) (permissions : Option Permissions)
  | deleteRole (key : ResourceKey)
  | createChannel (key : ResourceKey) (name : Option String) (channelType : Option ChannelType)
      (parent : Option ResourceKey)
  | updateChannel (key : ResourceKey) (name : Option String) (channelType : Option ChannelType)
  | deleteChannel (key : ResourceKey)
  | createOverwrite (channel : ResourceKey) (target : NormalizedTarget) (allow deny : Permissions)
  | updateOverwrite (channel : ResourceKey) (target : NormalizedTarget) (allow deny : Permissions)
  deriving DecidableEq

structure OperationNode where
  id : OpId
  operation : Operation
  produces : List ResourceSymbol
  consumes : List ResourceSymbol
  dependsOn : List OpId
  deriving DecidableEq

structure OperationGraph where
  nodes : List OperationNode
  deriving DecidableEq

inductive OperationGraphError where
  | diffHasConflicts (count : Nat)
  | missingPayload (key : String)
  | unsupportedChange
  | dependencyCycle
  deriving DecidableEq

namespace OperationGraph

def topologicalOrder (graph : OperationGraph) : Except OperationGraphError (List OpId) :=
  orReject (Kahn.topologicalOrder (graph.nodes.map fun node => { id := node.id, dependsOn := node.dependsOn }))
    .dependencyCycle

def rollbackOrder (graph : OperationGraph) : Except OperationGraphError (List OpId) := do
  let order ← graph.topologicalOrder
  return order.reverse

end OperationGraph

section
variable (desired : NormalizedDesiredState)

def findRole (key : ResourceKey) : Except OperationGraphError NormalizedRole :=
  orReject (desired.roles.find? fun role => role.identity.key = key) (.missingPayload key.value)

def findChannel (key : ResourceKey) : Except OperationGraphError NormalizedChannel :=
  orReject (desired.channels.find? fun channel => channel.identity.key = key) (.missingPayload key.value)

def findOverwrite (channel : ResourceKey) (target : NormalizedTarget) :
    Except OperationGraphError NormalizedOverwrite := do
  let channel ← findChannel desired channel
  orReject (channel.overwrites.find? fun overwrite => overwrite.target = target)
    (.missingPayload channel.identity.key.value)

def overwriteConsumes (channel : ResourceKey) : NormalizedTarget → List ResourceSymbol
  | .role key => [.channel channel, .role key]
  | .everyone | .member _ => [.channel channel]

/-- The operation of a change, with the symbols it produces and consumes. -/
def buildOperation (change : DiffChange) :
    Except OperationGraphError (Operation × List ResourceSymbol × List ResourceSymbol) :=
  match change.op, change.target with
  | .create, .role key => do
    let role ← findRole desired key
    return (.createRole key role.name role.permissions, [.role key], [])
  | .update, .role key => do
    let role ← findRole desired key
    return (.updateRole key role.name role.permissions, [], [])
  | .delete, .role key => .ok (.deleteRole key, [], [])
  | .create, .channel key => do
    let channel ← findChannel desired key
    return (.createChannel key channel.name channel.channelType channel.parent, [.channel key],
      channel.parent.toList.map .channel)
  | .update, .channel key => do
    let channel ← findChannel desired key
    return (.updateChannel key channel.name channel.channelType, [], [])
  | .delete, .channel key => .ok (.deleteChannel key, [], [])
  | .create, .overwrite channel target => do
    let overwrite ← findOverwrite desired channel target
    return (.createOverwrite channel target overwrite.allow overwrite.deny, [], overwriteConsumes channel target)
  | .update, .overwrite channel target => do
    let overwrite ← findOverwrite desired channel target
    return (.updateOverwrite channel target overwrite.allow overwrite.deny, [], overwriteConsumes channel target)
  | .delete, .overwrite _ _ | .noOp, _ => .error .unsupportedChange

/-- The nodes of the changes that are not no-ops, numbered from `nextId`. -/
def buildNodes : OpId → List DiffChange → Except OperationGraphError (List OperationNode)
  | _, [] => .ok []
  | nextId, change :: changes =>
    if change.op = .noOp then buildNodes nextId changes
    else do
      let (operation, produces, consumes) ← buildOperation desired change
      let nodes ← buildNodes (nextId + 1) changes
      return { id := nextId, operation, produces, consumes, dependsOn := [] } :: nodes

def producer (nodes : List OperationNode) (symbol : ResourceSymbol) : Option OpId :=
  (nodes.reverse.find? fun node => symbol ∈ node.produces).map OperationNode.id

def deriveDependencies (nodes : List OperationNode) : List OperationNode :=
  nodes.map fun node =>
    let deps := (node.consumes.filterMap (producer nodes)).filter fun dep => dep ≠ node.id
    { node with dependsOn := (deps.insertionSort (· ≤ ·)).destutter (· ≠ ·) }

def compileOperations (diff : DiffResult) : Except OperationGraphError OperationGraph := do
  rejectIf (diff.conflicts ≠ []) (.diffHasConflicts diff.conflicts.length)
  let nodes ← buildNodes desired 0 diff.changes
  let graph : OperationGraph := ⟨deriveDependencies nodes⟩
  let _ ← graph.topologicalOrder
  return graph

end

end Starring.Planning
