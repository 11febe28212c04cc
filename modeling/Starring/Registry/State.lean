import Starring.Convergence.State
import Starring.Foundation.Outcomes

/-! The state of a serving-slot registry. A slot has a route that serves, one that is staged to replace it and
routes that are retired but still in use; a seal stops the slot while it is drained. Counters number
all changes, of a slot and of the registry, and what runs out of numbers is closed for good. -/

namespace Starring.Registry
open Foundation Convergence

structure ServingSlotKeyV1 where
  guildId : GuildId
  rulesetKey : RuleSetKey
  deriving DecidableEq

def ServingSlotKeyV1.fromTarget (target : RuntimeDeploymentTargetV1) : ServingSlotKeyV1 :=
  ⟨target.guildId, target.rulesetKey⟩

def ServingSlotKeyV1.matchesTarget (self : ServingSlotKeyV1) (target : RuntimeDeploymentTargetV1) : Bool :=
  self.guildId = target.guildId ∧ self.rulesetKey = target.rulesetKey

structure ExactServingRouteV1 where
  deploymentIdentity : RuntimeDeploymentIdentityV1
  processIdentity : RuntimeProcessIdentityV1
  deriving DecidableEq

def ExactServingRouteV1.identity (self : ExactServingRouteV1) : RuntimeProcessIdentityV1 := self.processIdentity

def ExactServingRouteV1.slotKey (self : ExactServingRouteV1) : ServingSlotKeyV1 :=
  .fromTarget self.processIdentity.target

structure ServingSlotRegistryConfigV1 where
  maxSlots : NonZeroU32
  maxActiveInteractionsPerSlot : NonZeroU32
  maxRetiredRoutesPerSlot : NonZeroU32

inductive SlotLifecycleV1 where
  | staged
  | serving
  | draining
  deriving DecidableEq

inductive SlotInstallOutcomeV1 where
  | staged
  | alreadyStaged
  | alreadyServing
  | alreadyDraining
  deriving DecidableEq

inductive ServingSlotRegistryError where
  | targetSlotMismatch
  | staleFencingToken (minimum actual : FencingToken)
  | staleRuntimeGeneration (minimum actual : RuntimeGeneration)
  | runtimeGenerationIdentityConflict
  | authorityTargetMismatch
  | nonSuccessorFencingToken (expected actual : FencingToken)
  | fencingTokenExhausted
  | staleMutationToken
  | activationTargetMismatch
  | notServing
  | activeInteractionCapacityExceeded
  | notDraining
  | activeInteractionsRemain (active : Nat)
  | retiredRouteCapacityExceeded
  | slotCapacityExceeded
  | incarnationExhausted
  | slotSequenceExhausted
  | registrySequenceExhausted
  | registryObservationInvalid
  | registryObservationOverflow
  | registryRecoveryNotEmpty
  | staleRegistryEmptyRecoveryCursor
  | admissionGenerationMismatch (expected actual : NonZeroU64)
  | staleSlotObservation
  | slotSealed
  | staleSlotSeal
  | v4RegistryMismatch
  | v4CapabilityStale
  | v4RouteMismatch
  | v4LifecycleMismatch
  | v4FenceMismatch
  | v4GuardMismatch
  | v4ReceiptMismatch
  | v4ObservationMismatch
  | v4EmptySuccessionMismatch
  deriving DecidableEq

/-- A registry is known by the number of its lifetime, which no other registry has. -/
structure RegistryInner where
  lifetime : NonZeroU64
  config : ServingSlotRegistryConfigV1

structure SlotMutationTokenV1 where
  registry : NonZeroU64
  key : ServingSlotKeyV1
  identity : RuntimeProcessIdentityV1
  fencingToken : FencingToken
  incarnation : NonZeroU64
  deriving DecidableEq

structure SlotRouteWitnessV1 where
  identity : RuntimeProcessIdentityV1
  fencingToken : FencingToken
  incarnation : NonZeroU64
  lifecycle : SlotLifecycleV1
  deriving DecidableEq

structure SlotSealKeyV2 where
  bytes : List UInt8
  length : bytes.length = 16
  deriving DecidableEq

structure FenceHighWater where
  generation : RuntimeGeneration
  fencingToken : FencingToken
  identity : RuntimeProcessIdentityV1
  deriving DecidableEq

structure RouteRecord where
  route : ExactServingRouteV1
  fencingToken : FencingToken
  incarnation : NonZeroU64
  lifecycle : SlotLifecycleV1
  activeInteractions : Nat
  activationSequence : Option NonZeroU64
  deriving DecidableEq

structure SlotSealState where
  sealKey : SlotSealKeyV2
  sealGeneration : NonZeroU64
  route : Option SlotRouteWitnessV1
  sourceRoute : Option SlotRouteWitnessV1
  sourceAdmissionGeneration : NonZeroU64
  sourceObservationSequence : NonZeroU64
  sourceRegistryObservationSequence : NonZeroU64
  deriving DecidableEq

/-- `retired` maps the incarnations of its routes to them. -/
structure SlotCell where
  highWater : Option FenceHighWater
  current : Option RouteRecord
  staged : Option RouteRecord
  retired : List RouteRecord
  admissionGeneration : NonZeroU64
  observationSequence : NonZeroU64
  nextActivationSequence : Nat
  nextSealGeneration : Nat
  sealState : Option SlotSealState
  failedClosed : Bool
  deriving DecidableEq

def nonZeroMin : NonZeroU64 := ⟨1, Nat.one_pos, NonZeroU64.one_bounded⟩

def SlotCell.fresh : SlotCell where
  highWater := none
  current := none
  staged := none
  retired := []
  admissionGeneration := nonZeroMin
  observationSequence := nonZeroMin
  nextActivationSequence := 0
  nextSealGeneration := 0
  sealState := none
  failedClosed := false

structure RegistryObservationState where
  sequence : NonZeroU64
  failedClosed : Bool
  deriving DecidableEq

structure RegistryState where
  slots : AList fun _ : ServingSlotKeyV1 => SlotCell
  nextIncarnation : Nat
  observation : RegistryObservationState

def RegistryState.fresh : RegistryState where
  slots := ∅
  nextIncarnation := 0
  observation := { sequence := nonZeroMin, failedClosed := false }

/-- What an operation on one slot works on. -/
structure BorrowedSlot where
  observation : RegistryObservationState
  slot : SlotCell

abbrev OnRegistry := Calls ServingSlotRegistryError RegistryState
abbrev OnSlot := Calls ServingSlotRegistryError BorrowedSlot

section Records
variable (self : RouteRecord)

def RouteRecord.mutationToken (registry : RegistryInner) (key : ServingSlotKeyV1) : SlotMutationTokenV1 where
  registry := registry.lifetime
  key := key
  identity := self.route.identity
  fencingToken := self.fencingToken
  incarnation := self.incarnation

def RouteRecord.matches (token : SlotMutationTokenV1) : Bool :=
  self.incarnation = token.incarnation ∧ self.fencingToken = token.fencingToken ∧ self.route.identity = token.identity

def routeWitnessV1 : SlotRouteWitnessV1 where
  identity := self.route.identity
  fencingToken := self.fencingToken
  incarnation := self.incarnation
  lifecycle := self.lifecycle

def validateRemovable : Except ServingSlotRegistryError Unit := do
  rejectIf (self.lifecycle ≠ .draining) .notDraining
  rejectIf (0 < self.activeInteractions) (.activeInteractionsRemain self.activeInteractions)

end Records

section Counters

/-- `checked_add(1)` on a `u64`; the sum is not zero. -/
def checkedSuccessor (value : Nat) : Option NonZeroU64 :=
  if room : value + 1 < 2 ^ 64 then some ⟨value + 1, Nat.succ_pos value, room⟩ else none

def successor (value : NonZeroU64) : Option NonZeroU64 := checkedSuccessor value.get

def ensureSlotOpen (slot : SlotCell) : Except ServingSlotRegistryError Unit :=
  rejectIf (slot.failedClosed = true) .slotSequenceExhausted

def ensureSlotUnsealed (slot : SlotCell) : Except ServingSlotRegistryError Unit :=
  rejectIf (slot.sealState.isSome = true) .slotSealed

def ensureRegistryOpen (observation : RegistryObservationState) : Except ServingSlotRegistryError Unit :=
  rejectIf (observation.failedClosed = true) .registrySequenceExhausted

/-- The last number is given out, but what would have it fails. -/
def advanceRegistryObservation (observation : RegistryObservationState) :
    Except ServingSlotRegistryError Unit × RegistryObservationState :=
  match ensureRegistryOpen observation with
  | .error error => (.error error, observation)
  | .ok _ =>
    match successor observation.sequence with
    | none => (.error .registrySequenceExhausted, { observation with failedClosed := true })
    | some sequence =>
      if sequence.get = 2 ^ 64 - 1 then (.error .registrySequenceExhausted, { sequence, failedClosed := true })
      else (.ok (), { observation with sequence })

/-- The slot gets its next numbers after the registry; a slot that has run out of them is closed. -/
def advanceSlot {α : Type} (numbers : SlotCell → Option (α × SlotCell)) : OnSlot α := fun borrowed =>
  match ensureSlotOpen borrowed.slot with
  | .error error => (.error error, borrowed)
  | .ok _ =>
    match advanceRegistryObservation borrowed.observation with
    | (.error error, observation) => (.error error, { borrowed with observation })
    | (.ok _, observation) =>
      match numbers borrowed.slot with
      | none => (.error .slotSequenceExhausted, { observation, slot := { borrowed.slot with failedClosed := true } })
      | some (value, slot) => (.ok value, { observation, slot })

def mutationNumbers (slot : SlotCell) : Option (Unit × SlotCell) := do
  let admissionGeneration ← successor slot.admissionGeneration
  let observationSequence ← successor slot.observationSequence
  some ((), { slot with admissionGeneration, observationSequence })

def activationNumbers (slot : SlotCell) : Option (NonZeroU64 × SlotCell) := do
  let admissionGeneration ← successor slot.admissionGeneration
  let observationSequence ← successor slot.observationSequence
  let activationSequence ← checkedSuccessor slot.nextActivationSequence
  some (activationSequence,
    { slot with admissionGeneration, observationSequence, nextActivationSequence := activationSequence.get })

/-- The seal of a slot that is made for it leaves the first numbers to the slot. -/
def sealNumbers (materializing : Bool) (slot : SlotCell) : Option (NonZeroU64 × SlotCell) := do
  let admissionGeneration ← if materializing then some slot.admissionGeneration else successor slot.admissionGeneration
  let observationSequence ← if materializing then some slot.observationSequence else successor slot.observationSequence
  let sealGeneration ← checkedSuccessor slot.nextSealGeneration
  some (sealGeneration, { slot with admissionGeneration, observationSequence, nextSealGeneration := sealGeneration.get })

def observationNumbers (slot : SlotCell) : Option (Unit × SlotCell) := do
  let observationSequence ← successor slot.observationSequence
  some ((), { slot with observationSequence })

def advanceSlotMutation : OnSlot Unit := advanceSlot mutationNumbers
def advanceSlotActivation : OnSlot NonZeroU64 := advanceSlot activationNumbers
def advanceSlotSeal (materializing : Bool) : OnSlot NonZeroU64 := advanceSlot (sealNumbers materializing)
def advanceSlotObservation : OnSlot Unit := advanceSlot observationNumbers

/-- Unlike the others this goes on with a slot that is closed, or that it has to close. -/
def advanceObservationOrClose (borrowed : BorrowedSlot) : Bool × BorrowedSlot :=
  if borrowed.observation.failedClosed then (false, borrowed)
  else
    match advanceRegistryObservation borrowed.observation with
    | (.error _, observation) => (false, { borrowed with observation })
    | (.ok _, observation) =>
      if borrowed.slot.failedClosed then (true, { borrowed with observation })
      else
        match successor borrowed.slot.observationSequence with
        | none => (true, { observation, slot := { borrowed.slot with failedClosed := true } })
        | some observationSequence => (true, { observation, slot := { borrowed.slot with observationSequence } })

end Counters

/-- `retired.get`. -/
def SlotCell.findRetired (self : SlotCell) (incarnation : NonZeroU64) : Option RouteRecord :=
  self.retired.find? fun route => route.incarnation = incarnation

def selectedRoute (slot : SlotCell) : Option RouteRecord := slot.current.or slot.staged

inductive SlotAdmissionStateV2 where
  | empty
  | staged
  | serving
  | drainClaimSealed (sealKey : SlotSealKeyV2) (sealGeneration : NonZeroU64)
  | draining
  deriving DecidableEq

structure SlotAtomicObservationV2 where
  route : Option SlotRouteWitnessV1
  admissionState : SlotAdmissionStateV2
  activeInteractions : Nat
  admissionGeneration : NonZeroU64
  observationSequence : NonZeroU64
  deriving DecidableEq

def SlotCell.admissionState (self : SlotCell) : SlotAdmissionStateV2 :=
  match self.sealState with
  | some sealed => .drainClaimSealed sealed.sealKey sealed.sealGeneration
  | none =>
    match (selectedRoute self).map RouteRecord.lifecycle with
    | some .staged => .staged
    | some .serving => .serving
    | some .draining => .draining
    | none => .empty

def SlotCell.observed (self : SlotCell) : SlotAtomicObservationV2 where
  route := (selectedRoute self).map routeWitnessV1
  admissionState := self.admissionState
  activeInteractions := (selectedRoute self).elim 0 RouteRecord.activeInteractions
  admissionGeneration := self.admissionGeneration
  observationSequence := self.observationSequence

def atomicObservationV2 (slot : SlotCell) : Except ServingSlotRegistryError SlotAtomicObservationV2 := do
  ensureSlotOpen slot
  pure slot.observed

section Recovery

structure RegistryRecoveryCountsV2 where
  retainedEmptyTombstoneCount : Nat := 0
  stagedRouteCount : Nat := 0
  servingRouteCount : Nat := 0
  drainingRouteCount : Nat := 0
  sealedSlotCount : Nat := 0
  activeInteractionCount : Nat := 0
  failedClosedSlotCount : Nat := 0
  deriving DecidableEq

structure RegistryRecoveryObservationV2 where
  observationSequence : NonZeroU64
  retainedSlotCount : Nat
  counts : RegistryRecoveryCountsV2
  registryFailedClosed : Bool
  deriving DecidableEq

def RegistryRecoveryObservationV2.isRecoveryEmpty (self : RegistryRecoveryObservationV2) : Bool :=
  self.registryFailedClosed = false ∧ self.counts.stagedRouteCount = 0 ∧ self.counts.servingRouteCount = 0 ∧
    self.counts.drainingRouteCount = 0 ∧ self.counts.sealedSlotCount = 0 ∧ self.counts.activeInteractionCount = 0 ∧
    self.counts.failedClosedSlotCount = 0

/-- Every route of the slot is where its lifecycle says, and a seal names the selected one. -/
def SlotCell.isConsistent (self : SlotCell) : Bool :=
  self.sealState.all (fun sealed => sealed.route = (selectedRoute self).map routeWitnessV1) ∧
    self.staged.all (fun route => route.lifecycle = .staged ∧ route.activeInteractions = 0) ∧
    self.current.all (fun route => route.lifecycle ≠ .staged) ∧
    self.retired.all fun route => route.lifecycle = .draining

def SlotCell.routes (self : SlotCell) : List RouteRecord := self.staged.toList ++ self.current.toList ++ self.retired

def SlotCell.isTombstone (self : SlotCell) : Bool :=
  self.current = none ∧ self.staged = none ∧ self.retired = [] ∧ self.sealState = none

def SlotCell.counts (self : SlotCell) : RegistryRecoveryCountsV2 where
  retainedEmptyTombstoneCount := self.isTombstone.toNat
  stagedRouteCount := self.routes.countP fun route => route.lifecycle = .staged
  servingRouteCount := self.routes.countP fun route => route.lifecycle = .serving
  drainingRouteCount := self.routes.countP fun route => route.lifecycle = .draining
  sealedSlotCount := self.sealState.isSome.toNat
  activeInteractionCount := (self.routes.map RouteRecord.activeInteractions).sum
  failedClosedSlotCount := self.failedClosed.toNat

namespace RegistryRecoveryCountsV2

def add (self other : RegistryRecoveryCountsV2) : RegistryRecoveryCountsV2 where
  retainedEmptyTombstoneCount := self.retainedEmptyTombstoneCount + other.retainedEmptyTombstoneCount
  stagedRouteCount := self.stagedRouteCount + other.stagedRouteCount
  servingRouteCount := self.servingRouteCount + other.servingRouteCount
  drainingRouteCount := self.drainingRouteCount + other.drainingRouteCount
  sealedSlotCount := self.sealedSlotCount + other.sealedSlotCount
  activeInteractionCount := self.activeInteractionCount + other.activeInteractionCount
  failedClosedSlotCount := self.failedClosedSlotCount + other.failedClosedSlotCount

/-- Every count is a `u64`. -/
def fits (self : RegistryRecoveryCountsV2) : Bool :=
  self.retainedEmptyTombstoneCount < 2 ^ 64 ∧ self.stagedRouteCount < 2 ^ 64 ∧ self.servingRouteCount < 2 ^ 64 ∧
    self.drainingRouteCount < 2 ^ 64 ∧ self.sealedSlotCount < 2 ^ 64 ∧ self.activeInteractionCount < 2 ^ 64 ∧
    self.failedClosedSlotCount < 2 ^ 64

end RegistryRecoveryCountsV2

def countSlot (counts : RegistryRecoveryCountsV2) (slot : SlotCell) :
    Except ServingSlotRegistryError RegistryRecoveryCountsV2 := do
  rejectIf (slot.isConsistent = false) .registryObservationInvalid
  rejectIf ((counts.add slot.counts).fits = false) .registryObservationOverflow
  pure (counts.add slot.counts)

def RegistryState.cells (self : RegistryState) : List SlotCell := self.slots.entries.map Sigma.snd

def registryRecoveryObservationV2 (state : RegistryState) :
    Except ServingSlotRegistryError RegistryRecoveryObservationV2 := do
  let counts ← state.cells.foldlM countSlot {}
  pure
    { observationSequence := state.observation.sequence
      retainedSlotCount := state.slots.entries.length
      counts := counts
      registryFailedClosed := state.observation.failedClosed }

end Recovery

section Fences

def installedOutcome : SlotLifecycleV1 → SlotInstallOutcomeV1
  | .serving => .alreadyServing
  | .draining => .alreadyDraining
  | .staged => .alreadyStaged

def findExactInstalled (slot : SlotCell) (identity : RuntimeProcessIdentityV1) (fencingToken : FencingToken) :
    Option (RouteRecord × SlotInstallOutcomeV1) :=
  let installed (route : RouteRecord) : Bool := route.route.identity = identity ∧ route.fencingToken = fencingToken
  match slot.staged.filter installed with
  | some staged => some (staged, .alreadyStaged)
  | none => (slot.current.filter installed).map fun current => (current, installedOutcome current.lifecycle)

def SlotCell.highWaterOf (slot : Option SlotCell) : Option FenceHighWater := slot.bind SlotCell.highWater

def validateNewFence (slot : Option SlotCell) (identity : RuntimeProcessIdentityV1) (fencingToken : FencingToken) :
    Except ServingSlotRegistryError Unit :=
  match SlotCell.highWaterOf slot with
  | none => pure ()
  | some highWater => do
    rejectIf (identity.runtimeGeneration < highWater.generation)
      (.staleRuntimeGeneration highWater.generation identity.runtimeGeneration)
    if highWater.generation < identity.runtimeGeneration then pure ()
    else
      rejectIf (identity ≠ highWater.identity) .runtimeGenerationIdentityConflict
      rejectIf (fencingToken ≤ highWater.fencingToken) (.staleFencingToken highWater.fencingToken fencingToken)

def nextIncarnation (state : RegistryState) : Except ServingSlotRegistryError NonZeroU64 :=
  orReject (checkedSuccessor state.nextIncarnation) .incarnationExhausted

def ensureHighWater (slot : Option SlotCell) (token : SlotMutationTokenV1) : Except ServingSlotRegistryError Unit :=
  match SlotCell.highWaterOf slot with
  | none => .error .staleMutationToken
  | some highWater =>
    rejectIf (¬(highWater.identity = token.identity ∧ highWater.fencingToken = token.fencingToken)) .staleMutationToken

def findRecord (slot : SlotCell) (token : SlotMutationTokenV1) : Option RouteRecord :=
  ((slot.current.filter fun route => route.matches token).or (slot.staged.filter fun route => route.matches token)).or
    ((slot.findRetired token.incarnation).filter fun route => route.matches token)

end Fences

section Access

def ensureRegistryToken (registry : RegistryInner) (token : SlotMutationTokenV1) : Except ServingSlotRegistryError Unit :=
  rejectIf (token.registry ≠ registry.lifetime) .staleMutationToken

def lockState : OnRegistry Unit := Calls.examine fun state => ensureRegistryOpen state.observation

/-- What was borrowed is given back, also after a failure. -/
def RegistryState.giveBack (self : RegistryState) (key : ServingSlotKeyV1) (borrowed : BorrowedSlot) : RegistryState :=
  { self with slots := self.slots.insert key borrowed.slot, observation := borrowed.observation }

def onSlot {α : Type} (key : ServingSlotKeyV1) (missing : ServingSlotRegistryError) (body : OnSlot α) : OnRegistry α :=
  fun state =>
    match state.slots.lookup key with
    | none => (.error missing, state)
    | some slot => ((body ⟨state.observation, slot⟩).1, state.giveBack key (body ⟨state.observation, slot⟩).2)

def borrowedSlot : OnSlot SlotCell := fun borrowed => (.ok borrowed.slot, borrowed)

def modifySlot (change : SlotCell → SlotCell) : OnSlot Unit :=
  Calls.modify fun borrowed => { borrowed with slot := change borrowed.slot }

end Access

end Starring.Registry
