import Starring.Registry.Observations

/-! The port of the worker. The worker drives a drain with receipts of what it has stored durably; the port compares a
receipt with the capability at hand, makes the step and reports it. What it reports can always be said, so that a step that
was made is never reported as a failure, and what fails leaves all routes as they were. -/

namespace Starring.Registry
open Foundation Convergence Calls

section Digests

/-- `to_be_bytes`. -/
def toBeBytes (value : Nat) : List UInt8 := [7, 6, 5, 4, 3, 2, 1, 0].map fun place => UInt8.ofNat (value / 256 ^ place)

/-- `rotate_left` of a `u64`. -/
def rotateLeft (value amount : Nat) : Nat := value * 2 ^ amount % 2 ^ 64 + value / 2 ^ (64 - amount)

/-- `next_registry_lifetime_digest`, for the number that a registry gets. -/
def registryLifetimeDigest (sequence : NonZeroU64) : List UInt8 :=
  toBeBytes sequence.get ++ toBeBytes (rotateLeft sequence.get 17) ++ toBeBytes (rotateLeft sequence.get 37) ++
    toBeBytes (rotateLeft sequence.get 53)

@[ext] structure RuntimePendingDrainEvidenceDigestV4 where
  bytes : List UInt8
  nonZero : bytes.any (fun byte => byte ≠ 0) = true

instance : DecidableEq RuntimePendingDrainEvidenceDigestV4 := fun _ _ => decidable_of_iff _ RuntimePendingDrainEvidenceDigestV4.ext_iff.symm

def runtimeEvidenceDigest (value : List UInt8) :
    Except ServingSlotRegistryError RuntimePendingDrainEvidenceDigestV4 :=
  if nonZero : value.any (fun byte => byte ≠ 0) = true then .ok ⟨value, nonZero⟩ else .error .v4RegistryMismatch

theorem runtimeEvidenceDigest_ok {value : List UInt8} (nonZero : value.any (fun byte => byte ≠ 0) = true) :
    runtimeEvidenceDigest value = .ok ⟨value, nonZero⟩ :=
  dif_pos nonZero

theorem registryLifetimeDigest_nonZero (sequence : NonZeroU64) :
    (registryLifetimeDigest sequence).any (fun byte => byte ≠ 0) = true := by
  have shows : (toBeBytes sequence.get).any (fun byte => byte ≠ 0) = true := by
    by_contra allZero
    have zero (place : Nat) (isPlace : place ∈ [7, 6, 5, 4, 3, 2, 1, 0]) : sequence.get / 256 ^ place % 256 = 0 := by
      have byte := allZero
      simp only [toBeBytes, List.any_map, List.any_eq_true, not_exists, not_and, Function.comp_apply, decide_eq_true_eq,
        ne_eq, Decidable.not_not] at byte
      simpa using congrArg UInt8.toNat (byte place isPlace)
    have positive := sequence.positive
    have bounded := sequence.bounded
    have byte0 := zero 0 (by simp)
    have byte1 := zero 1 (by simp)
    have byte2 := zero 2 (by simp)
    have byte3 := zero 3 (by simp)
    have byte4 := zero 4 (by simp)
    have byte5 := zero 5 (by simp)
    have byte6 := zero 6 (by simp)
    have byte7 := zero 7 (by simp)
    omega
  simp only [registryLifetimeDigest, List.any_append, shows, Bool.true_or]

end Digests

section Reports

structure RuntimeRoutedSealPortObservationV4 where
  registryLifetimeDigest : RuntimePendingDrainEvidenceDigestV4
  processInstanceId : ProcessInstanceId
  intentId : RuntimeDrainIntentIdV2
  slot : ServingSlotKeyV1
  sealKey : SlotSealKeyV2
  sealGeneration : NonZeroU64
  admissionGeneration : NonZeroU64
  route : RuntimeExactLocalRouteIdentityV2
  slotObservationSequence : NonZeroU64
  registryObservationSequence : NonZeroU64
  activeGuards : Nat

structure RuntimeRoutedClaimedSealPortObservationV4 where
  routed : RuntimeRoutedSealPortObservationV4
  claimFence : FencingToken
  claimReceiptDigest : RuntimePendingDrainEvidenceDigestV4

structure RuntimeLocalRefencePortObservationV4 where
  claimed : RuntimeRoutedClaimedSealPortObservationV4
  oldRoute : RuntimeExactLocalRouteIdentityV2
  removalTarget : RuntimeExactLocalRouteIdentityV2
  provenance : RuntimeRouteMutationProvenanceV2
  registryObservationSequence : NonZeroU64
  refencedAt : DateTime
  activeGuards : Nat

structure RuntimeDurableRefencePortObservationV4 where
  localRefence : RuntimeLocalRefencePortObservationV4
  refenceReceiptDigest : RuntimePendingDrainEvidenceDigestV4

structure RuntimeRouteAbsentPortObservationV4 where
  registryLifetimeDigest : RuntimePendingDrainEvidenceDigestV4
  processInstanceId : ProcessInstanceId
  intentId : RuntimeDrainIntentIdV2
  slot : ServingSlotKeyV1
  sealKey : SlotSealKeyV2
  sealGeneration : NonZeroU64
  admissionGeneration : NonZeroU64
  sourceRoute : RuntimeExactLocalRouteIdentityV2
  removedRoute : RuntimeExactLocalRouteIdentityV2
  claimReceiptDigest : RuntimePendingDrainEvidenceDigestV4
  refenceReceiptDigest : RuntimePendingDrainEvidenceDigestV4
  slotObservationSequence : NonZeroU64
  registryObservationSequence : NonZeroU64
  activeGuards : Nat

structure RuntimeEmptySuccessionPortObservationV4 where
  registryLifetimeDigest : RuntimePendingDrainEvidenceDigestV4
  processInstanceId : ProcessInstanceId
  successorIdentity : RuntimeProcessIdentityV1
  intentId : RuntimeDrainIntentIdV2
  slot : ServingSlotKeyV1
  sealKey : SlotSealKeyV2
  sealGeneration : NonZeroU64
  admissionGeneration : NonZeroU64
  predecessorRoute : RuntimeExactLocalRouteIdentityV2
  possibleRouteFenceCeiling : FencingToken
  successorFence : FencingToken
  slotObservationSequence : NonZeroU64
  registryObservationSequence : NonZeroU64
  activeGuards : Nat

def workerRouteIdentity (route : SlotRouteWitnessV1) : RuntimeExactLocalRouteIdentityV2 where
  identity := route.identity
  controllerFencingToken := route.fencingToken
  routeIncarnation := route.incarnation

def routedPortObservation (binding : SealedRouteBindingV4) :
    Except ServingSlotRegistryError RuntimeRoutedSealPortObservationV4 := do
  let digest ← runtimeEvidenceDigest (registryLifetimeDigest binding.registry)
  pure
    { registryLifetimeDigest := digest
      processInstanceId := binding.sourceRoute.identity.processInstanceId
      intentId := binding.intentId
      slot := .fromTarget binding.sourceRoute.identity.target
      sealKey := binding.sealKey
      sealGeneration := binding.sealGeneration
      admissionGeneration := binding.routedSlotObservation.admissionGeneration
      route := workerRouteIdentity binding.sourceRoute
      slotObservationSequence := binding.routedSlotObservation.observationSequence
      registryObservationSequence := binding.routedRegistryObservationSequence
      activeGuards := binding.routedSlotObservation.activeInteractions }

def claimedPortObservationParts (binding : SealedRouteBindingV4) (claimFence : FencingToken)
    (claimReceiptDigest : RegistryDurableReceiptDigestV4) :
    Except ServingSlotRegistryError RuntimeRoutedClaimedSealPortObservationV4 := do
  let routed ← routedPortObservation binding
  let digest ← runtimeEvidenceDigest claimReceiptDigest.bytes
  pure { routed, claimFence, claimReceiptDigest := digest }

def claimedPortObservation (source : RoutedClaimedSealedV4) :
    Except ServingSlotRegistryError RuntimeRoutedClaimedSealPortObservationV4 :=
  claimedPortObservationParts source.binding source.claimFence source.claimReceiptDigest

def localPortObservation (source : LocallyRefencedSealedV4) :
    Except ServingSlotRegistryError RuntimeLocalRefencePortObservationV4 := do
  let claimed ← claimedPortObservationParts source.binding source.binding.currentRoute.fencingToken source.claimReceiptDigest
  pure
    { claimed
      oldRoute := workerRouteIdentity source.binding.sourceRoute
      removalTarget := workerRouteIdentity source.binding.currentRoute
      provenance := source.provenance
      registryObservationSequence := source.refencedRegistryObservationSequence
      refencedAt := source.refencedAt
      activeGuards := source.binding.slotObservation.activeInteractions }

def routeAbsentPortObservation (source : RouteAbsentSealedV4) :
    Except ServingSlotRegistryError RuntimeRouteAbsentPortObservationV4 := do
  let digest ← runtimeEvidenceDigest (registryLifetimeDigest source.binding.registry)
  let claimReceiptDigest ← runtimeEvidenceDigest source.claimReceiptDigest.bytes
  let refenceReceiptDigest ← runtimeEvidenceDigest source.refenceReceiptDigest.bytes
  pure
    { registryLifetimeDigest := digest
      processInstanceId := source.binding.sourceRoute.identity.processInstanceId
      intentId := source.binding.intentId
      slot := .fromTarget source.binding.sourceRoute.identity.target
      sealKey := source.binding.sealKey
      sealGeneration := source.binding.sealGeneration
      admissionGeneration := source.binding.slotObservation.admissionGeneration
      sourceRoute := workerRouteIdentity source.binding.sourceRoute
      removedRoute := workerRouteIdentity source.binding.removedRoute
      claimReceiptDigest
      refenceReceiptDigest
      slotObservationSequence := source.binding.slotObservation.observationSequence
      registryObservationSequence := source.binding.registryObservationSequence
      activeGuards := source.binding.slotObservation.activeInteractions }

def emptySuccessionPortObservation (source : EmptySuccessionSealedV4) :
    Except ServingSlotRegistryError RuntimeEmptySuccessionPortObservationV4 := do
  let digest ← runtimeEvidenceDigest (registryLifetimeDigest source.sealedClaim.claim.registry)
  pure
    { registryLifetimeDigest := digest
      processInstanceId := source.successorIdentity.processInstanceId
      successorIdentity := source.successorIdentity
      intentId := source.intentId
      slot := .fromTarget source.successorIdentity.target
      sealKey := source.sealedClaim.claim.sealKey
      sealGeneration := source.sealedClaim.claim.sealGeneration
      admissionGeneration := source.sealedClaim.slotObservation.admissionGeneration
      predecessorRoute := ⟨source.predecessorRoute.identity, source.predecessorRoute.sourceRouteFence,
        source.predecessorRoute.incarnation⟩
      possibleRouteFenceCeiling := source.predecessorRoute.possibleRouteFenceCeiling
      successorFence := source.successorFence
      slotObservationSequence := source.sealedClaim.slotObservation.observationSequence
      registryObservationSequence := source.sealedClaim.registryObservation.observationSequence
      activeGuards := source.sealedClaim.slotObservation.activeInteractions }

theorem routedPortObservation_ok (binding : SealedRouteBindingV4) : ∃ report, routedPortObservation binding = .ok report := by
  simp only [routedPortObservation, runtimeEvidenceDigest_ok (registryLifetimeDigest_nonZero binding.registry)]
  exact ⟨_, rfl⟩

theorem claimedPortObservationParts_ok (binding : SealedRouteBindingV4) (claimFence : FencingToken)
    (digest : RegistryDurableReceiptDigestV4) : ∃ report, claimedPortObservationParts binding claimFence digest = .ok report := by
  obtain ⟨routed, isRouted⟩ := routedPortObservation_ok binding
  simp only [claimedPortObservationParts, isRouted, runtimeEvidenceDigest_ok digest.nonZero]
  exact ⟨_, rfl⟩

theorem localPortObservation_ok (source : LocallyRefencedSealedV4) : ∃ report, localPortObservation source = .ok report := by
  obtain ⟨claimed, isClaimed⟩ :=
    claimedPortObservationParts_ok source.binding source.binding.currentRoute.fencingToken source.claimReceiptDigest
  simp only [localPortObservation, isClaimed]
  exact ⟨_, rfl⟩

theorem routeAbsentPortObservation_ok (source : RouteAbsentSealedV4) :
    ∃ report, routeAbsentPortObservation source = .ok report := by
  simp only [routeAbsentPortObservation, runtimeEvidenceDigest_ok (registryLifetimeDigest_nonZero source.binding.registry),
    runtimeEvidenceDigest_ok source.claimReceiptDigest.nonZero, runtimeEvidenceDigest_ok source.refenceReceiptDigest.nonZero]
  exact ⟨_, rfl⟩

theorem emptySuccessionPortObservation_ok (source : EmptySuccessionSealedV4) :
    ∃ report, emptySuccessionPortObservation source = .ok report := by
  simp only [emptySuccessionPortObservation,
    runtimeEvidenceDigest_ok (registryLifetimeDigest_nonZero source.sealedClaim.claim.registry)]
  exact ⟨_, rfl⟩

end Reports

section Receipts

structure RuntimeRoutedSealedWitnessV4 where
  registryLifetimeDigest : List UInt8
  processInstanceId : ProcessInstanceId
  intentId : RuntimeDrainIntentIdV2
  slot : ServingSlotKeyV1
  sealKey : List UInt8
  sealGeneration : NonZeroU64
  admissionGeneration : NonZeroU64
  route : RuntimeExactLocalRouteIdentityV2
  slotObservationSequence : NonZeroU64
  registryObservationSequence : NonZeroU64

structure RuntimeSelectedUnclaimedPendingDrainV4 where
  slot : ServingSlotKeyV1
  expectedTarget : RuntimeDeploymentTargetV1
  currentOwnerProcessInstanceId : ProcessInstanceId
  sourceDeploymentFence : FencingToken
  intentId : RuntimeDrainIntentIdV2

structure RuntimeDurableRoutedClaimReceiptV4 where
  sourceSeal : RuntimeRoutedSealedWitnessV4
  claimFence : FencingToken
  terminalDigest : RegistryDurableReceiptDigestV4

structure RuntimeAuthorizedRegistryRefenceEvidenceV4 where
  registryLifetimeDigest : List UInt8
  processInstanceId : ProcessInstanceId
  intentId : RuntimeDrainIntentIdV2
  sealGeneration : NonZeroU64
  routeIncarnation : NonZeroU64
  controllerFence : FencingToken
  minimumRefencedAt : DateTime
  ownerExpiresAt : DateTime
  provenance : RuntimeRouteMutationProvenanceV2

structure RuntimeDurableRefenceReceiptV4 where
  sourceSeal : RuntimeRoutedSealedWitnessV4
  sourceRoute : RuntimeExactLocalRouteIdentityV2
  removalTarget : RuntimeExactLocalRouteIdentityV2
  claimReceiptDigest : List UInt8
  registryObservationSequence : NonZeroU64
  terminalDigest : RegistryDurableReceiptDigestV4

structure RuntimeDurableSameProcessDrainAcknowledgementV4 where
  registryLifetimeDigest : List UInt8
  processInstanceId : ProcessInstanceId
  intentId : RuntimeDrainIntentIdV2
  slot : ServingSlotKeyV1
  sealKey : List UInt8
  sealGeneration : NonZeroU64
  admissionGeneration : NonZeroU64
  slotObservationSequence : NonZeroU64
  registryObservationSequence : NonZeroU64
  sourceRoute : RuntimeExactLocalRouteIdentityV2
  removedRoute : RuntimeExactLocalRouteIdentityV2
  claimReceiptDigest : List UInt8
  refenceReceiptDigest : List UInt8
  terminalDigest : RegistryDurableReceiptDigestV4

structure RuntimeDurablePreviousProcessDrainTeardownV4 where
  registryLifetimeDigest : List UInt8
  processInstanceId : ProcessInstanceId
  intentId : RuntimeDrainIntentIdV2
  slot : ServingSlotKeyV1
  sealKey : List UInt8
  sealGeneration : NonZeroU64
  admissionGeneration : NonZeroU64
  slotObservationSequence : NonZeroU64
  registryObservationSequence : NonZeroU64
  predecessorRoute : RuntimeExactLocalRouteIdentityV2
  possibleRouteFenceCeiling : FencingToken
  successorIdentity : RuntimeProcessIdentityV1
  successorFence : FencingToken
  terminalDigest : RegistryDurableReceiptDigestV4

/-- What an expired owner has left behind; a drain without a route is left to others. -/
structure RuntimeExpiredPreviousOwnerEvidenceV4 where
  intentId : RuntimeDrainIntentIdV2
  slot : ServingSlotKeyV1
  expectedTarget : RuntimeDeploymentTargetV1
  currentOwnerProcessInstanceId : ProcessInstanceId
  claim : Option (FencingToken × Option RuntimeExactLocalRouteIdentityV2)

inductive RuntimeSelectedExpiredPreviousOwnerV4 where
  | routeAbsentClaimed
  | routedClaimed (common : RuntimeExpiredPreviousOwnerEvidenceV4)
  | refenced (common : RuntimeExpiredPreviousOwnerEvidenceV4)

structure RuntimeEmptySuccessionSealRequestV4 where
  intentId : RuntimeDrainIntentIdV2
  slot : ServingSlotKeyV1
  predecessorRoute : RuntimeExactLocalRouteIdentityV2
  possibleRouteFenceCeiling : FencingToken
  successorProcessInstanceId : ProcessInstanceId
  successorTarget : RuntimeDeploymentTargetV1
  successorFence : FencingToken

def RuntimeSelectedExpiredPreviousOwnerV4.common :
    RuntimeSelectedExpiredPreviousOwnerV4 → Option RuntimeExpiredPreviousOwnerEvidenceV4
  | .routeAbsentClaimed => none
  | .routedClaimed common | .refenced common => some common

/-- `empty_succession_seal_request`; all its errors are reported as the same one. -/
def RuntimeSelectedExpiredPreviousOwnerV4.emptySuccessionSealRequest (self : RuntimeSelectedExpiredPreviousOwnerV4) :
    Except ServingSlotRegistryError RuntimeEmptySuccessionSealRequestV4 := do
  let common ← orReject self.common .v4EmptySuccessionMismatch
  let (controllerFencingToken, expectedRoute) ← orReject common.claim .v4EmptySuccessionMismatch
  let predecessorRoute ← orReject expectedRoute .v4EmptySuccessionMismatch
  let successorFence ← controllerFencingToken.next.mapError fun _ => .v4EmptySuccessionMismatch
  pure
    { intentId := common.intentId
      slot := common.slot
      predecessorRoute
      possibleRouteFenceCeiling := controllerFencingToken
      successorProcessInstanceId := common.currentOwnerProcessInstanceId
      successorTarget := common.expectedTarget
      successorFence }

def routeMatchesWorker (route : SlotRouteWitnessV1) (worker : RuntimeExactLocalRouteIdentityV2) (lifecycle : SlotLifecycleV1) :
    Bool :=
  route.identity = worker.identity ∧ route.fencingToken = worker.controllerFencingToken ∧
    route.incarnation = worker.routeIncarnation ∧ route.lifecycle = lifecycle

def validateRoutedSealStatic (binding : SealedRouteBindingV4) (witness : RuntimeRoutedSealedWitnessV4) :
    Except ServingSlotRegistryError Unit :=
  rejectIf
    (witness.registryLifetimeDigest ≠ registryLifetimeDigest binding.registry ∨
      witness.processInstanceId ≠ binding.sourceRoute.identity.processInstanceId ∨ witness.intentId ≠ binding.intentId ∨
      witness.intentId.canonicalBytes ≠ witness.sealKey ∨ binding.key ≠ witness.slot ∨
      binding.sealKey.bytes ≠ witness.sealKey ∨ binding.sealGeneration ≠ witness.sealGeneration ∨
      binding.routedSlotObservation.admissionGeneration ≠ witness.admissionGeneration ∨
      binding.routedSlotObservation.observationSequence ≠ witness.slotObservationSequence ∨
      binding.routedRegistryObservationSequence ≠ witness.registryObservationSequence ∨
      routeMatchesWorker binding.sourceRoute witness.route .serving = false)
    .v4ReceiptMismatch

def validateRoutedClaimReceipt (source : RoutedSealedV4) (receipt : RuntimeDurableRoutedClaimReceiptV4)
    (state : RegistryState) : Except ServingSlotRegistryError Unit := do
  validateRoutedSealStatic source.binding receipt.sourceSeal
  ensureRegistryOpen state.observation
  let (slotObservation, registryObservationSequence, activeInteractions) ←
    observeSealedRouteAfterGuardReleases state source.binding .serving true
  rejectIf
    (activeInteractions ≠ 0 ∨ receipt.sourceSeal.admissionGeneration ≠ slotObservation.admissionGeneration ∨
      receipt.sourceSeal.slotObservationSequence ≠ slotObservation.observationSequence ∨
      receipt.sourceSeal.registryObservationSequence.get < source.binding.registryObservationSequence.get ∨
      registryObservationSequence.get < receipt.sourceSeal.registryObservationSequence.get)
    .v4ObservationMismatch

def validateRefenceAuthorization (source : RoutedClaimedSealedV4)
    (authorization : RuntimeAuthorizedRegistryRefenceEvidenceV4) : Except ServingSlotRegistryError Unit :=
  rejectIf
    (authorization.registryLifetimeDigest ≠ registryLifetimeDigest source.binding.registry ∨
      authorization.processInstanceId ≠ source.binding.sourceRoute.identity.processInstanceId ∨
      authorization.intentId ≠ source.binding.intentId ∨
      authorization.intentId.canonicalBytes ≠ source.binding.sealKey.bytes ∨
      authorization.sealGeneration ≠ source.binding.sealGeneration ∨
      authorization.routeIncarnation ≠ source.binding.sourceRoute.incarnation ∨
      authorization.controllerFence ≠ source.claimFence)
    .v4CapabilityStale

def validateRefenceReceipt (source : LocallyRefencedSealedV4) (receipt : RuntimeDurableRefenceReceiptV4) :
    Except ServingSlotRegistryError Unit := do
  validateRoutedSealStatic source.binding receipt.sourceSeal
  rejectIf
    (routeMatchesWorker source.binding.sourceRoute receipt.sourceRoute .serving = false ∨
      routeMatchesWorker source.binding.currentRoute receipt.removalTarget .serving = false ∨
      source.claimReceiptDigest.bytes ≠ receipt.claimReceiptDigest ∨
      receipt.registryObservationSequence ≠ source.binding.registryObservationSequence)
    .v4ReceiptMismatch

def validateRouteAbsentReceipt (source : RouteAbsentSealedV4) (witness : RuntimeDurableSameProcessDrainAcknowledgementV4) :
    Except ServingSlotRegistryError Unit :=
  rejectIf
    (witness.registryLifetimeDigest ≠ registryLifetimeDigest source.binding.registry ∨
      witness.processInstanceId ≠ source.binding.sourceRoute.identity.processInstanceId ∨
      witness.intentId.canonicalBytes ≠ witness.sealKey ∨ source.binding.key ≠ witness.slot ∨
      source.binding.sealKey.bytes ≠ witness.sealKey ∨ source.binding.sealGeneration ≠ witness.sealGeneration ∨
      source.binding.slotObservation.admissionGeneration ≠ witness.admissionGeneration ∨
      source.binding.slotObservation.observationSequence ≠ witness.slotObservationSequence ∨
      source.binding.registryObservationSequence ≠ witness.registryObservationSequence ∨
      routeMatchesWorker source.binding.sourceRoute witness.sourceRoute .serving = false ∨
      routeMatchesWorker source.binding.removedRoute witness.removedRoute .draining = false ∨
      source.claimReceiptDigest.bytes ≠ witness.claimReceiptDigest ∨
      source.refenceReceiptDigest.bytes ≠ witness.refenceReceiptDigest)
    .v4ReceiptMismatch

def validateEmptySuccessionReceipt (source : EmptySuccessionSealedV4) (witness : RuntimeDurablePreviousProcessDrainTeardownV4) :
    Except ServingSlotRegistryError Unit :=
  rejectIf
    (witness.registryLifetimeDigest ≠ registryLifetimeDigest source.sealedClaim.claim.registry ∨
      witness.processInstanceId ≠ source.successorIdentity.processInstanceId ∨
      witness.intentId.canonicalBytes ≠ witness.sealKey ∨ source.sealedClaim.claim.key ≠ witness.slot ∨
      source.sealedClaim.claim.sealKey.bytes ≠ witness.sealKey ∨
      source.sealedClaim.claim.sealGeneration ≠ witness.sealGeneration ∨
      source.sealedClaim.slotObservation.admissionGeneration ≠ witness.admissionGeneration ∨
      source.sealedClaim.slotObservation.observationSequence ≠ witness.slotObservationSequence ∨
      source.sealedClaim.registryObservation.observationSequence ≠ witness.registryObservationSequence ∨
      source.predecessorRoute.identity ≠ witness.predecessorRoute.identity ∨
      source.predecessorRoute.incarnation ≠ witness.predecessorRoute.routeIncarnation ∨
      source.predecessorRoute.sourceRouteFence ≠ witness.predecessorRoute.controllerFencingToken ∨
      source.predecessorRoute.possibleRouteFenceCeiling ≠ witness.possibleRouteFenceCeiling ∨
      source.successorIdentity ≠ witness.successorIdentity ∨ source.successorFence ≠ witness.successorFence)
    .v4ReceiptMismatch

end Receipts

section Port
variable (registry : RegistryInner)

def sealRouted (source : RoutedObservedV4) (candidate : RuntimeSelectedUnclaimedPendingDrainV4) :
    OnRegistry (RoutedSealedV4 × RuntimeRoutedSealPortObservationV4) := do
  ofExcept
    (rejectIf
      (source.binding.key ≠ candidate.slot ∨ source.binding.route.identity.target ≠ candidate.expectedTarget ∨
        source.binding.route.identity.processInstanceId ≠ candidate.currentOwnerProcessInstanceId ∨
        source.binding.route.fencingToken ≠ candidate.sourceDeploymentFence ∨ source.binding.route.lifecycle ≠ .serving)
      .v4RouteMismatch)
  let sealed ← sealRoutedWithIntentV4 registry source candidate.intentId
  let observation ← ofExcept (routedPortObservation sealed.binding)
  pure (sealed, observation)

def recoverRoutedClaimed (authorization : RuntimeSelectedCurrentRoutedClaimedV4) :
    OnRegistry (RoutedClaimedSealedV4 × RuntimeRoutedClaimedSealPortObservationV4) := do
  let claimed ← examine (recoverRoutedClaimedStateV4 registry authorization)
  let observation ← ofExcept (claimedPortObservation claimed)
  pure (claimed, observation)

def bindClaim (source : RoutedSealedV4) (receipt : RuntimeDurableRoutedClaimReceiptV4) :
    OnRegistry (RoutedClaimedSealedV4 × RuntimeRoutedClaimedSealPortObservationV4) := do
  examine (validateRoutedClaimReceipt source receipt)
  let claimed ← examine (bindRoutedClaimWithDigestV4 registry source receipt.claimFence receipt.terminalDigest)
  let observation ← ofExcept (claimedPortObservation claimed)
  pure (claimed, observation)

def refence (source : RoutedClaimedSealedV4) (authorization : RuntimeAuthorizedRegistryRefenceEvidenceV4) :
    OnRegistry (LocallyRefencedSealedV4 × RuntimeLocalRefencePortObservationV4) := do
  ofExcept (validateRefenceAuthorization source authorization)
  ofExcept (rejectIf (authorization.ownerExpiresAt ≤ authorization.minimumRefencedAt) .v4ReceiptMismatch)
  let refenced ← refenceRoutedClaimStateV4 registry source authorization.provenance authorization.minimumRefencedAt
  let observation ← ofExcept (localPortObservation refenced)
  pure (refenced, observation)

def bindRefence (source : LocallyRefencedSealedV4) (receipt : RuntimeDurableRefenceReceiptV4) :
    OnRegistry (DurablyRefencedSealedV4 × RuntimeDurableRefencePortObservationV4) := do
  ofExcept (validateRefenceReceipt source receipt)
  let localRefence ← ofExcept (localPortObservation source)
  let durable ← examine (bindDurableRefenceWithDigestV4 registry source receipt.terminalDigest)
  let refenceReceiptDigest ← ofExcept (runtimeEvidenceDigest receipt.terminalDigest.bytes)
  pure (durable, { localRefence, refenceReceiptDigest })

def recoverDurableRefence (authorization : RuntimeSelectedCurrentRefencedV4) :
    OnRegistry (DurablyRefencedSealedV4 × RuntimeDurableRefencePortObservationV4) := do
  let (refenced, durable) ← examine (recoverDurableRefenceStateV4 registry authorization)
  let localRefence ← ofExcept (localPortObservation refenced)
  let refenceReceiptDigest ← ofExcept (runtimeEvidenceDigest durable.refenceReceiptDigest.bytes)
  pure (durable, { localRefence, refenceReceiptDigest })

def removeRoute (source : DrainingRefencedSealedV4) :
    OnRegistry (RouteAbsentSealedV4 × RuntimeRouteAbsentPortObservationV4) := do
  let observation ← examine (observeDrainingRefencedV4 registry source)
  let absent ← removeDrainingRefencedStateV4 registry source observation
  let report ← ofExcept (routeAbsentPortObservation absent)
  pure (absent, report)

def recoverRouteAbsent (authorization : RuntimeSelectedCurrentRefencedV4) :
    OnRegistry (RouteAbsentSealedV4 × RuntimeRouteAbsentPortObservationV4) := do
  let absent ← examine (recoverRouteAbsentStateV4 registry authorization)
  let observation ← ofExcept (routeAbsentPortObservation absent)
  pure (absent, observation)

def sealEmptySuccession (authorization : RuntimeSelectedExpiredPreviousOwnerV4) :
    OnRegistry (EmptySuccessionSealedV4 × RuntimeEmptySuccessionPortObservationV4) := do
  let request ← ofExcept authorization.emptySuccessionSealRequest
  let predecessorRoute ← ofExcept
    (PreviousRouteEnvelopeV4.new request.slot request.predecessorRoute.identity request.predecessorRoute.routeIncarnation
      request.predecessorRoute.controllerFencingToken request.possibleRouteFenceCeiling)
  let cursor ← examine (emptyCursor registry)
  let sealed ← sealEmptySuccessionV4 registry cursor request.slot request.intentId predecessorRoute
    { target := request.successorTarget
      runtimeGeneration := request.predecessorRoute.identity.runtimeGeneration
      processInstanceId := request.successorProcessInstanceId }
    request.successorFence
  let observation ← ofExcept (emptySuccessionPortObservation sealed)
  pure (sealed, observation)

def consumeAcknowledgement (source : RouteAbsentSealedV4) (receipt : RuntimeDurableSameProcessDrainAcknowledgementV4) :
    OnRegistry AcknowledgedEmptyV4 := do
  ofExcept (validateRouteAbsentReceipt source receipt)
  consumeRouteAbsentWithDigestV4 registry source receipt.terminalDigest

def consumeSuccessionAcknowledgement (source : EmptySuccessionSealedV4)
    (receipt : RuntimeDurablePreviousProcessDrainTeardownV4) : OnRegistry AcknowledgedEmptyV4 := do
  ofExcept (validateEmptySuccessionReceipt source receipt)
  consumeEmptySuccessionWithDigestV4 registry source receipt.terminalDigest

def rollbackRoutedSealV4 (source : RoutedSealedV4) (permit : RuntimeRoutedSealedWitnessV4) : OnRegistry RoutedObservedV4 := do
  ofExcept (validateRoutedSealStatic source.binding permit)
  rollbackRoutedSealStateV4 registry source

end Port

inductive PortCall where
  | sealRouted (source : RoutedObservedV4) (candidate : RuntimeSelectedUnclaimedPendingDrainV4)
  | recoverRoutedClaimed (authorization : RuntimeSelectedCurrentRoutedClaimedV4)
  | bindClaim (source : RoutedSealedV4) (receipt : RuntimeDurableRoutedClaimReceiptV4)
  | refence (source : RoutedClaimedSealedV4) (authorization : RuntimeAuthorizedRegistryRefenceEvidenceV4)
  | bindRefence (source : LocallyRefencedSealedV4) (receipt : RuntimeDurableRefenceReceiptV4)
  | recoverDurableRefence (authorization : RuntimeSelectedCurrentRefencedV4)
  | beginDrain (source : DurablyRefencedSealedV4)
  | removeRoute (source : DrainingRefencedSealedV4)
  | recoverRouteAbsent (authorization : RuntimeSelectedCurrentRefencedV4)
  | sealEmptySuccession (authorization : RuntimeSelectedExpiredPreviousOwnerV4)
  | consumeAcknowledgement (source : RouteAbsentSealedV4) (receipt : RuntimeDurableSameProcessDrainAcknowledgementV4)
  | consumeSuccessionAcknowledgement (source : EmptySuccessionSealedV4)
    (receipt : RuntimeDurablePreviousProcessDrainTeardownV4)
  | rollbackRoutedSealV4 (source : RoutedSealedV4) (permit : RuntimeRoutedSealedWitnessV4)

namespace PortCall

def Answer : PortCall → Type
  | .sealRouted .. => RoutedSealedV4 × RuntimeRoutedSealPortObservationV4
  | .recoverRoutedClaimed .. | .bindClaim .. => RoutedClaimedSealedV4 × RuntimeRoutedClaimedSealPortObservationV4
  | .refence .. => LocallyRefencedSealedV4 × RuntimeLocalRefencePortObservationV4
  | .bindRefence .. | .recoverDurableRefence .. => DurablyRefencedSealedV4 × RuntimeDurableRefencePortObservationV4
  | .beginDrain .. => DrainingRefencedSealedV4
  | .removeRoute .. | .recoverRouteAbsent .. => RouteAbsentSealedV4 × RuntimeRouteAbsentPortObservationV4
  | .sealEmptySuccession .. => EmptySuccessionSealedV4 × RuntimeEmptySuccessionPortObservationV4
  | .consumeAcknowledgement .. | .consumeSuccessionAcknowledgement .. => AcknowledgedEmptyV4
  | .rollbackRoutedSealV4 .. => RoutedObservedV4

def perform (registry : RegistryInner) : (call : PortCall) → OnRegistry call.Answer
  | .sealRouted source candidate => Registry.sealRouted registry source candidate
  | .recoverRoutedClaimed authorization => Registry.recoverRoutedClaimed registry authorization
  | .bindClaim source receipt => Registry.bindClaim registry source receipt
  | .refence source authorization => Registry.refence registry source authorization
  | .bindRefence source receipt => Registry.bindRefence registry source receipt
  | .recoverDurableRefence authorization => Registry.recoverDurableRefence registry authorization
  | .beginDrain source => Registry.beginDrainRefencedStateV4 registry source
  | .removeRoute source => Registry.removeRoute registry source
  | .recoverRouteAbsent authorization => Registry.recoverRouteAbsent registry authorization
  | .sealEmptySuccession authorization => Registry.sealEmptySuccession registry authorization
  | .consumeAcknowledgement source receipt => Registry.consumeAcknowledgement registry source receipt
  | .consumeSuccessionAcknowledgement source receipt => Registry.consumeSuccessionAcknowledgement registry source receipt
  | .rollbackRoutedSealV4 source permit => Registry.rollbackRoutedSealV4 registry source permit

variable {registry : RegistryInner} {state : RegistryState}

theorem settles_report {α β : Type} {report : Except ServingSlotRegistryError α} {build : α → β} {last : RegistryState}
    {failed : ServingSlotRegistryError → RegistryState → Prop} (reports : ∃ value, report = .ok value) :
    (do
      let value ← ofExcept report
      pure (build value) : OnRegistry β).Settles (fun _ _ => True) failed last := by
  obtain ⟨value, isReport⟩ := reports
  exact settles_ok isReport (settles_pure trivial)

theorem settles (sound : state.Sound registry) (call : PortCall) :
    (call.perform registry).Settles (fun _ _ => True) (fun _ last => state.Failed last) state := by
  cases call with
  | sealRouted source candidate =>
    refine settles_check fun _ _ => ?_
    refine Settles.bind ((sealRoutedWithIntentV4_settles sound).imp fun sealed _ _ => ?_)
    exact settles_report (routedPortObservation_ok sealed.binding)
  | recoverRoutedClaimed authorization =>
    refine settles_examine fun claimed _ => ?_
    exact settles_report (claimedPortObservationParts_ok claimed.binding claimed.claimFence claimed.claimReceiptDigest)
  | bindClaim source receipt =>
    refine settles_examine fun _ _ => ?_
    refine settles_examine fun claimed _ => ?_
    exact settles_report (claimedPortObservationParts_ok claimed.binding claimed.claimFence claimed.claimReceiptDigest)
  | refence source authorization =>
    refine settles_check fun _ _ => ?_
    refine settles_check fun _ _ => ?_
    refine Settles.bind ((refenceRoutedClaimStateV4_settles sound).imp fun refenced _ _ => ?_)
    exact settles_report (localPortObservation_ok refenced)
  | bindRefence source receipt =>
    refine settles_check fun _ _ => ?_
    refine settles_check fun _ _ => ?_
    refine settles_examine fun _ _ => ?_
    exact settles_report ⟨_, runtimeEvidenceDigest_ok receipt.terminalDigest.nonZero⟩
  | recoverDurableRefence authorization =>
    refine settles_examine fun recovered _ => ?_
    refine settles_check fun _ _ => ?_
    exact settles_report ⟨_, runtimeEvidenceDigest_ok recovered.2.refenceReceiptDigest.nonZero⟩
  | beginDrain source =>
    exact (beginDrainRefencedStateV4_settles sound).imp fun _ _ _ => trivial
  | removeRoute source =>
    refine settles_examine fun observation _ => ?_
    refine Settles.bind
      ((removeDrainingRefencedStateV4_settles sound).imp fun absent _ _ => ?_)
    exact settles_report (routeAbsentPortObservation_ok absent)
  | recoverRouteAbsent authorization =>
    refine settles_examine fun absent _ => ?_
    exact settles_report (routeAbsentPortObservation_ok absent)
  | sealEmptySuccession authorization =>
    refine settles_check fun _ _ => ?_
    refine settles_check fun _ _ => ?_
    refine settles_examine fun _ _ => ?_
    refine Settles.bind ((sealEmptySuccessionV4_settles sound).imp fun sealed _ _ => ?_)
    exact settles_report (emptySuccessionPortObservation_ok sealed)
  | consumeAcknowledgement source receipt =>
    refine settles_check fun _ _ => ?_
    exact (consumeRouteAbsentWithDigestV4_settles sound).imp fun _ _ _ => trivial
  | consumeSuccessionAcknowledgement source receipt =>
    refine settles_check fun _ _ => ?_
    exact (consumeEmptySuccessionWithDigestV4_settles sound).imp fun _ _ _ => trivial
  | rollbackRoutedSealV4 source permit =>
    refine settles_check fun _ _ => ?_
    exact (rollbackRoutedSealStateV4_settles sound).imp fun _ _ _ => trivial

end PortCall

end Starring.Registry
