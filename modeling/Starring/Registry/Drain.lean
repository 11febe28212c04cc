import Starring.Registry.Operations

/-! The drain of a sealed slot. A route that serves is sealed, claimed, fenced anew, drained and removed, and the seal
is consumed at the end; each step gives a capability for the next one, which holds what the step has observed.
Capabilities that were lost are recovered from durable evidence. -/

namespace Starring.Registry
open Foundation Convergence Calls

/-- A drain intent is named by 32 lower-case hexadecimal digits. -/
def isDrainIntentId (value : String) : Bool := value.utf8ByteSize = 32 && (utf8 value).all isLowerHexDigit

structure RuntimeDrainIntentIdV2 where
  value : String
  parsed : isDrainIntentId value = true
  deriving DecidableEq

def decodeLowerHexDigit (digit : UInt8) : UInt8 := if digit ≤ 57 then digit - 48 else digit - 87

def decodePairs : List UInt8 → List UInt8
  | high :: low :: rest => ((decodeLowerHexDigit high <<< 4) ||| decodeLowerHexDigit low) :: decodePairs rest
  | _ => []

def RuntimeDrainIntentIdV2.canonicalBytes (self : RuntimeDrainIntentIdV2) : List UInt8 := decodePairs (utf8 self.value)

/-- `SlotSealKeyV2::try_from`. -/
def SlotSealKeyV2.tryFrom (bytes : List UInt8) : Option SlotSealKeyV2 :=
  if length : bytes.length = 16 then some ⟨bytes, length⟩ else none

@[ext] structure RegistryDurableReceiptDigestV4 where
  bytes : List UInt8
  length : bytes.length = 32
  nonZero : bytes.any (fun byte => byte ≠ 0) = true

instance : DecidableEq RegistryDurableReceiptDigestV4 := fun _ _ => decidable_of_iff _ RegistryDurableReceiptDigestV4.ext_iff.symm

/-- How a route came to be changed; what the ways carry with them is of no concern here. -/
inductive RuntimeRouteMutationProvenanceV2 where
  | ordinary
  | closedRecovery
  | shutdown
  deriving DecidableEq

structure RuntimeExactLocalRouteIdentityV2 where
  identity : RuntimeProcessIdentityV1
  controllerFencingToken : FencingToken
  routeIncarnation : NonZeroU64
  deriving DecidableEq

structure RoutedObservationBindingV4 where
  registry : NonZeroU64
  key : ServingSlotKeyV1
  route : SlotRouteWitnessV1
  slotObservation : SlotAtomicObservationV2
  registryObservationSequence : NonZeroU64
  totalActiveInteractions : Nat
  deriving DecidableEq

structure SealedRouteBindingV4 where
  registry : NonZeroU64
  intentId : RuntimeDrainIntentIdV2
  key : ServingSlotKeyV1
  sealKey : SlotSealKeyV2
  sealGeneration : NonZeroU64
  sourceRoute : SlotRouteWitnessV1
  currentRoute : SlotRouteWitnessV1
  routedSlotObservation : SlotAtomicObservationV2
  routedRegistryObservationSequence : NonZeroU64
  slotObservation : SlotAtomicObservationV2
  registryObservationSequence : NonZeroU64
  totalActiveInteractions : Nat
  deriving DecidableEq

structure AbsentRouteBindingV4 where
  registry : NonZeroU64
  intentId : RuntimeDrainIntentIdV2
  key : ServingSlotKeyV1
  sealKey : SlotSealKeyV2
  sealGeneration : NonZeroU64
  sourceRoute : SlotRouteWitnessV1
  removedRoute : SlotRouteWitnessV1
  slotObservation : SlotAtomicObservationV2
  registryObservationSequence : NonZeroU64
  deriving DecidableEq

structure RoutedObservedV4 where
  binding : RoutedObservationBindingV4
  deriving DecidableEq

structure RoutedSealedV4 where
  binding : SealedRouteBindingV4
  deriving DecidableEq

/-- What is seen of a sealed route, serving or draining. -/
structure SealedRouteObservationV4 where
  registry : NonZeroU64
  key : ServingSlotKeyV1
  sealKey : SlotSealKeyV2
  sealGeneration : NonZeroU64
  slotObservation : SlotAtomicObservationV2
  registryObservationSequence : NonZeroU64
  totalActiveInteractions : Nat
  deriving DecidableEq

abbrev RoutedSealedObservationV4 := SealedRouteObservationV4
abbrev DrainingRefencedObservationV4 := SealedRouteObservationV4

structure RoutedClaimedSealedV4 where
  binding : SealedRouteBindingV4
  claimFence : FencingToken
  claimReceiptDigest : RegistryDurableReceiptDigestV4
  deriving DecidableEq

structure LocallyRefencedSealedV4 where
  binding : SealedRouteBindingV4
  claimReceiptDigest : RegistryDurableReceiptDigestV4
  provenance : RuntimeRouteMutationProvenanceV2
  refencedAt : DateTime
  refencedRegistryObservationSequence : NonZeroU64
  deriving DecidableEq

structure DurablyRefencedSealedV4 where
  binding : SealedRouteBindingV4
  claimReceiptDigest : RegistryDurableReceiptDigestV4
  refenceReceiptDigest : RegistryDurableReceiptDigestV4
  deriving DecidableEq

structure DrainingRefencedSealedV4 where
  binding : SealedRouteBindingV4
  claimReceiptDigest : RegistryDurableReceiptDigestV4
  refenceReceiptDigest : RegistryDurableReceiptDigestV4
  deriving DecidableEq

structure RouteAbsentSealedV4 where
  binding : AbsentRouteBindingV4
  claimReceiptDigest : RegistryDurableReceiptDigestV4
  refenceReceiptDigest : RegistryDurableReceiptDigestV4
  deriving DecidableEq

structure PreviousRouteEnvelopeV4 where
  key : ServingSlotKeyV1
  identity : RuntimeProcessIdentityV1
  incarnation : NonZeroU64
  sourceRouteFence : FencingToken
  possibleRouteFenceCeiling : FencingToken
  deriving DecidableEq

structure EmptySuccessionSealedV4 where
  sealedClaim : SealedEmptyRecoveryDrainClaimV2
  intentId : RuntimeDrainIntentIdV2
  predecessorRoute : PreviousRouteEnvelopeV4
  successorIdentity : RuntimeProcessIdentityV1
  successorFence : FencingToken
  deriving DecidableEq

structure AcknowledgedEmptyV4 where
  registry : NonZeroU64
  key : ServingSlotKeyV1
  slotObservation : SlotAtomicObservationV2
  registryObservationSequence : NonZeroU64
  claimReceiptDigest : Option RegistryDurableReceiptDigestV4
  refenceReceiptDigest : Option RegistryDurableReceiptDigestV4
  acknowledgementReceiptDigest : RegistryDurableReceiptDigestV4
  successorFence : FencingToken

section Validators

def ensureRegistryBinding (registry : RegistryInner) (binding : NonZeroU64) : Except ServingSlotRegistryError Unit :=
  rejectIf (binding ≠ registry.lifetime) .v4RegistryMismatch

def registryObservationSequence (state : RegistryState) : Except ServingSlotRegistryError NonZeroU64 := do
  let observation ← registryRecoveryObservationV2 state
  pure observation.observationSequence

def SlotCell.totalActive (self : SlotCell) : Nat := (self.routes.map RouteRecord.activeInteractions).sum

def totalActiveInteractions (slot : SlotCell) : Except ServingSlotRegistryError Nat := do
  rejectIf (2 ^ 64 ≤ slot.totalActive) .registryObservationOverflow
  pure slot.totalActive

def ensureSingleCurrentRoute (slot : SlotCell) : Except ServingSlotRegistryError Unit :=
  rejectIf (slot.current = none ∨ slot.staged ≠ none ∨ slot.retired ≠ []) .v4RouteMismatch

def ensureHighWaterMatchesWitness (slot : SlotCell) (witness : SlotRouteWitnessV1) :
    Except ServingSlotRegistryError Unit := do
  let highWater ← orReject slot.highWater .v4FenceMismatch
  rejectIf (¬(highWater.identity = witness.identity ∧ highWater.fencingToken = witness.fencingToken)) .v4FenceMismatch

/-- No earlier observation of the registry is from its future. -/
def ensureObservedBefore (state : RegistryState) (sequence : NonZeroU64) : Except ServingSlotRegistryError NonZeroU64 := do
  let now ← registryObservationSequence state
  rejectIf (now.get < sequence.get) .v4ObservationMismatch
  pure now

def validateRoutedObservation (state : RegistryState) (binding : RoutedObservationBindingV4) :
    Except ServingSlotRegistryError Unit := do
  let _ ← ensureObservedBefore state binding.registryObservationSequence
  let slot ← orReject (state.slots.lookup binding.key) .v4CapabilityStale
  ensureSlotOpen slot
  ensureSlotUnsealed slot
  ensureSingleCurrentRoute slot
  let current ← orReject slot.current .v4RouteMismatch
  rejectIf (routeWitnessV1 current ≠ binding.route) .v4RouteMismatch
  rejectIf (binding.route.lifecycle ≠ .serving) .v4LifecycleMismatch
  let observed ← atomicObservationV2 slot
  rejectIf (observed ≠ binding.slotObservation) .v4ObservationMismatch
  let total ← totalActiveInteractions slot
  rejectIf (total ≠ binding.totalActiveInteractions) .v4ObservationMismatch
  ensureHighWaterMatchesWitness slot binding.route

/-- The slot with the one route and the seal of the binding. -/
def sealedRouteSlot (state : RegistryState) (binding : SealedRouteBindingV4) (lifecycle : SlotLifecycleV1) :
    Except ServingSlotRegistryError SlotCell := do
  let slot ← orReject (state.slots.lookup binding.key) .v4CapabilityStale
  ensureSlotOpen slot
  ensureSingleCurrentRoute slot
  let current ← orReject slot.current .v4RouteMismatch
  rejectIf (routeWitnessV1 current ≠ binding.currentRoute) .v4RouteMismatch
  rejectIf (current.lifecycle ≠ lifecycle ∨ binding.currentRoute.lifecycle ≠ lifecycle) .v4LifecycleMismatch
  rejectIf (slot.sealMatches binding.sealKey binding.sealGeneration (some binding.currentRoute) = false)
    .v4CapabilityStale
  pure slot

/-- Interactions may have ended since the binding was made, but nothing else may have happened. -/
def observeSealedRouteAfterGuardReleases (state : RegistryState) (binding : SealedRouteBindingV4)
    (lifecycle : SlotLifecycleV1) (requireZero : Bool) :
    Except ServingSlotRegistryError (SlotAtomicObservationV2 × NonZeroU64 × Nat) := do
  let now ← ensureObservedBefore state binding.registryObservationSequence
  let slot ← sealedRouteSlot state binding lifecycle
  let observed ← atomicObservationV2 slot
  rejectIf
    (observed.admissionGeneration ≠ binding.slotObservation.admissionGeneration ∨
      observed.observationSequence.get < binding.slotObservation.observationSequence.get)
    .v4ObservationMismatch
  let total ← totalActiveInteractions slot
  rejectIf (binding.totalActiveInteractions < total) .v4GuardMismatch
  rejectIf (requireZero = true ∧ total ≠ 0) .v4GuardMismatch
  ensureHighWaterMatchesWitness slot binding.currentRoute
  pure (observed, now, total)

def validateSealedRoute (state : RegistryState) (binding : SealedRouteBindingV4) (lifecycle : SlotLifecycleV1) :
    Except ServingSlotRegistryError Unit := do
  let _ ← ensureObservedBefore state binding.registryObservationSequence
  let slot ← sealedRouteSlot state binding lifecycle
  let observed ← atomicObservationV2 slot
  rejectIf (observed ≠ binding.slotObservation) .v4ObservationMismatch
  let total ← totalActiveInteractions slot
  rejectIf (total ≠ binding.totalActiveInteractions) .v4ObservationMismatch
  rejectIf (binding.totalActiveInteractions ≠ 0) .v4GuardMismatch
  ensureHighWaterMatchesWitness slot binding.currentRoute

def validateAbsentRoute (state : RegistryState) (binding : AbsentRouteBindingV4) :
    Except ServingSlotRegistryError Unit := do
  let _ ← ensureObservedBefore state binding.registryObservationSequence
  let slot ← orReject (state.slots.lookup binding.key) .v4CapabilityStale
  ensureSlotOpen slot
  rejectIf ((selectedRoute slot).isSome = true ∨ slot.retired ≠ []) .v4RouteMismatch
  let total ← totalActiveInteractions slot
  rejectIf (total ≠ 0) .v4RouteMismatch
  rejectIf (slot.sealMatches binding.sealKey binding.sealGeneration none = false) .v4CapabilityStale
  let observed ← atomicObservationV2 slot
  rejectIf (observed ≠ binding.slotObservation) .v4ObservationMismatch
  ensureHighWaterMatchesWitness slot binding.removedRoute

/-- The same route, fenced one higher; the lifecycle of the second one is given. -/
def validateRefencePairAs (lifecycle : SlotLifecycleV1) (sourceRoute removalTarget : SlotRouteWitnessV1) :
    Except ServingSlotRegistryError Unit := do
  rejectIf (sourceRoute.identity ≠ removalTarget.identity ∨ sourceRoute.incarnation ≠ removalTarget.incarnation)
    .v4RouteMismatch
  rejectIf (sourceRoute.lifecycle ≠ .serving ∨ removalTarget.lifecycle ≠ lifecycle) .v4LifecycleMismatch
  rejectIf (sourceRoute.fencingToken.next ≠ .ok removalTarget.fencingToken) .v4FenceMismatch

def validateRefencePair := validateRefencePairAs .serving
def validateAbsentRefencePair := validateRefencePairAs .draining

def validateRecoveryAuthorization (claim : SlotDrainClaimSealV2) (intentSealKey : List UInt8) (key : ServingSlotKeyV1)
    (route : RuntimeExactLocalRouteIdentityV2) : Except ServingSlotRegistryError Unit := do
  let sourceRoute ← orReject claim.route .v4RouteMismatch
  rejectIf
    (claim.key ≠ key ∨ claim.sealKey.bytes ≠ intentSealKey ∨ sourceRoute.identity ≠ route.identity ∨
      sourceRoute.fencingToken ≠ route.controllerFencingToken ∨ sourceRoute.incarnation ≠ route.routeIncarnation ∨
      sourceRoute.lifecycle ≠ .serving)
    .v4RouteMismatch

def workerRouteWitness (route : RuntimeExactLocalRouteIdentityV2) (lifecycle : SlotLifecycleV1) : SlotRouteWitnessV1 where
  identity := route.identity
  fencingToken := route.controllerFencingToken
  incarnation := route.routeIncarnation
  lifecycle := lifecycle

end Validators

section Steps
variable (registry : RegistryInner)

def observeRoutedV4 (token : SlotMutationTokenV1) (state : RegistryState) :
    Except ServingSlotRegistryError RoutedObservedV4 := do
  ensureRegistryToken registry token
  ensureRegistryOpen state.observation
  let slot ← orReject (state.slots.lookup token.key) .v4CapabilityStale
  ensureSlotOpen slot
  ensureSlotUnsealed slot
  ensureSingleCurrentRoute slot
  ensureHighWater (some slot) token
  let current ← orReject (slot.current.filter fun route => route.matches token) .v4RouteMismatch
  rejectIf (current.lifecycle ≠ .serving) .v4LifecycleMismatch
  let total ← totalActiveInteractions slot
  let slotObservation ← atomicObservationV2 slot
  let sequence ← registryObservationSequence state
  pure
    { binding :=
        { registry := registry.lifetime
          key := token.key
          route := routeWitnessV1 current
          slotObservation
          registryObservationSequence := sequence
          totalActiveInteractions := total } }

def observeSequence : OnRegistry NonZeroU64 := examine registryObservationSequence

def sealRoutedWithIntentV4 (source : RoutedObservedV4) (intentId : RuntimeDrainIntentIdV2) : OnRegistry RoutedSealedV4 := do
  ofExcept (ensureRegistryBinding registry source.binding.registry)
  ofExcept (rejectIf (source.binding.totalActiveInteractions ≠ 0) .v4GuardMismatch)
  let sealKey ← ofExcept (orReject (SlotSealKeyV2.tryFrom intentId.canonicalBytes) .v4CapabilityStale)
  lockState
  examine fun state => validateRoutedObservation state source.binding
  let route := source.binding.route
  let sealGeneration ← onSlot source.binding.key .v4CapabilityStale (sealSlot sealKey false (some route))
  let slotObservation ← observeSlot source.binding.key .v4CapabilityStale
  let sequence ← observeSequence
  pure
    { binding :=
        { registry := registry.lifetime
          intentId
          key := source.binding.key
          sealKey
          sealGeneration
          sourceRoute := route
          currentRoute := route
          routedSlotObservation := slotObservation
          routedRegistryObservationSequence := sequence
          slotObservation
          registryObservationSequence := sequence
          totalActiveInteractions := source.binding.totalActiveInteractions } }

def observeRoutedSealedV4 (source : RoutedSealedV4) (state : RegistryState) :
    Except ServingSlotRegistryError RoutedSealedObservationV4 := do
  ensureRegistryBinding registry source.binding.registry
  ensureRegistryOpen state.observation
  let (slotObservation, sequence, total) ← observeSealedRouteAfterGuardReleases state source.binding .serving false
  pure
    { registry := registry.lifetime
      key := source.binding.key
      sealKey := source.binding.sealKey
      sealGeneration := source.binding.sealGeneration
      slotObservation
      registryObservationSequence := sequence
      totalActiveInteractions := total }

def bindRoutedClaimWithDigestV4 (source : RoutedSealedV4) (claimFence : FencingToken)
    (claimReceiptDigest : RegistryDurableReceiptDigestV4) (state : RegistryState) :
    Except ServingSlotRegistryError RoutedClaimedSealedV4 := do
  ensureRegistryBinding registry source.binding.registry
  let expected ← source.binding.sourceRoute.fencingToken.next.mapError fun _ => .fencingTokenExhausted
  rejectIf (claimFence ≠ expected) .v4FenceMismatch
  ensureRegistryOpen state.observation
  let (slotObservation, sequence, total) ← observeSealedRouteAfterGuardReleases state source.binding .serving true
  pure
    { binding :=
        { source.binding with
          slotObservation, registryObservationSequence := sequence, totalActiveInteractions := total }
      claimFence
      claimReceiptDigest }

/-- The slot is opened again with the route that it had. -/
def rollbackRoutedSealStateV4 (source : RoutedSealedV4) : OnRegistry RoutedObservedV4 := do
  ofExcept (ensureRegistryBinding registry source.binding.registry)
  lockState
  let _ ← examine fun state => observeSealedRouteAfterGuardReleases state source.binding .serving false
  let (route, slotObservation, total) ← onSlot source.binding.key .v4CapabilityStale do
    advanceSlotMutation
    modifySlot fun slot => { slot with sealState := none }
    let slot ← borrowedSlot
    let current ← ofExcept (orReject slot.current .v4RouteMismatch)
    let slotObservation ← ofExcept (atomicObservationV2 slot)
    let total ← ofExcept (totalActiveInteractions slot)
    pure (routeWitnessV1 current, slotObservation, total)
  let sequence ← observeSequence
  pure
    { binding :=
        { registry := source.binding.registry
          key := source.binding.key
          route
          slotObservation
          registryObservationSequence := sequence
          totalActiveInteractions := total } }

/-- The seal is told what has become of its route. -/
def resealRoute (route : Option SlotRouteWitnessV1) : OnSlot Unit := do
  let slot ← borrowedSlot
  let sealed ← ofExcept (orReject slot.sealState .v4CapabilityStale)
  modifySlot fun slot => { slot with sealState := some { sealed with route } }

def refenceRoutedClaimStateV4 (source : RoutedClaimedSealedV4) (provenance : RuntimeRouteMutationProvenanceV2)
    (refencedAt : DateTime) : OnRegistry LocallyRefencedSealedV4 := do
  ofExcept (ensureRegistryBinding registry source.binding.registry)
  lockState
  examine fun state => validateSealedRoute state source.binding .serving
  let (currentRoute, slotObservation) ← onSlot source.binding.key .v4CapabilityStale do
    advanceSlotMutation
    let slot ← borrowedSlot
    let current ← ofExcept (orReject slot.current .v4RouteMismatch)
    let refenced := current.refenced source.claimFence
    modifySlot fun slot => { slot with current := some refenced }
    let highWater ← ofExcept (orReject slot.highWater .v4FenceMismatch)
    modifySlot fun slot => { slot with highWater := some { highWater with fencingToken := source.claimFence } }
    resealRoute (some (routeWitnessV1 refenced))
    let slot ← borrowedSlot
    let slotObservation ← ofExcept (atomicObservationV2 slot)
    pure (routeWitnessV1 refenced, slotObservation)
  let sequence ← observeSequence
  pure
    { binding :=
        { source.binding with
          currentRoute, slotObservation, registryObservationSequence := sequence, totalActiveInteractions := 0 }
      claimReceiptDigest := source.claimReceiptDigest
      provenance
      refencedAt
      refencedRegistryObservationSequence := sequence }

def bindDurableRefenceWithDigestV4 (source : LocallyRefencedSealedV4)
    (refenceReceiptDigest : RegistryDurableReceiptDigestV4) (state : RegistryState) :
    Except ServingSlotRegistryError DurablyRefencedSealedV4 := do
  ensureRegistryBinding registry source.binding.registry
  ensureRegistryOpen state.observation
  validateSealedRoute state source.binding .serving
  pure { binding := source.binding, claimReceiptDigest := source.claimReceiptDigest, refenceReceiptDigest }

def beginDrainRefencedStateV4 (source : DurablyRefencedSealedV4) : OnRegistry DrainingRefencedSealedV4 := do
  ofExcept (ensureRegistryBinding registry source.binding.registry)
  lockState
  examine fun state => validateSealedRoute state source.binding .serving
  let (currentRoute, slotObservation) ← onSlot source.binding.key .v4CapabilityStale do
    advanceSlotMutation
    let slot ← borrowedSlot
    let current ← ofExcept (orReject slot.current .v4RouteMismatch)
    modifySlot fun slot => { slot with current := some current.drained }
    resealRoute (some (routeWitnessV1 current.drained))
    let slot ← borrowedSlot
    let slotObservation ← ofExcept (atomicObservationV2 slot)
    pure (routeWitnessV1 current.drained, slotObservation)
  let sequence ← observeSequence
  pure
    { binding :=
        { source.binding with
          currentRoute, slotObservation, registryObservationSequence := sequence, totalActiveInteractions := 0 }
      claimReceiptDigest := source.claimReceiptDigest
      refenceReceiptDigest := source.refenceReceiptDigest }

def observeDrainingRefencedV4 (source : DrainingRefencedSealedV4) (state : RegistryState) :
    Except ServingSlotRegistryError DrainingRefencedObservationV4 := do
  ensureRegistryBinding registry source.binding.registry
  ensureRegistryOpen state.observation
  validateSealedRoute state source.binding .draining
  let slot ← orReject (state.slots.lookup source.binding.key) .v4CapabilityStale
  let slotObservation ← atomicObservationV2 slot
  let sequence ← registryObservationSequence state
  let total ← totalActiveInteractions slot
  pure
    { registry := registry.lifetime
      key := source.binding.key
      sealKey := source.binding.sealKey
      sealGeneration := source.binding.sealGeneration
      slotObservation
      registryObservationSequence := sequence
      totalActiveInteractions := total }

def validateDrainingObservationBinding (source : DrainingRefencedSealedV4) (observation : DrainingRefencedObservationV4) :
    Except ServingSlotRegistryError Unit := do
  ensureRegistryBinding registry observation.registry
  rejectIf
    (observation.key ≠ source.binding.key ∨ observation.sealKey ≠ source.binding.sealKey ∨
      observation.sealGeneration ≠ source.binding.sealGeneration)
    .v4ObservationMismatch

def removeDrainingRefencedStateV4 (source : DrainingRefencedSealedV4) (observation : DrainingRefencedObservationV4) :
    OnRegistry RouteAbsentSealedV4 := do
  ofExcept (validateDrainingObservationBinding registry source observation)
  ofExcept (rejectIf (observation.totalActiveInteractions ≠ 0) .v4GuardMismatch)
  lockState
  examine fun state => validateSealedRoute state source.binding .draining
  ofExcept
    (rejectIf
      (observation.slotObservation ≠ source.binding.slotObservation ∨
        observation.registryObservationSequence.get < source.binding.registryObservationSequence.get)
      .v4ObservationMismatch)
  let slotObservation ← onSlot source.binding.key .v4CapabilityStale do
    advanceSlotMutation
    modifySlot fun slot => { slot with current := none }
    resealRoute none
    let slot ← borrowedSlot
    ofExcept (atomicObservationV2 slot)
  let sequence ← observeSequence
  pure
    { binding :=
        { registry := source.binding.registry
          intentId := source.binding.intentId
          key := source.binding.key
          sealKey := source.binding.sealKey
          sealGeneration := source.binding.sealGeneration
          sourceRoute := source.binding.sourceRoute
          removedRoute := source.binding.currentRoute
          slotObservation
          registryObservationSequence := sequence }
      claimReceiptDigest := source.claimReceiptDigest
      refenceReceiptDigest := source.refenceReceiptDigest }

def consumeRouteAbsentWithDigestV4 (source : RouteAbsentSealedV4)
    (acknowledgementReceiptDigest : RegistryDurableReceiptDigestV4) : OnRegistry AcknowledgedEmptyV4 := do
  ofExcept (ensureRegistryBinding registry source.binding.registry)
  lockState
  examine fun state => validateAbsentRoute state source.binding
  let slotObservation ← onSlot source.binding.key .v4CapabilityStale unsealSlot
  let sequence ← observeSequence
  pure
    { registry := source.binding.registry
      key := source.binding.key
      slotObservation
      registryObservationSequence := sequence
      claimReceiptDigest := some source.claimReceiptDigest
      refenceReceiptDigest := some source.refenceReceiptDigest
      acknowledgementReceiptDigest
      successorFence := source.binding.removedRoute.fencingToken }

/-- `PreviousRouteEnvelopeV4::new`. -/
def PreviousRouteEnvelopeV4.new (key : ServingSlotKeyV1) (identity : RuntimeProcessIdentityV1) (incarnation : NonZeroU64)
    (sourceRouteFence possibleRouteFenceCeiling : FencingToken) :
    Except ServingSlotRegistryError PreviousRouteEnvelopeV4 := do
  rejectIf (key.matchesTarget identity.target = false) .v4RouteMismatch
  rejectIf (sourceRouteFence.next ≠ .ok possibleRouteFenceCeiling) .v4FenceMismatch
  pure { key, identity, incarnation, sourceRouteFence, possibleRouteFenceCeiling }

def sealEmptySuccessionV4 (cursor : RegistryEmptyRecoveryCursorV2) (key : ServingSlotKeyV1)
    (intentId : RuntimeDrainIntentIdV2) (predecessorRoute : PreviousRouteEnvelopeV4)
    (successorIdentity : RuntimeProcessIdentityV1) (successorFence : FencingToken) :
    OnRegistry EmptySuccessionSealedV4 := do
  let sealKey ← ofExcept (orReject (SlotSealKeyV2.tryFrom intentId.canonicalBytes) .v4EmptySuccessionMismatch)
  ofExcept
    (rejectIf
      (predecessorRoute.key ≠ key ∨ key.matchesTarget successorIdentity.target = false ∨
        predecessorRoute.identity.target ≠ successorIdentity.target ∨
        predecessorRoute.identity.runtimeGeneration ≠ successorIdentity.runtimeGeneration ∨
        predecessorRoute.identity.processInstanceId = successorIdentity.processInstanceId ∨
        predecessorRoute.possibleRouteFenceCeiling.next ≠ .ok successorFence)
      .v4EmptySuccessionMismatch)
  let sealedClaim ← sealEmptyRecoveryDrainClaimV2 registry cursor key sealKey
  pure { sealedClaim, intentId, predecessorRoute, successorIdentity, successorFence }

def consumeEmptySuccessionWithDigestV4 (source : EmptySuccessionSealedV4)
    (acknowledgementReceiptDigest : RegistryDurableReceiptDigestV4) : OnRegistry AcknowledgedEmptyV4 := do
  ofExcept (ensureRegistryBinding registry source.sealedClaim.claim.registry)
  lockState
  let observed ← observeRegistry
  ofExcept (rejectIf (observed ≠ source.sealedClaim.registryObservation) .v4ObservationMismatch)
  let slotObservation ← onSlot source.sealedClaim.claim.key .v4CapabilityStale do
    let slot ← borrowedSlot
    ofExcept (ensureSlotOpen slot)
    let observation ← ofExcept (atomicObservationV2 slot)
    ofExcept
      (rejectIf (observation ≠ source.sealedClaim.slotObservation ∨ (selectedRoute slot).isSome = true)
        .v4ObservationMismatch)
    let total ← ofExcept (totalActiveInteractions slot)
    ofExcept (rejectIf (total ≠ 0) .v4ObservationMismatch)
    ofExcept
      (rejectIf
        (slot.sealMatches source.sealedClaim.claim.sealKey source.sealedClaim.claim.sealGeneration none = false)
        .v4CapabilityStale)
    ofExcept (validateNewFence (some slot) source.successorIdentity source.successorFence)
    advanceSlotMutation
    modifySlot fun slot =>
      { slot with highWater := some (.of source.successorIdentity source.successorFence), sealState := none }
    let slot ← borrowedSlot
    ofExcept (atomicObservationV2 slot)
  let sequence ← observeSequence
  pure
    { registry := source.sealedClaim.claim.registry
      key := source.sealedClaim.claim.key
      slotObservation
      registryObservationSequence := sequence
      claimReceiptDigest := none
      refenceReceiptDigest := none
      acknowledgementReceiptDigest
      successorFence := source.successorFence }

end Steps

section Evidence

/-- What a durable claim says about the route it was made for and about its progress. -/
structure RuntimeDrainClaimEvidenceV4 where
  slot : ServingSlotKeyV1
  intentId : RuntimeDrainIntentIdV2
  sourceRoute : RuntimeExactLocalRouteIdentityV2
  controllerFencingToken : FencingToken
  sealGeneration : NonZeroU64
  sealRegistryObservationSequence : NonZeroU64
  provenance : Option RuntimeRouteMutationProvenanceV2
  refencedAt : Option DateTime
  registryObservationSequence : Option NonZeroU64
  claimTerminalDigest : RegistryDurableReceiptDigestV4

/-- `RuntimeSelectedCurrentRoutedClaimedV4`: the claim is fenced one higher than the route. -/
structure RuntimeSelectedCurrentRoutedClaimedV4 extends RuntimeDrainClaimEvidenceV4 where
  lineage : sourceRoute.controllerFencingToken.next = .ok controllerFencingToken

/-- `RuntimeSelectedCurrentRefencedV4`: the route that is to be removed is the source, fenced one higher. -/
structure RuntimeSelectedCurrentRefencedV4 extends RuntimeDrainClaimEvidenceV4 where
  removalTarget : RuntimeExactLocalRouteIdentityV2
  refenceTerminalDigest : RegistryDurableReceiptDigestV4
  sameIdentity : sourceRoute.identity = removalTarget.identity
  sameIncarnation : sourceRoute.routeIncarnation = removalTarget.routeIncarnation
  lineage : sourceRoute.controllerFencingToken.next = .ok removalTarget.controllerFencingToken
  claimFence : removalTarget.controllerFencingToken = controllerFencingToken

end Evidence

section Recovery
variable (registry : RegistryInner)

def recoverSealedRouteBindingV4 (intentId : RuntimeDrainIntentIdV2) (sourceRoute : SlotRouteWitnessV1)
    (allowedCurrentFences : List FencingToken) (lifecycle : SlotLifecycleV1) (sealGeneration : NonZeroU64)
    (sealRegistryObservationSequence : NonZeroU64) (state : RegistryState) :
    Except ServingSlotRegistryError SealedRouteBindingV4 := do
  let key := ServingSlotKeyV1.fromTarget sourceRoute.identity.target
  let sealKey ← orReject (SlotSealKeyV2.tryFrom intentId.canonicalBytes) .v4CapabilityStale
  ensureRegistryOpen state.observation
  let slot ← orReject (state.slots.lookup key) .v4CapabilityStale
  ensureSlotOpen slot
  ensureSingleCurrentRoute slot
  let total ← totalActiveInteractions slot
  rejectIf (total ≠ 0) .v4GuardMismatch
  let current ← orReject slot.current .v4RouteMismatch
  let currentRoute := routeWitnessV1 current
  rejectIf
    (currentRoute.identity ≠ sourceRoute.identity ∨ currentRoute.incarnation ≠ sourceRoute.incarnation ∨
      currentRoute.lifecycle ≠ lifecycle ∨ currentRoute.fencingToken ∉ allowedCurrentFences)
    .v4RouteMismatch
  let sealed ← orReject slot.sealState .v4CapabilityStale
  rejectIf
    (sealed.sealKey ≠ sealKey ∨ sealed.sealGeneration ≠ sealGeneration ∨ sealed.sourceRoute ≠ some sourceRoute ∨
      sealed.route ≠ some currentRoute ∨ sealed.sourceRegistryObservationSequence ≠ sealRegistryObservationSequence)
    .v4ObservationMismatch
  ensureHighWaterMatchesWitness slot currentRoute
  let slotObservation ← atomicObservationV2 slot
  let sequence ← registryObservationSequence state
  pure
    { registry := registry.lifetime
      intentId
      key
      sealKey
      sealGeneration
      sourceRoute
      currentRoute
      routedSlotObservation :=
        { route := some sourceRoute
          admissionState := .drainClaimSealed sealKey sealGeneration
          activeInteractions := 0
          admissionGeneration := sealed.sourceAdmissionGeneration
          observationSequence := sealed.sourceObservationSequence }
      routedRegistryObservationSequence := sealed.sourceRegistryObservationSequence
      slotObservation
      registryObservationSequence := sequence
      totalActiveInteractions := 0 }

def recoverRoutedClaimedStateV4 (authorization : RuntimeSelectedCurrentRoutedClaimedV4) (state : RegistryState) :
    Except ServingSlotRegistryError RoutedClaimedSealedV4 := do
  let sourceRoute := workerRouteWitness authorization.sourceRoute .serving
  rejectIf (sourceRoute.fencingToken.next ≠ .ok authorization.controllerFencingToken) .v4FenceMismatch
  let binding ← recoverSealedRouteBindingV4 registry authorization.intentId sourceRoute
    [authorization.sourceRoute.controllerFencingToken, authorization.controllerFencingToken] .serving
    authorization.sealGeneration authorization.sealRegistryObservationSequence state
  pure
    { binding
      claimFence := authorization.controllerFencingToken
      claimReceiptDigest := authorization.claimTerminalDigest }

def recoverDurableRefenceStateV4 (authorization : RuntimeSelectedCurrentRefencedV4) (state : RegistryState) :
    Except ServingSlotRegistryError (LocallyRefencedSealedV4 × DurablyRefencedSealedV4) := do
  let binding ← recoverSealedRouteBindingV4 registry authorization.intentId
    (workerRouteWitness authorization.sourceRoute .serving) [authorization.removalTarget.controllerFencingToken] .serving
    authorization.sealGeneration authorization.sealRegistryObservationSequence state
  let provenance ← orReject authorization.provenance .v4ReceiptMismatch
  let refencedAt ← orReject authorization.refencedAt .v4ReceiptMismatch
  let refenced ← orReject authorization.registryObservationSequence .v4ObservationMismatch
  pure
    ({ binding
       claimReceiptDigest := authorization.claimTerminalDigest
       provenance
       refencedAt
       refencedRegistryObservationSequence := refenced },
     { binding
       claimReceiptDigest := authorization.claimTerminalDigest
       refenceReceiptDigest := authorization.refenceTerminalDigest })

def recoverRouteAbsentStateV4 (authorization : RuntimeSelectedCurrentRefencedV4) (state : RegistryState) :
    Except ServingSlotRegistryError RouteAbsentSealedV4 := do
  let sourceRoute := workerRouteWitness authorization.sourceRoute .serving
  let removedRoute := workerRouteWitness authorization.removalTarget .draining
  let sealKey ← orReject (SlotSealKeyV2.tryFrom authorization.intentId.canonicalBytes) .v4CapabilityStale
  ensureRegistryOpen state.observation
  let slot ← orReject (state.slots.lookup authorization.slot) .v4CapabilityStale
  ensureSlotOpen slot
  rejectIf ((selectedRoute slot).isSome = true ∨ slot.retired ≠ []) .v4RouteMismatch
  let total ← totalActiveInteractions slot
  rejectIf (total ≠ 0) .v4RouteMismatch
  let sealed ← orReject slot.sealState .v4CapabilityStale
  rejectIf
    (sealed.sealKey ≠ sealKey ∨ sealed.sealGeneration ≠ authorization.sealGeneration ∨
      sealed.sourceRoute ≠ some sourceRoute ∨ sealed.route.isSome = true ∨
      sealed.sourceRegistryObservationSequence ≠ authorization.sealRegistryObservationSequence)
    .v4ObservationMismatch
  ensureHighWaterMatchesWitness slot removedRoute
  let slotObservation ← atomicObservationV2 slot
  let sequence ← registryObservationSequence state
  let binding : AbsentRouteBindingV4 :=
    { registry := registry.lifetime
      intentId := authorization.intentId
      key := authorization.slot
      sealKey
      sealGeneration := sealed.sealGeneration
      sourceRoute
      removedRoute
      slotObservation
      registryObservationSequence := sequence }
  validateAbsentRoute state binding
  pure
    { binding
      claimReceiptDigest := authorization.claimTerminalDigest
      refenceReceiptDigest := authorization.refenceTerminalDigest }

/-- `recovery_seal_from_binding`. -/
def recoverySealFromBinding (binding : SealedRouteBindingV4) : SlotDrainClaimSealV2 where
  registry := binding.registry
  key := binding.key
  sealKey := binding.sealKey
  sealGeneration := binding.sealGeneration
  route := some binding.sourceRoute

def recoverySealFromAbsentBinding (binding : AbsentRouteBindingV4) : SlotDrainClaimSealV2 where
  registry := binding.registry
  key := binding.key
  sealKey := binding.sealKey
  sealGeneration := binding.sealGeneration
  route := some binding.sourceRoute

def checkpointLocallyRefencedSealV4 (source : LocallyRefencedSealedV4) (state : RegistryState) :
    Except ServingSlotRegistryError SlotDrainClaimSealV2 := do
  ensureRegistryBinding registry source.binding.registry
  ensureRegistryOpen state.observation
  validateSealedRoute state source.binding .serving
  pure (recoverySealFromBinding source.binding)

def reconstructSealedRouteBinding (state : RegistryState) (claim : SlotDrainClaimSealV2)
    (intentId : RuntimeDrainIntentIdV2) (sourceRoute currentRoute : SlotRouteWitnessV1) :
    Except ServingSlotRegistryError SealedRouteBindingV4 := do
  let slot ← orReject (state.slots.lookup claim.key) .v4CapabilityStale
  ensureSlotOpen slot
  ensureSingleCurrentRoute slot
  let sealed ← orReject slot.sealState .v4CapabilityStale
  rejectIf
    (¬(sealed.sealKey = claim.sealKey ∧ sealed.sealGeneration = claim.sealGeneration ∧ sealed.route = some currentRoute ∧
      sealed.sourceRoute = some sourceRoute))
    .v4CapabilityStale
  let slotObservation ← atomicObservationV2 slot
  let sequence ← registryObservationSequence state
  let total ← totalActiveInteractions slot
  pure
    { registry := registry.lifetime
      intentId
      key := claim.key
      sealKey := claim.sealKey
      sealGeneration := claim.sealGeneration
      sourceRoute
      currentRoute
      routedSlotObservation :=
        { route := sealed.sourceRoute
          admissionState := .drainClaimSealed sealed.sealKey sealed.sealGeneration
          activeInteractions := 0
          admissionGeneration := sealed.sourceAdmissionGeneration
          observationSequence := sealed.sourceObservationSequence }
      routedRegistryObservationSequence := sealed.sourceRegistryObservationSequence
      slotObservation
      registryObservationSequence := sequence
      totalActiveInteractions := total }

/-- What `resume_locally_refenced_with_evidence_v4` and its durable sibling have in common. -/
def resumeRefencedBinding (claim : SlotDrainClaimSealV2) (intentId : RuntimeDrainIntentIdV2)
    (removalTarget : SlotRouteWitnessV1) (state : RegistryState) :
    Except ServingSlotRegistryError SealedRouteBindingV4 := do
  ensureRegistryBinding registry claim.registry
  let sourceRoute ← orReject claim.route .v4RouteMismatch
  validateRefencePair sourceRoute removalTarget
  ensureRegistryOpen state.observation
  let binding ← reconstructSealedRouteBinding registry state claim intentId sourceRoute removalTarget
  validateSealedRoute state binding .serving
  pure binding

def resumeLocallyRefencedSealedV4 (claim : SlotDrainClaimSealV2) (authorization : RuntimeSelectedCurrentRoutedClaimedV4)
    (state : RegistryState) : Except ServingSlotRegistryError LocallyRefencedSealedV4 := do
  validateRecoveryAuthorization claim authorization.intentId.canonicalBytes authorization.slot authorization.sourceRoute
  let provenance ← orReject authorization.provenance .v4ReceiptMismatch
  let refencedAt ← orReject authorization.refencedAt .v4ReceiptMismatch
  let refenced ← orReject authorization.registryObservationSequence .v4ObservationMismatch
  let binding ← resumeRefencedBinding registry claim authorization.intentId
    { workerRouteWitness authorization.sourceRoute .serving with fencingToken := authorization.controllerFencingToken } state
  pure
    { binding
      claimReceiptDigest := authorization.claimTerminalDigest
      provenance
      refencedAt
      refencedRegistryObservationSequence := refenced }

def resumeDurablyRefencedSealedV4 (claim : SlotDrainClaimSealV2) (authorization : RuntimeSelectedCurrentRefencedV4)
    (state : RegistryState) : Except ServingSlotRegistryError DurablyRefencedSealedV4 := do
  validateRecoveryAuthorization claim authorization.intentId.canonicalBytes authorization.slot authorization.sourceRoute
  let binding ← resumeRefencedBinding registry claim authorization.intentId
    (workerRouteWitness authorization.removalTarget .serving) state
  pure
    { binding
      claimReceiptDigest := authorization.claimTerminalDigest
      refenceReceiptDigest := authorization.refenceTerminalDigest }

def checkpointRouteAbsentSealV4 (source : RouteAbsentSealedV4) (state : RegistryState) :
    Except ServingSlotRegistryError SlotDrainClaimSealV2 := do
  ensureRegistryBinding registry source.binding.registry
  ensureRegistryOpen state.observation
  validateAbsentRoute state source.binding
  pure (recoverySealFromAbsentBinding source.binding)

def resumeRouteAbsentSealedV4 (claim : SlotDrainClaimSealV2) (authorization : RuntimeSelectedCurrentRefencedV4)
    (state : RegistryState) : Except ServingSlotRegistryError RouteAbsentSealedV4 := do
  validateRecoveryAuthorization claim authorization.intentId.canonicalBytes authorization.slot authorization.sourceRoute
  let removalTarget := workerRouteWitness authorization.removalTarget .draining
  ensureRegistryBinding registry claim.registry
  let sourceRoute ← orReject claim.route .v4RouteMismatch
  validateAbsentRefencePair sourceRoute removalTarget
  ensureRegistryOpen state.observation
  let slot ← orReject (state.slots.lookup claim.key) .v4CapabilityStale
  ensureSlotOpen slot
  rejectIf ((selectedRoute slot).isSome = true) .v4RouteMismatch
  let total ← totalActiveInteractions slot
  rejectIf (total ≠ 0) .v4RouteMismatch
  rejectIf (slot.sealMatches claim.sealKey claim.sealGeneration none = false) .v4CapabilityStale
  ensureHighWaterMatchesWitness slot removalTarget
  let slotObservation ← atomicObservationV2 slot
  let sequence ← registryObservationSequence state
  let binding : AbsentRouteBindingV4 :=
    { registry := registry.lifetime
      intentId := authorization.intentId
      key := claim.key
      sealKey := claim.sealKey
      sealGeneration := claim.sealGeneration
      sourceRoute
      removedRoute := removalTarget
      slotObservation
      registryObservationSequence := sequence }
  validateAbsentRoute state binding
  pure
    { binding
      claimReceiptDigest := authorization.claimTerminalDigest
      refenceReceiptDigest := authorization.refenceTerminalDigest }

end Recovery

end Starring.Registry
