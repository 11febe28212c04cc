import Starring.Registry.State

/-! The operations of the registry on routes, interactions and seals, in the order in which they make
their checks. An operation that fails after its counters have been advanced leaves them advanced. -/

namespace Starring.Registry
open Foundation Convergence Calls

structure SlotInstallReceiptV1 where
  outcome : SlotInstallOutcomeV1
  token : SlotMutationTokenV1

inductive SlotActivationOutcomeV1 where
  | activated
  | alreadyServing
  deriving DecidableEq

inductive SlotDrainOutcomeV1 where
  | drainStarted (activeInteractions : Nat)
  | alreadyDraining (activeInteractions : Nat)

inductive SlotRemovalOutcomeV1 where
  | removedStaged
  | removedDraining
  deriving DecidableEq

structure SlotDrainObservationV1 where
  activeInteractions : Nat
  drained : Bool

structure SlotRouteStatusV1 where
  lifecycle : SlotLifecycleV1
  activeInteractions : Nat
  token : SlotMutationTokenV1

structure SlotActivationRecordV2 where
  outcome : SlotActivationOutcomeV1
  route : SlotRouteWitnessV1
  activationSequence : NonZeroU64
  observation : SlotAtomicObservationV2

structure ActiveInteractionGuardV1 where
  registry : NonZeroU64
  key : ServingSlotKeyV1
  incarnation : NonZeroU64
  deriving DecidableEq

structure AdmittedInteractionPartsV2 where
  route : ExactServingRouteV1
  snapshot : SlotMutationTokenV1
  guard : ActiveInteractionGuardV1
  observation : SlotAtomicObservationV2

structure SlotDrainClaimSealV2 where
  registry : NonZeroU64
  key : ServingSlotKeyV1
  sealKey : SlotSealKeyV2
  sealGeneration : NonZeroU64
  route : Option SlotRouteWitnessV1
  deriving DecidableEq

structure RegistryEmptyRecoveryCursorV2 where
  registry : NonZeroU64
  expectedSequence : NonZeroU64
  deriving DecidableEq

structure SealedEmptyRecoveryDrainClaimV2 where
  claim : SlotDrainClaimSealV2
  sourceSlotObservation : Option SlotAtomicObservationV2
  slotObservation : SlotAtomicObservationV2
  registryObservation : RegistryRecoveryObservationV2
  deriving DecidableEq

structure UnsealedEmptyRecoveryDrainClaimV2 where
  cursor : RegistryEmptyRecoveryCursorV2
  slotObservation : SlotAtomicObservationV2
  registryObservation : RegistryRecoveryObservationV2

section Routes
variable (registry : RegistryInner)

def checkSlot (slot : Option SlotCell) (check : SlotCell → Except ServingSlotRegistryError Unit) :
    Except ServingSlotRegistryError Unit :=
  match slot with
  | none => pure ()
  | some slot => check slot

def RegistryState.isFull (state : RegistryState) (registry : RegistryInner) (key : ServingSlotKeyV1) : Prop :=
  state.slots.lookup key = none ∧ registry.config.maxSlots.get ≤ state.slots.entries.length

instance (state : RegistryState) (key : ServingSlotKeyV1) : Decidable (state.isFull registry key) :=
  inferInstanceAs (Decidable (_ ∧ _))

def advanceForInstall (key : ServingSlotKeyV1) : OnRegistry Unit := fun state =>
  match state.slots.lookup key with
  | none =>
    let (result, observation) := advanceRegistryObservation state.observation
    (result, { state with observation })
  | some _ => onSlot key .staleMutationToken advanceSlotMutation state

def stagedRecord (route : ExactServingRouteV1) (fencingToken : FencingToken) (incarnation : NonZeroU64) : RouteRecord where
  route := route
  fencingToken := fencingToken
  incarnation := incarnation
  lifecycle := .staged
  activeInteractions := 0
  activationSequence := none

def FenceHighWater.of (identity : RuntimeProcessIdentityV1) (fencingToken : FencingToken) : FenceHighWater where
  generation := identity.runtimeGeneration
  fencingToken := fencingToken
  identity := identity

def SlotCell.install (self : SlotCell) (record : RouteRecord) : SlotCell :=
  { self with highWater := some (.of record.route.identity record.fencingToken), staged := some record }

def install (key : ServingSlotKeyV1) (route : ExactServingRouteV1) (fencingToken : FencingToken) :
    OnRegistry SlotInstallReceiptV1 := do
  ofExcept (rejectIf (route.slotKey ≠ key) .targetSlotMismatch)
  lockState
  let state ← get
  let slot := state.slots.lookup key
  ofExcept (rejectIf (state.isFull registry key) .slotCapacityExceeded)
  ofExcept (checkSlot slot ensureSlotOpen)
  ofExcept (checkSlot slot ensureSlotUnsealed)
  match slot.bind fun slot => findExactInstalled slot route.identity fencingToken with
  | some (record, outcome) => do
    ofExcept (ensureHighWater slot (record.mutationToken registry key))
    pure ⟨outcome, record.mutationToken registry key⟩
  | none => do
    ofExcept (validateNewFence slot route.identity fencingToken)
    let incarnation ← ofExcept (nextIncarnation state)
    advanceForInstall key
    let record := stagedRecord route fencingToken incarnation
    modify fun state =>
      { state with
        nextIncarnation := incarnation.get
        slots := state.slots.insert key (((state.slots.lookup key).getD .fresh).install record) }
    pure ⟨.staged, record.mutationToken registry key⟩

def activationRecordV2 (slot : SlotCell) (route : RouteRecord) (outcome : SlotActivationOutcomeV1) :
    Except ServingSlotRegistryError SlotActivationRecordV2 := do
  let activationSequence ← orReject route.activationSequence .slotSequenceExhausted
  let observation ← atomicObservationV2 slot
  pure { outcome, route := routeWitnessV1 route, activationSequence, observation }

/-- Retired routes are kept as long as they are in use. -/
def SlotCell.retireCurrent (self : SlotCell) : SlotCell :=
  let retained := self.retired.filter fun route => 0 < route.activeInteractions
  match self.current with
  | none => { self with retired := retained }
  | some current =>
    let retiring := { current with lifecycle := .draining }
    { self with
      current := none
      retired :=
        if 0 < current.activeInteractions then
          retiring :: retained.filter fun route => route.incarnation ≠ current.incarnation
        else retained }

def RouteRecord.activated (self : RouteRecord) (activationSequence : NonZeroU64) : RouteRecord :=
  { self with lifecycle := .serving, activationSequence := some activationSequence }

def SlotCell.retiresBeyond (self : SlotCell) (limit : Nat) : Prop :=
  self.current.any (fun route => 0 < route.activeInteractions) = true ∧
    limit ≤ self.retired.countP fun route => 0 < route.activeInteractions

instance (slot : SlotCell) (limit : Nat) : Decidable (slot.retiresBeyond limit) := inferInstanceAs (Decidable (_ ∧ _))

def activateWithSequenceV2 (token : SlotMutationTokenV1) (expectedIdentity : RuntimeProcessIdentityV1) :
    OnRegistry SlotActivationRecordV2 := do
  ofExcept (rejectIf (token.identity ≠ expectedIdentity) .activationTargetMismatch)
  ofExcept (ensureRegistryToken registry token)
  lockState
  onSlot token.key .staleMutationToken do
    let slot ← borrowedSlot
    ofExcept (ensureSlotOpen slot)
    ofExcept (ensureSlotUnsealed slot)
    match slot.current.filter fun current => current.matches token && current.lifecycle = .serving with
    | some current => do
      ofExcept (ensureHighWater (some slot) token)
      ofExcept (activationRecordV2 slot current .alreadyServing)
    | none => do
      ofExcept (rejectIf (slot.staged.any (fun staged => staged.matches token) = false) .staleMutationToken)
      ofExcept
        (rejectIf (slot.retiresBeyond registry.config.maxRetiredRoutesPerSlot.get) .retiredRouteCapacityExceeded)
      let activationSequence ← advanceSlotActivation
      modifySlot SlotCell.retireCurrent
      let slot ← borrowedSlot
      let staged ← ofExcept (orReject slot.staged .staleMutationToken)
      modifySlot fun slot => { slot with staged := none, current := some (staged.activated activationSequence) }
      let slot ← borrowedSlot
      ofExcept (activationRecordV2 slot (staged.activated activationSequence) .activated)

/-- `activate`. -/
def activate (token : SlotMutationTokenV1) (expectedIdentity : RuntimeProcessIdentityV1) :
    OnRegistry SlotActivationOutcomeV1 := do
  let receipt ← activateWithSequenceV2 registry token expectedIdentity
  pure receipt.outcome

def RouteRecord.drained (self : RouteRecord) : RouteRecord := { self with lifecycle := .draining }

def beginDrainWithAuthority (authority target : SlotMutationTokenV1) : OnRegistry SlotDrainOutcomeV1 := do
  ofExcept (ensureRegistryToken registry authority)
  ofExcept (ensureRegistryToken registry target)
  ofExcept (rejectIf (authority.key ≠ target.key) .staleMutationToken)
  lockState
  onSlot target.key .staleMutationToken do
    let slot ← borrowedSlot
    ofExcept (ensureSlotOpen slot)
    ofExcept (ensureSlotUnsealed slot)
    let retired := (slot.findRetired target.incarnation).filter fun retired => retired.matches target
    match if authority = target then retired else none with
    | some retired => pure (.alreadyDraining retired.activeInteractions)
    | none => do
      ofExcept (ensureHighWater (some slot) authority)
      match slot.current.filter fun current => current.matches target with
      | some current =>
        match current.lifecycle with
        | .serving => do
          advanceSlotMutation
          modifySlot fun slot => { slot with current := some current.drained }
          pure (.drainStarted current.activeInteractions)
        | .draining => pure (.alreadyDraining current.activeInteractions)
        | .staged => ofExcept (.error .notServing)
      | none => do
        let retired ← ofExcept (orReject retired .staleMutationToken)
        pure (.alreadyDraining retired.activeInteractions)

def beginDrain (token : SlotMutationTokenV1) : OnRegistry SlotDrainOutcomeV1 := beginDrainWithAuthority registry token token

def observeDrain (token : SlotMutationTokenV1) (state : RegistryState) :
    Except ServingSlotRegistryError SlotDrainObservationV1 := do
  ensureRegistryToken registry token
  ensureRegistryOpen state.observation
  let slot ← orReject (state.slots.lookup token.key) .staleMutationToken
  let route ← orReject (findRecord slot token) .staleMutationToken
  rejectIf (route.lifecycle ≠ .draining) .notDraining
  pure ⟨route.activeInteractions, route.activeInteractions = 0⟩

def removeStaged : OnSlot SlotRemovalOutcomeV1 := do
  advanceSlotMutation
  modifySlot fun slot => { slot with staged := none }
  pure .removedStaged

def removeCurrent (current : RouteRecord) : OnSlot SlotRemovalOutcomeV1 := do
  ofExcept (validateRemovable current)
  advanceSlotMutation
  modifySlot fun slot => { slot with current := none }
  pure .removedDraining

def removeRetired (token : SlotMutationTokenV1) : OnSlot SlotRemovalOutcomeV1 := do
  let slot ← borrowedSlot
  let retired ← ofExcept
    (orReject ((slot.findRetired token.incarnation).filter fun retired => retired.matches token) .staleMutationToken)
  ofExcept (validateRemovable retired)
  advanceSlotMutation
  modifySlot fun slot =>
    { slot with retired := slot.retired.filter fun route => route.incarnation ≠ token.incarnation }
  pure .removedDraining

def remove (token : SlotMutationTokenV1) : OnRegistry SlotRemovalOutcomeV1 := do
  ofExcept (ensureRegistryToken registry token)
  lockState
  onSlot token.key .staleMutationToken do
    let slot ← borrowedSlot
    ofExcept (ensureSlotOpen slot)
    ofExcept (ensureSlotUnsealed slot)
    if slot.staged.any fun staged => staged.matches token then do
      ofExcept (ensureHighWater (some slot) token)
      removeStaged
    else
      match slot.current.filter fun current => current.matches token with
      | some current => do
        ofExcept (ensureHighWater (some slot) token)
        removeCurrent current
      | none => removeRetired token

/-- Here the authority has to be at the high water also for a retired route. -/
def removeWithAuthority (authority target : SlotMutationTokenV1) : OnRegistry SlotRemovalOutcomeV1 := do
  ofExcept (ensureRegistryToken registry authority)
  ofExcept (ensureRegistryToken registry target)
  ofExcept (rejectIf (authority.key ≠ target.key) .staleMutationToken)
  lockState
  onSlot target.key .staleMutationToken do
    let slot ← borrowedSlot
    ofExcept (ensureSlotOpen slot)
    ofExcept (ensureSlotUnsealed slot)
    ofExcept (ensureHighWater (some slot) authority)
    if slot.staged.any fun staged => staged.matches target then removeStaged
    else
      match slot.current.filter fun current => current.matches target with
      | some current => removeCurrent current
      | none => removeRetired target

def servingSnapshot (key : ServingSlotKeyV1) (state : RegistryState) :
    Except ServingSlotRegistryError (Option SlotMutationTokenV1) := do
  ensureRegistryOpen state.observation
  match state.slots.lookup key with
  | none => pure none
  | some slot => do
    ensureSlotOpen slot
    pure <| if slot.sealState.isSome then none
      else (slot.current.filter fun current => current.lifecycle = .serving).map fun current =>
        current.mutationToken registry key

def routeStatus (token : SlotMutationTokenV1) (state : RegistryState) :
    Except ServingSlotRegistryError SlotRouteStatusV1 := do
  ensureRegistryToken registry token
  ensureRegistryOpen state.observation
  let slot ← orReject (state.slots.lookup token.key) .staleMutationToken
  let route ← orReject (findRecord slot token) .staleMutationToken
  pure ⟨route.lifecycle, route.activeInteractions, route.mutationToken registry token.key⟩

def routeWitness (token : SlotMutationTokenV1) (state : RegistryState) :
    Except ServingSlotRegistryError SlotRouteWitnessV1 := do
  ensureRegistryToken registry token
  ensureRegistryOpen state.observation
  let slot ← orReject (state.slots.lookup token.key) .staleMutationToken
  let route ← orReject (findRecord slot token) .staleMutationToken
  pure (routeWitnessV1 route)

def RouteRecord.refenced (self : RouteRecord) (fencingToken : FencingToken) : RouteRecord := { self with fencingToken }

def SlotCell.raiseHighWater (self : SlotCell) (fencingToken : FencingToken) : SlotCell :=
  { self with highWater := self.highWater.map fun highWater => { highWater with fencingToken } }

def advanceAuthority (token : SlotMutationTokenV1) (expectedIdentity : RuntimeProcessIdentityV1)
    (nextFencingToken : FencingToken) : OnRegistry SlotMutationTokenV1 := do
  ofExcept (ensureRegistryToken registry token)
  lockState
  onSlot token.key .staleMutationToken do
    let slot ← borrowedSlot
    ofExcept (ensureSlotOpen slot)
    ofExcept (ensureSlotUnsealed slot)
    ofExcept (ensureHighWater (some slot) token)
    let stagedMatch := slot.staged.filter fun staged => staged.matches token
    let currentMatch := slot.current.filter fun current => current.matches token
    ofExcept (rejectIf (stagedMatch = none ∧ currentMatch = none) .staleMutationToken)
    ofExcept (rejectIf (token.identity ≠ expectedIdentity) .authorityTargetMismatch)
    let expected ← ofExcept (token.fencingToken.next.mapError fun _ => .fencingTokenExhausted)
    ofExcept (rejectIf (nextFencingToken ≠ expected) (.nonSuccessorFencingToken expected nextFencingToken))
    advanceSlotMutation
    match stagedMatch with
    | some staged => do
      modifySlot fun slot =>
        { slot.raiseHighWater nextFencingToken with staged := some (staged.refenced nextFencingToken) }
      pure ((staged.refenced nextFencingToken).mutationToken registry token.key)
    | none => do
      let current ← ofExcept (orReject currentMatch .staleMutationToken)
      modifySlot fun slot =>
        { slot.raiseHighWater nextFencingToken with current := some (current.refenced nextFencingToken) }
      pure ((current.refenced nextFencingToken).mutationToken registry token.key)

end Routes

section Interactions
variable (registry : RegistryInner)

def SlotCell.activeForAdmission (self : SlotCell) (current : RouteRecord) : Nat :=
  current.activeInteractions + (self.retired.map RouteRecord.activeInteractions).sum

def RouteRecord.admitted (self : RouteRecord) : RouteRecord :=
  { self with activeInteractions := self.activeInteractions + 1 }

def admitInternalV2 (key : ServingSlotKeyV1) (expectedAdmissionGeneration : Option NonZeroU64) :
    OnRegistry AdmittedInteractionPartsV2 := do
  lockState
  onSlot key .notServing do
    let slot ← borrowedSlot
    ofExcept (ensureSlotOpen slot)
    ofExcept (ensureSlotUnsealed slot)
    ofExcept
      (match expectedAdmissionGeneration with
        | none => pure ()
        | some expected =>
          rejectIf (slot.admissionGeneration ≠ expected) (.admissionGenerationMismatch expected slot.admissionGeneration))
    let current ← ofExcept (orReject slot.current .notServing)
    ofExcept (rejectIf (current.lifecycle ≠ .serving) .notServing)
    ofExcept
      (rejectIf (registry.config.maxActiveInteractionsPerSlot.get ≤ slot.activeForAdmission current)
        .activeInteractionCapacityExceeded)
    advanceSlotObservation
    modifySlot fun slot => { slot with current := some current.admitted }
    let slot ← borrowedSlot
    let observation ← ofExcept (atomicObservationV2 slot)
    pure
      { route := current.route
        snapshot := current.admitted.mutationToken registry key
        guard := { registry := registry.lifetime, key, incarnation := current.incarnation }
        observation }

/-- `admit`. -/
def admitInteraction (key : ServingSlotKeyV1) : OnRegistry AdmittedInteractionPartsV2 := admitInternalV2 registry key none

/-- `admit_at_generation_v2`. -/
def admitAtGenerationV2 (key : ServingSlotKeyV1) (expectedAdmissionGeneration : NonZeroU64) :
    OnRegistry AdmittedInteractionPartsV2 :=
  admitInternalV2 registry key (some expectedAdmissionGeneration)

def RouteRecord.released (self : RouteRecord) : RouteRecord :=
  { self with activeInteractions := self.activeInteractions - 1 }

def SlotCell.releaseRetired (self : SlotCell) (incarnation : NonZeroU64) : SlotCell :=
  { self with
    retired := self.retired.map fun route => if route.incarnation = incarnation then route.released else route }

/-- `drop`: a guard that is dropped releases its interaction, unless the registry has run out of numbers. -/
def ActiveInteractionGuardV1.drop (self : ActiveInteractionGuardV1) (state : RegistryState) : RegistryState :=
  match state.slots.lookup self.key with
  | none => state
  | some slot =>
    match slot.current.filter fun current => current.incarnation = self.incarnation with
    | some current =>
      match advanceObservationOrClose ⟨state.observation, slot⟩ with
      | (true, borrowed) =>
        state.giveBack self.key { borrowed with slot := { borrowed.slot with current := some current.released } }
      | (false, borrowed) => state.giveBack self.key borrowed
    | none =>
      match slot.findRetired self.incarnation with
      | none => state
      | some _ =>
        match advanceObservationOrClose ⟨state.observation, slot⟩ with
        | (true, borrowed) =>
          state.giveBack self.key { borrowed with slot := borrowed.slot.releaseRetired self.incarnation }
        | (false, borrowed) => state.giveBack self.key borrowed

end Interactions

section Seals
variable (registry : RegistryInner)

def atomicObservationOf (key : ServingSlotKeyV1) (state : RegistryState) :
    Except ServingSlotRegistryError (Option SlotAtomicObservationV2) :=
  match state.slots.lookup key with
  | none => pure none
  | some slot => some <$> atomicObservationV2 slot

def atomicObservationV2At (key : ServingSlotKeyV1) (state : RegistryState) :
    Except ServingSlotRegistryError (Option SlotAtomicObservationV2) := do
  ensureRegistryOpen state.observation
  atomicObservationOf key state

/-- `recovery_observation_guard_v2` and `into_empty_cursor`. -/
def emptyCursor (state : RegistryState) : Except ServingSlotRegistryError RegistryEmptyRecoveryCursorV2 := do
  let observation ← registryRecoveryObservationV2 state
  rejectIf (observation.isRecoveryEmpty = false) .registryRecoveryNotEmpty
  pure ⟨registry.lifetime, observation.observationSequence⟩

def revalidateEmptyRecoveryCursorV2 (cursor : RegistryEmptyRecoveryCursorV2) (state : RegistryState) :
    Except ServingSlotRegistryError RegistryRecoveryObservationV2 := do
  rejectIf (cursor.registry ≠ registry.lifetime) .staleRegistryEmptyRecoveryCursor
  let observation ← registryRecoveryObservationV2 state
  rejectIf (observation.observationSequence ≠ cursor.expectedSequence) .staleRegistryEmptyRecoveryCursor
  rejectIf (observation.isRecoveryEmpty = false) .registryRecoveryNotEmpty
  pure observation

/-- The seal of a slot with these numbers; its source is what the slot is now. -/
def SlotCell.sealed (self : SlotCell) (observation : RegistryObservationState) (sealKey : SlotSealKeyV2)
    (sealGeneration : NonZeroU64) (route : Option SlotRouteWitnessV1) : SlotCell :=
  { self with
    sealState := some
      { sealKey
        sealGeneration
        route
        sourceRoute := route
        sourceAdmissionGeneration := self.admissionGeneration
        sourceObservationSequence := self.observationSequence
        sourceRegistryObservationSequence := observation.sequence } }

def sealSlot (sealKey : SlotSealKeyV2) (materializing : Bool) (route : Option SlotRouteWitnessV1) : OnSlot NonZeroU64 := do
  let sealGeneration ← advanceSlotSeal materializing
  modify fun borrowed =>
    { borrowed with slot := borrowed.slot.sealed borrowed.observation sealKey sealGeneration route }
  pure sealGeneration

/-- A slot is made for its seal, and kept only if it gets it. -/
def materializeSealed (key : ServingSlotKeyV1) (sealKey : SlotSealKeyV2) : OnRegistry NonZeroU64 := fun state =>
  match sealSlot sealKey true none ⟨state.observation, .fresh⟩ with
  | (.error error, borrowed) => (.error error, { state with observation := borrowed.observation })
  | (.ok sealGeneration, borrowed) => (.ok sealGeneration, state.giveBack key borrowed)

def SlotDrainClaimSealV2.of (registry : RegistryInner) (key : ServingSlotKeyV1) (sealKey : SlotSealKeyV2)
    (sealGeneration : NonZeroU64) (route : Option SlotRouteWitnessV1) : SlotDrainClaimSealV2 where
  registry := registry.lifetime
  key := key
  sealKey := sealKey
  sealGeneration := sealGeneration
  route := route

/-- What is observed in the slot that has just been worked on. -/
def observeSlot (key : ServingSlotKeyV1) (missing : ServingSlotRegistryError) : OnRegistry SlotAtomicObservationV2 :=
  examine fun state => do
    let slot ← orReject (state.slots.lookup key) missing
    atomicObservationV2 slot

def sealDrainClaimV2 (key : ServingSlotKeyV1) (sealKey : SlotSealKeyV2) (expected : Option SlotAtomicObservationV2) :
    OnRegistry (SlotDrainClaimSealV2 × SlotAtomicObservationV2) := do
  lockState
  let state ← get
  ofExcept (rejectIf (state.isFull registry key) .slotCapacityExceeded)
  match state.slots.lookup key with
  | none => do
    ofExcept (rejectIf (expected.isSome = true) .staleSlotObservation)
    let sealGeneration ← materializeSealed key sealKey
    let observed ← observeSlot key .staleSlotObservation
    pure (.of registry key sealKey sealGeneration none, observed)
  | some slot => do
    ofExcept (ensureSlotOpen slot)
    ofExcept (ensureSlotUnsealed slot)
    let observation ← ofExcept (atomicObservationV2 slot)
    ofExcept (rejectIf (expected ≠ some observation) .staleSlotObservation)
    let route := (selectedRoute slot).map routeWitnessV1
    let sealGeneration ← onSlot key .staleSlotObservation (sealSlot sealKey false route)
    let observed ← observeSlot key .staleSlotObservation
    pure (.of registry key sealKey sealGeneration route, observed)

/-- One slot is sealed, and all others are empty. -/
def RegistryRecoveryObservationV2.isOneSealed (self : RegistryRecoveryObservationV2) : Bool :=
  self.registryFailedClosed = false ∧ self.counts.stagedRouteCount = 0 ∧ self.counts.servingRouteCount = 0 ∧
    self.counts.drainingRouteCount = 0 ∧ self.counts.sealedSlotCount = 1 ∧ self.counts.activeInteractionCount = 0 ∧
    self.counts.failedClosedSlotCount = 0 ∧ self.retainedSlotCount = self.counts.retainedEmptyTombstoneCount + 1

/-- The last of the conditions is computed before it is compared. -/
def RegistryRecoveryObservationV2.checkOneSealed (self : RegistryRecoveryObservationV2)
    (error : ServingSlotRegistryError) : Except ServingSlotRegistryError Unit := do
  rejectIf ({ self with retainedSlotCount := self.counts.retainedEmptyTombstoneCount + 1 }.isOneSealed = false) error
  rejectIf (2 ^ 64 ≤ self.counts.retainedEmptyTombstoneCount + 1) .registryObservationOverflow
  rejectIf (self.isOneSealed = false) error

def observeRegistry : OnRegistry RegistryRecoveryObservationV2 := examine registryRecoveryObservationV2

def sealEmptyRecoveryDrainClaimV2 (cursor : RegistryEmptyRecoveryCursorV2) (key : ServingSlotKeyV1)
    (sealKey : SlotSealKeyV2) : OnRegistry SealedEmptyRecoveryDrainClaimV2 := do
  lockState
  ofExcept (rejectIf (cursor.registry ≠ registry.lifetime) .staleRegistryEmptyRecoveryCursor)
  let state ← get
  let source ← ofExcept (registryRecoveryObservationV2 state)
  ofExcept (rejectIf (source.observationSequence ≠ cursor.expectedSequence) .staleRegistryEmptyRecoveryCursor)
  ofExcept (rejectIf (source.isRecoveryEmpty = false) .registryRecoveryNotEmpty)
  let sourceSlotObservation ← ofExcept (atomicObservationOf key state)
  ofExcept (rejectIf (state.isFull registry key) .slotCapacityExceeded)
  let sealGeneration ←
    match state.slots.lookup key with
    | none => materializeSealed key sealKey
    | some _ =>
      onSlot key .staleSlotObservation do
        let slot ← borrowedSlot
        ofExcept (ensureSlotOpen slot)
        ofExcept (ensureSlotUnsealed slot)
        let observation ← ofExcept (atomicObservationV2 slot)
        ofExcept
          (rejectIf ((selectedRoute slot).isSome = true ∨ observation.activeInteractions ≠ 0) .registryRecoveryNotEmpty)
        sealSlot sealKey false none
  let slotObservation ← observeSlot key .staleSlotObservation
  let registryObservation ← observeRegistry
  ofExcept (registryObservation.checkOneSealed .registryObservationInvalid)
  pure { claim := .of registry key sealKey sealGeneration none, sourceSlotObservation, slotObservation, registryObservation }

/-- The seal of the slot is the one that the capability was given for. -/
def SlotCell.sealMatches (self : SlotCell) (sealKey : SlotSealKeyV2) (sealGeneration : NonZeroU64)
    (route : Option SlotRouteWitnessV1) : Bool :=
  self.sealState.any fun sealed => sealed.sealKey = sealKey ∧ sealed.sealGeneration = sealGeneration ∧ sealed.route = route

def unsealSlot : OnSlot SlotAtomicObservationV2 := do
  advanceSlotMutation
  modifySlot fun slot => { slot with sealState := none }
  let slot ← borrowedSlot
  ofExcept (atomicObservationV2 slot)

def unsealDrainClaimV2 (capability : SlotDrainClaimSealV2) : OnRegistry SlotAtomicObservationV2 := do
  ofExcept (rejectIf (capability.registry ≠ registry.lifetime) .staleSlotSeal)
  lockState
  onSlot capability.key .staleSlotSeal do
    let slot ← borrowedSlot
    ofExcept (ensureSlotOpen slot)
    ofExcept
      (rejectIf
        (slot.sealMatches capability.sealKey capability.sealGeneration capability.route = false ∨
          (selectedRoute slot).map routeWitnessV1 ≠ capability.route)
        .staleSlotSeal)
    unsealSlot

def unsealEmptyRecoveryDrainClaimV2 (capability : SealedEmptyRecoveryDrainClaimV2) :
    OnRegistry UnsealedEmptyRecoveryDrainClaimV2 := do
  ofExcept (rejectIf (capability.claim.registry ≠ registry.lifetime) .staleSlotSeal)
  lockState
  let source ← observeRegistry
  ofExcept (rejectIf (source ≠ capability.registryObservation) .staleSlotSeal)
  ofExcept (source.checkOneSealed .staleSlotSeal)
  let slotObservation ← onSlot capability.claim.key .staleSlotSeal do
    let slot ← borrowedSlot
    ofExcept (ensureSlotOpen slot)
    let observation ← ofExcept (atomicObservationV2 slot)
    ofExcept (rejectIf (observation ≠ capability.slotObservation) .staleSlotSeal)
    ofExcept
      (rejectIf
        (slot.sealMatches capability.claim.sealKey capability.claim.sealGeneration none = false ∨
          (selectedRoute slot).isSome = true ∨ capability.claim.route.isSome = true)
        .staleSlotSeal)
    unsealSlot
  let registryObservation ← observeRegistry
  ofExcept (rejectIf (registryObservation.isRecoveryEmpty = false) .registryRecoveryNotEmpty)
  pure
    { cursor := ⟨registry.lifetime, registryObservation.observationSequence⟩
      slotObservation
      registryObservation }

end Seals

end Starring.Registry
