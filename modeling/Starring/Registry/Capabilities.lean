import Starring.Registry.Steps

/-! What the capabilities say. Everything that a capability records was true of its slot, or of the registry, at the
moment when it was given out, or it was taken over from an earlier capability. -/

namespace Starring.Registry
open Foundation Convergence RegistryState List

/-- The second route is the first one, with the next fence. -/
structure Refenced (source current : SlotRouteWitnessV1) (lifecycle : SlotLifecycleV1) : Prop where
  identity : source.identity = current.identity
  incarnation : source.incarnation = current.incarnation
  serving : source.lifecycle = .serving
  isIn : current.lifecycle = lifecycle
  next : source.fencingToken.next = .ok current.fencingToken

/-- The route is claimed with its next fence, which it may have got already. -/
structure ClaimedAt (source current : SlotRouteWitnessV1) (claimFence : FencingToken) : Prop where
  identity : source.identity = current.identity
  incarnation : source.incarnation = current.incarnation
  serving : source.lifecycle = .serving
  isIn : current.lifecycle = .serving
  next : source.fencingToken.next = .ok claimFence
  fence : current.fencingToken = source.fencingToken ∨ current.fencingToken = claimFence

/-- A seal of a slot, with the route that the slot had when it was sealed. -/
structure SealName where
  key : ServingSlotKeyV1
  sealKey : SlotSealKeyV2
  sealGeneration : NonZeroU64
  sourceRoute : Option SlotRouteWitnessV1
  deriving DecidableEq

def SealedRouteBindingV4.sealName (self : SealedRouteBindingV4) : SealName :=
  ⟨self.key, self.sealKey, self.sealGeneration, some self.sourceRoute⟩

def AbsentRouteBindingV4.sealName (self : AbsentRouteBindingV4) : SealName :=
  ⟨self.key, self.sealKey, self.sealGeneration, some self.sourceRoute⟩

def SlotDrainClaimSealV2.sealName (self : SlotDrainClaimSealV2) : SealName :=
  ⟨self.key, self.sealKey, self.sealGeneration, self.route⟩

namespace Capability

/-- The routes of a capability belong together. -/
def Genuine : Capability → Prop
  | .routedSealed sealed =>
    sealed.binding.currentRoute = sealed.binding.sourceRoute ∧ sealed.binding.sourceRoute.lifecycle = .serving
  | .routedClaimed claimed => ClaimedAt claimed.binding.sourceRoute claimed.binding.currentRoute claimed.claimFence
  | .locallyRefenced refenced => Refenced refenced.binding.sourceRoute refenced.binding.currentRoute .serving
  | .durablyRefenced refenced => Refenced refenced.binding.sourceRoute refenced.binding.currentRoute .serving
  | .drainingRefenced draining => Refenced draining.binding.sourceRoute draining.binding.currentRoute .draining
  | .routeAbsent absent => Refenced absent.binding.sourceRoute absent.binding.removedRoute .draining
  | _ => True

def sealName : Capability → Option SealName
  | .cursor _ | .routedObserved _ => none
  | .claim capability => some capability.sealName
  | .sealedEmpty sealed => some sealed.claim.sealName
  | .routedSealed sealed => some sealed.binding.sealName
  | .routedClaimed claimed => some claimed.binding.sealName
  | .locallyRefenced refenced => some refenced.binding.sealName
  | .durablyRefenced refenced => some refenced.binding.sealName
  | .drainingRefenced draining => some draining.binding.sealName
  | .routeAbsent absent => some absent.binding.sealName
  | .emptySuccession succession => some succession.sealedClaim.claim.sealName

/-- The observation of a slot that is stored in a capability. -/
def slotObservation : Capability → Option (ServingSlotKeyV1 × SlotAtomicObservationV2)
  | .cursor _ | .claim _ => none
  | .sealedEmpty sealed => some (sealed.claim.key, sealed.slotObservation)
  | .routedObserved observed => some (observed.binding.key, observed.binding.slotObservation)
  | .routedSealed sealed => some (sealed.binding.key, sealed.binding.slotObservation)
  | .routedClaimed claimed => some (claimed.binding.key, claimed.binding.slotObservation)
  | .locallyRefenced refenced => some (refenced.binding.key, refenced.binding.slotObservation)
  | .durablyRefenced refenced => some (refenced.binding.key, refenced.binding.slotObservation)
  | .drainingRefenced draining => some (draining.binding.key, draining.binding.slotObservation)
  | .routeAbsent absent => some (absent.binding.key, absent.binding.slotObservation)
  | .emptySuccession succession => some (succession.sealedClaim.claim.key, succession.sealedClaim.slotObservation)

/-- The number of the registry observation that a capability for an empty registry depends on. -/
def registrySequence : Capability → Option NonZeroU64
  | .cursor capability => some capability.expectedSequence
  | .sealedEmpty sealed => some sealed.registryObservation.observationSequence
  | .emptySuccession succession => some succession.sealedClaim.registryObservation.observationSequence
  | _ => none

/-- The slot that a capability found with one route only, which was not in use. -/
def idleSlot : Capability → Option ServingSlotKeyV1
  | .routedSealed sealed => some sealed.binding.key
  | _ => none

end Capability

namespace RegistryState

def Names (state : RegistryState) (name : SealName) : Prop :=
  ∃ sealed, (state.slotAt name.key).sealState = some sealed ∧ sealed.sealKey = name.sealKey ∧
    sealed.sealGeneration = name.sealGeneration ∧ sealed.sourceRoute = name.sourceRoute

def Shows (state : RegistryState) (key : ServingSlotKeyV1) (observed : SlotAtomicObservationV2) : Prop :=
  ∃ slot, state.slots.lookup key = some slot ∧ slot.failedClosed = false ∧ slot.observed = observed

end RegistryState

/-- What is true of a capability that was just given out by a registry that had given out others before. -/
structure Granted (registry : RegistryInner) (issued : List Capability) (state : RegistryState) (capability : Capability) :
    Prop where
  genuine : capability.Genuine
  sealed : ∀ name, capability.sealName = some name → state.Names name ∨
    ∃ source ∈ issued, source.registry = registry.lifetime ∧ source.sealName = some name
  observed : ∀ key observation, capability.slotObservation = some (key, observation) → state.Shows key observation ∨
    ∃ source ∈ issued, source.registry = registry.lifetime ∧ source.slotObservation = some (key, observation)
  counted : ∀ sequence, capability.registrySequence = some sequence → state.observation.sequence = sequence
  idle : ∀ key, capability.idleSlot = some key →
    (∃ current, (state.slotAt key).content.OnlyIdle current) ∧ (state.slotAt key).sealState.isSome = true ∧
      ∀ observation, capability.slotObservation = some (key, observation) → state.Shows key observation

section Queries
variable {registry : RegistryInner} {state : RegistryState}

theorem observeRoutedV4_eq_ok {token : SlotMutationTokenV1} {observed : RoutedObservedV4}
    (told : observeRoutedV4 registry token state = .ok observed) :
    state.Shows observed.binding.key observed.binding.slotObservation := by
  simp only [observeRoutedV4, bind_eq_ok, orReject_eq_ok, pure_eq_ok] at told
  obtain ⟨_, -, _, -, slot, found, _, -, _, -, _, -, _, -, current, -, _, -, total, -, observation, isObserved, sequence, -,
    rfl⟩ := told
  obtain ⟨isOpen, rfl⟩ := atomicObservationV2_eq_ok isObserved
  exact ⟨slot, found, isOpen, rfl⟩

theorem bindRoutedClaimWithDigestV4_eq_ok (sound : state.Sound registry) {source : RoutedSealedV4} {claimFence : FencingToken}
    {digest : RegistryDurableReceiptDigestV4} {claimed : RoutedClaimedSealedV4}
    (told : bindRoutedClaimWithDigestV4 registry source claimFence digest state = .ok claimed) :
    source.binding.registry = registry.lifetime ∧
      source.binding.sourceRoute.fencingToken.next = .ok claimed.claimFence ∧
      ∃ slot current, SealedRoute state source.binding .serving slot current ∧
        slot.admissionGeneration = source.binding.slotObservation.admissionGeneration ∧
        claimed.binding =
          { source.binding with
            slotObservation := slot.observed
            registryObservationSequence := state.observation.sequence
            totalActiveInteractions := current.activeInteractions } := by
  simp only [bindRoutedClaimWithDigestV4, bind_eq_ok, mapError_eq_ok, rejectIf_eq_ok, ne_eq, Decidable.not_not, pure_eq_ok]
    at told
  obtain ⟨_, isOurs, expected, isNext, _, rfl, _, -, ⟨observed, sequence, total⟩, valid, rfl⟩ := told
  obtain ⟨slot, current, route, rfl, rfl, rfl, admission, -⟩ := observeSealedRouteAfterGuardReleases_eq_ok sound valid
  exact ⟨ensureRegistryBinding_eq_ok isOurs, isNext, slot, current, route, admission, rfl⟩

theorem bindDurableRefenceWithDigestV4_eq_ok {source : LocallyRefencedSealedV4} {digest : RegistryDurableReceiptDigestV4}
    {refenced : DurablyRefencedSealedV4} (told : bindDurableRefenceWithDigestV4 registry source digest state = .ok refenced) :
    source.binding.registry = registry.lifetime ∧ refenced.binding = source.binding ∧
      ∃ slot current, SealedRoute state source.binding .serving slot current ∧
        slot.observed = source.binding.slotObservation := by
  simp only [bindDurableRefenceWithDigestV4, bind_eq_ok, pure_eq_ok] at told
  obtain ⟨_, isOurs, _, -, _, valid, rfl⟩ := told
  obtain ⟨slot, current, route, observed, -⟩ := validateSealedRoute_eq_ok valid
  exact ⟨ensureRegistryBinding_eq_ok isOurs, rfl, slot, current, route, observed⟩

variable {intentId : RuntimeDrainIntentIdV2} {binding : SealedRouteBindingV4}

theorem recoverSealedRouteBindingV4_eq_ok {sourceRoute : SlotRouteWitnessV1} {allowed : List FencingToken}
    {lifecycle : SlotLifecycleV1} {sealGeneration sequence : NonZeroU64}
    (told : recoverSealedRouteBindingV4 registry intentId sourceRoute allowed lifecycle sealGeneration sequence state =
      .ok binding) : binding.sourceRoute = sourceRoute ∧ sourceRoute.identity = binding.currentRoute.identity ∧
      sourceRoute.incarnation = binding.currentRoute.incarnation ∧ binding.currentRoute.lifecycle = lifecycle ∧
      binding.currentRoute.fencingToken ∈ allowed ∧ state.Names binding.sealName ∧
      state.Shows binding.key binding.slotObservation := by
  simp only [recoverSealedRouteBindingV4, bind_eq_ok, orReject_eq_ok, rejectIf_eq_ok, ne_eq, not_or, Decidable.not_not,
    pure_eq_ok] at told
  obtain ⟨sealKey, -, _, -, slot, found, _, -, _, -, total, -, _, -, current, -, _, ⟨identity, incarnation, isIn, allowed⟩,
    sealed, isSealed, _, ⟨sameKey, sameGeneration, isSource, -, -⟩, _, -, observation, isObserved, now, -, rfl⟩ := told
  obtain ⟨isOpen, rfl⟩ := atomicObservationV2_eq_ok isObserved
  refine ⟨rfl, identity.symm, incarnation.symm, isIn, allowed, ⟨sealed, ?_, sameKey, sameGeneration, isSource⟩, slot, found,
    isOpen, rfl⟩
  rw [SealedRouteBindingV4.sealName, slotAt_of_some found]
  exact isSealed

theorem recoverRoutedClaimedStateV4_eq_ok {authorization : RuntimeSelectedCurrentRoutedClaimedV4}
    {claimed : RoutedClaimedSealedV4} (told : recoverRoutedClaimedStateV4 registry authorization state = .ok claimed) :
    ClaimedAt claimed.binding.sourceRoute claimed.binding.currentRoute claimed.claimFence ∧
      state.Names claimed.binding.sealName ∧ state.Shows claimed.binding.key claimed.binding.slotObservation := by
  simp only [recoverRoutedClaimedStateV4, bind_eq_ok, rejectIf_eq_ok, ne_eq, Decidable.not_not, pure_eq_ok] at told
  obtain ⟨_, next, binding, recovered, rfl⟩ := told
  obtain ⟨isSource, identity, incarnation, isIn, fence, names, shows⟩ := recoverSealedRouteBindingV4_eq_ok recovered
  refine ⟨?_, names, shows⟩
  rw [isSource]
  exact ⟨identity, incarnation, rfl, isIn, next, by simpa [workerRouteWitness] using fence⟩

variable {authorization : RuntimeSelectedCurrentRefencedV4}

theorem recoverDurableRefenceStateV4_eq_ok {locally : LocallyRefencedSealedV4} {durably : DurablyRefencedSealedV4}
    (told : recoverDurableRefenceStateV4 registry authorization state = .ok (locally, durably)) :
    Refenced durably.binding.sourceRoute durably.binding.currentRoute .serving ∧ state.Names durably.binding.sealName ∧
      state.Shows durably.binding.key durably.binding.slotObservation := by
  simp only [recoverDurableRefenceStateV4, bind_eq_ok, orReject_eq_ok, pure_eq_ok, Prod.mk.injEq] at told
  obtain ⟨binding, recovered, _, -, _, -, _, -, -, rfl⟩ := told
  obtain ⟨isSource, identity, incarnation, isIn, fence, names, shows⟩ := recoverSealedRouteBindingV4_eq_ok recovered
  refine ⟨?_, names, shows⟩
  rw [isSource]
  rw [mem_singleton] at fence
  exact ⟨identity, incarnation, rfl, isIn, by rw [fence]; exact authorization.lineage⟩

theorem AbsentRoute.shows {binding : AbsentRouteBindingV4} {slot : SlotCell} (absent : AbsentRoute state binding slot) :
    state.Shows binding.key binding.slotObservation :=
  ⟨slot, absent.found, absent.isOpen, absent.observed⟩

theorem recoverRouteAbsentStateV4_eq_ok {absent : RouteAbsentSealedV4}
    (told : recoverRouteAbsentStateV4 registry authorization state = .ok absent) :
    Refenced absent.binding.sourceRoute absent.binding.removedRoute .draining ∧ state.Names absent.binding.sealName ∧
      state.Shows absent.binding.key absent.binding.slotObservation := by
  simp only [recoverRouteAbsentStateV4, bind_eq_ok, orReject_eq_ok, rejectIf_eq_ok, ne_eq, not_or, Decidable.not_not,
    pure_eq_ok] at told
  obtain ⟨sealKey, -, _, -, slot, found, _, -, _, -, total, -, _, -, sealed, isSealed, _, ⟨sameKey, -, isSource, -, -⟩, _, -,
    observation, -, now, -, _, valid, rfl⟩ := told
  obtain ⟨_, isAbsent⟩ := validateAbsentRoute_eq_ok valid
  refine ⟨⟨authorization.sameIdentity, authorization.sameIncarnation, rfl, rfl, authorization.lineage⟩,
    ⟨sealed, ?_, sameKey, rfl, isSource⟩, isAbsent.shows⟩
  rw [AbsentRouteBindingV4.sealName, slotAt_of_some found]
  exact isSealed

variable {claim : SlotDrainClaimSealV2}

theorem checkpointLocallyRefencedSealV4_eq_ok {source : LocallyRefencedSealedV4}
    (told : checkpointLocallyRefencedSealV4 registry source state = .ok claim) :
    source.binding.registry = registry.lifetime ∧ claim.sealName = source.binding.sealName ∧
      ∃ slot current, SealedRoute state source.binding .serving slot current ∧
        slot.observed = source.binding.slotObservation := by
  simp only [checkpointLocallyRefencedSealV4, bind_eq_ok, pure_eq_ok] at told
  obtain ⟨_, isOurs, _, -, _, valid, rfl⟩ := told
  obtain ⟨slot, current, route, observed, -⟩ := validateSealedRoute_eq_ok valid
  exact ⟨ensureRegistryBinding_eq_ok isOurs, rfl, slot, current, route, observed⟩

theorem checkpointRouteAbsentSealV4_eq_ok {source : RouteAbsentSealedV4}
    (told : checkpointRouteAbsentSealV4 registry source state = .ok claim) :
    source.binding.registry = registry.lifetime ∧ claim.sealName = source.binding.sealName ∧
      ∃ slot, AbsentRoute state source.binding slot := by
  simp only [checkpointRouteAbsentSealV4, bind_eq_ok, pure_eq_ok] at told
  obtain ⟨_, isOurs, _, -, _, valid, rfl⟩ := told
  exact ⟨ensureRegistryBinding_eq_ok isOurs, rfl, validateAbsentRoute_eq_ok valid⟩

theorem validateRefencePairAs_eq_ok {lifecycle : SlotLifecycleV1} {source target : SlotRouteWitnessV1} {value : Unit}
    (passed : validateRefencePairAs lifecycle source target = .ok value) : Refenced source target lifecycle := by
  simp only [validateRefencePairAs, bind_eq_ok, rejectIf_eq_ok, ne_eq, not_or, Decidable.not_not] at passed
  obtain ⟨_, ⟨identity, incarnation⟩, _, ⟨serving, isIn⟩, next⟩ := passed
  exact ⟨identity, incarnation, serving, isIn, next⟩

theorem reconstructSealedRouteBinding_eq_ok {sourceRoute currentRoute : SlotRouteWitnessV1}
    (told : reconstructSealedRouteBinding registry state claim intentId sourceRoute currentRoute = .ok binding) :
    binding.sourceRoute = sourceRoute ∧ binding.currentRoute = currentRoute ∧ state.Names binding.sealName ∧
      state.Shows binding.key binding.slotObservation := by
  simp only [reconstructSealedRouteBinding, bind_eq_ok, orReject_eq_ok, rejectIf_eq_ok, Decidable.not_not, pure_eq_ok] at told
  obtain ⟨slot, found, _, -, _, -, sealed, isSealed, _, ⟨sameKey, sameGeneration, -, isSource⟩, observation, isObserved, now, -,
    total, -, rfl⟩ := told
  obtain ⟨isOpen, rfl⟩ := atomicObservationV2_eq_ok isObserved
  refine ⟨rfl, rfl, ⟨sealed, ?_, sameKey, sameGeneration, isSource⟩, slot, found, isOpen, rfl⟩
  rw [SealedRouteBindingV4.sealName, slotAt_of_some found]
  exact isSealed

theorem resumeRefencedBinding_eq_ok {removalTarget : SlotRouteWitnessV1}
    (told : resumeRefencedBinding registry claim intentId removalTarget state = .ok binding) :
    Refenced binding.sourceRoute binding.currentRoute .serving ∧ state.Names binding.sealName ∧
      state.Shows binding.key binding.slotObservation := by
  simp only [resumeRefencedBinding, bind_eq_ok, orReject_eq_ok, pure_eq_ok] at told
  obtain ⟨_, -, sourceRoute, -, _, isPair, _, -, binding, reconstructed, _, -, rfl⟩ := told
  obtain ⟨isSource, isCurrent, names, shows⟩ := reconstructSealedRouteBinding_eq_ok reconstructed
  rw [isSource, isCurrent]
  exact ⟨validateRefencePairAs_eq_ok isPair, names, shows⟩

theorem resumeLocallyRefencedSealedV4_eq_ok {authorization : RuntimeSelectedCurrentRoutedClaimedV4}
    {refenced : LocallyRefencedSealedV4}
    (told : resumeLocallyRefencedSealedV4 registry claim authorization state = .ok refenced) :
    Refenced refenced.binding.sourceRoute refenced.binding.currentRoute .serving ∧ state.Names refenced.binding.sealName ∧
      state.Shows refenced.binding.key refenced.binding.slotObservation := by
  simp only [resumeLocallyRefencedSealedV4, bind_eq_ok, orReject_eq_ok, pure_eq_ok] at told
  obtain ⟨_, -, _, -, _, -, _, -, binding, resumed, rfl⟩ := told
  exact resumeRefencedBinding_eq_ok resumed

theorem resumeDurablyRefencedSealedV4_eq_ok {refenced : DurablyRefencedSealedV4}
    (told : resumeDurablyRefencedSealedV4 registry claim authorization state = .ok refenced) :
    Refenced refenced.binding.sourceRoute refenced.binding.currentRoute .serving ∧ state.Names refenced.binding.sealName ∧
      state.Shows refenced.binding.key refenced.binding.slotObservation := by
  simp only [resumeDurablyRefencedSealedV4, bind_eq_ok, pure_eq_ok] at told
  obtain ⟨_, -, binding, resumed, rfl⟩ := told
  exact resumeRefencedBinding_eq_ok resumed

/-- The claim of a removed route is not compared with the slot, except that the seal is still there. -/
theorem resumeRouteAbsentSealedV4_eq_ok {absent : RouteAbsentSealedV4}
    (told : resumeRouteAbsentSealedV4 registry claim authorization state = .ok absent) :
    claim.registry = registry.lifetime ∧ Refenced absent.binding.sourceRoute absent.binding.removedRoute .draining ∧
      claim.sealName = absent.binding.sealName ∧ state.Shows absent.binding.key absent.binding.slotObservation := by
  simp only [resumeRouteAbsentSealedV4, bind_eq_ok, orReject_eq_ok, pure_eq_ok] at told
  obtain ⟨_, -, _, isOurs, sourceRoute, isSource, _, isPair, _, -, slot, -, _, -, _, -, _, -, _, -, _, -, _, -, observation, -,
    now, -, _, valid, rfl⟩ := told
  obtain ⟨_, isAbsent⟩ := validateAbsentRoute_eq_ok valid
  refine ⟨ensureRegistryBinding_eq_ok isOurs, validateRefencePairAs_eq_ok isPair, ?_, isAbsent.shows⟩
  rw [SlotDrainClaimSealV2.sealName, isSource, AbsentRouteBindingV4.sealName]

theorem emptyCursor_eq_ok (sound : state.Sound registry) {cursor : RegistryEmptyRecoveryCursorV2}
    (told : emptyCursor registry state = .ok cursor) : state.observation.sequence = cursor.expectedSequence := by
  simp only [emptyCursor, bind_eq_ok, sound.recovered, Except.ok.injEq, pure_eq_ok] at told
  obtain ⟨_, rfl, _, -, rfl⟩ := told
  rfl

end Queries

section Grants
variable {registry : RegistryInner} {before : RegistrySystem} {state : RegistryState}

variable {capability : Capability}

theorem RegistrySystem.Holds.mem {capabilities : List Capability} (holds : before.Holds registry capabilities)
    (used : capability ∈ capabilities) (own : capability.registry = registry.lifetime) : capability ∈ before.issued :=
  holds capability used own

theorem Made.shows {key : ServingSlotKeyV1} {edit : SlotEdit} {last : RegistryState} (made : Made registry state key edit last) :
    last.Shows key (last.slotAt key).observed :=
  ⟨_, made.changed.present, made.isOpen, rfl⟩

theorem Made.names {key : ServingSlotKeyV1} {sealed : SlotSealState} {last : RegistryState}
    (made : Made registry state key (.close sealed) last) :
    last.Names ⟨key, sealed.sealKey, sealed.sealGeneration, sealed.route⟩ :=
  ⟨sealed, made.sealState, rfl, rfl, made.changed.edited.of_close.2.2.1⟩

theorem Granted.of_source {issued : List Capability} {source : Capability} (mem : source ∈ issued)
    (own : source.registry = registry.lifetime) (genuine : capability.Genuine)
    (sameSeal : capability.sealName = source.sealName)
    (observed : capability.slotObservation.elim True (fun shown => state.Shows shown.1 shown.2) ∨
      capability.slotObservation = source.slotObservation) (uncounted : capability.registrySequence = none)
    (notIdle : capability.idleSlot = none) : Granted registry issued state capability where
  genuine := genuine
  sealed name isName := .inr ⟨source, mem, own, sameSeal ▸ isName⟩
  observed key observation isObserved := by
    rw [isObserved] at observed
    exact observed.imp_right fun inherited => ⟨source, mem, own, inherited.symm⟩
  counted sequence isSequence := absurd (uncounted.symm.trans isSequence) nofun
  idle key isIdle := absurd (notIdle.symm.trans isIdle) nofun

theorem Granted.of_state {issued : List Capability} (genuine : capability.Genuine)
    (names : capability.sealName.elim True state.Names)
    (shows : capability.slotObservation.elim True fun shown => state.Shows shown.1 shown.2)
    (counted : capability.registrySequence.elim True fun sequence => state.observation.sequence = sequence)
    (notIdle : capability.idleSlot = none) : Granted registry issued state capability where
  genuine := genuine
  sealed name isName := .inl (by rwa [isName] at names)
  observed key observation isObserved := .inl (by rwa [isObserved] at shows)
  counted sequence isSequence := by rwa [isSequence] at counted
  idle key isIdle := absurd (notIdle.symm.trans isIdle) nofun

theorem ClaimedAt.refenced {source current : SlotRouteWitnessV1} {claimFence : FencingToken} {record : RouteRecord}
    (claimed : ClaimedAt source current claimFence) (witness : routeWitnessV1 record = current) :
    Refenced source (routeWitnessV1 (record.refenced claimFence)) .serving := by
  subst witness
  exact ⟨claimed.identity, claimed.incarnation, claimed.serving, claimed.isIn, claimed.next⟩

theorem Refenced.drained {source current : SlotRouteWitnessV1} {lifecycle : SlotLifecycleV1} {record : RouteRecord}
    (refenced : Refenced source current lifecycle) (witness : routeWitnessV1 record = current) :
    Refenced source (routeWitnessV1 record.drained) .draining := by
  subst witness
  exact ⟨refenced.identity, refenced.incarnation, refenced.serving, rfl, refenced.next⟩

variable (sound : before.state.Sound registry)
  (genuine : ∀ capability ∈ before.issued, capability.registry = registry.lifetime → capability.Genuine)
include sound genuine

theorem Command.granted {command : Command} {answer : command.Answer} (holds : before.Holds registry command.uses)
    (called : command.perform registry before.state = (.ok answer, state)) :
    ∀ capability ∈ command.grants answer, capability.registry = registry.lifetime →
      Granted registry before.issued state capability := by
  intro capability mem own
  cases command with
  | install | activate | activateWithSequenceV2 | beginDrain | beginDrainWithAuthority | remove | removeWithAuthority
  | advanceAuthority | admitInteraction | admitAtGenerationV2 | unsealDrainClaimV2 | consumeRouteAbsentWithDigestV4
  | consumeEmptySuccessionWithDigestV4 => cases mem
  | sealDrainClaimV2 key sealKey expected =>
    obtain ⟨-, sealed, made, rfl, isClaim, -⟩ := sealDrainClaimV2_settles.of_ok called
    obtain rfl : capability = .claim answer.1 := mem_singleton.mp mem
    refine .of_state trivial ?_ trivial trivial rfl
    rw [Capability.sealName, isClaim]
    exact made.names
  | sealEmptyRecoveryDrainClaimV2 cursor key sealKey =>
    obtain ⟨-, -, sealed, made, rfl, noRoute, isClaim, isObserved, isRecovered⟩ :=
      (sealEmptyRecoveryDrainClaimV2_settles sound).of_ok called
    obtain rfl : capability = .sealedEmpty answer := mem_singleton.mp mem
    cases answer
    cases isClaim
    cases isObserved
    cases isRecovered
    exact .of_state trivial (noRoute ▸ made.names) made.shows rfl rfl
  | unsealEmptyRecoveryDrainClaimV2 sealed =>
    obtain ⟨-, -, -, -, -, isCursor⟩ := (unsealEmptyRecoveryDrainClaimV2_settles sound).of_ok called
    obtain rfl : capability = .cursor answer.cursor := mem_singleton.mp mem
    exact .of_state trivial trivial trivial (congrArg RegistryEmptyRecoveryCursorV2.expectedSequence isCursor).symm rfl
  | sealRoutedWithIntentV4 source intentId =>
    obtain ⟨sealed, current, made, only, serving, -, -, isRoute, -, isBinding⟩ :=
      (sealRoutedWithIntentV4_settles sound).of_ok called
    obtain rfl : capability = .routedSealed answer := mem_singleton.mp mem
    have content := made.changed.edited.of_close.2.2.2
    cases answer
    cases isBinding
    refine ⟨⟨rfl, serving⟩, fun name isName => .inl ?_, fun key observation isShown => .inl ?_, nofun, fun other isOther => ?_⟩
    · cases isName
      rw [SealedRouteBindingV4.sealName, ← isRoute]
      exact made.names
    · cases isShown
      exact made.shows
    · cases isOther
      refine ⟨⟨current, content ▸ only⟩, by rw [made.sealState]; rfl, fun observation isShown => ?_⟩
      cases isShown
      exact made.shows
  | rollbackRoutedSealStateV4 source =>
    obtain ⟨made, -, -, isObserved, isKey⟩ := (rollbackRoutedSealStateV4_settles sound).of_ok called
    obtain rfl : capability = .routedObserved answer := mem_singleton.mp mem
    refine .of_state trivial trivial ?_ trivial rfl
    change state.Shows answer.binding.key answer.binding.slotObservation
    rw [isObserved, isKey]
    exact made.shows
  | refenceRoutedClaimStateV4 source provenance refencedAt =>
    obtain ⟨isOurs, slot, current, route, -, made, isBinding⟩ := (refenceRoutedClaimStateV4_settles sound).of_ok called
    obtain rfl : capability = .locallyRefenced answer := mem_singleton.mp mem
    have held := holds.mem mem_cons_self isOurs
    cases answer
    cases isBinding
    exact .of_source held isOurs ((genuine _ held isOurs).refenced route.witness) rfl (.inl made.shows) rfl rfl
  | beginDrainRefencedStateV4 source =>
    obtain ⟨isOurs, slot, current, route, -, made, isBinding⟩ := (beginDrainRefencedStateV4_settles sound).of_ok called
    obtain rfl : capability = .drainingRefenced answer := mem_singleton.mp mem
    have held := holds.mem mem_cons_self isOurs
    cases answer
    cases isBinding
    exact .of_source held isOurs ((genuine _ held isOurs).drained route.witness) rfl (.inl made.shows) rfl rfl
  | removeDrainingRefencedStateV4 source observation =>
    obtain ⟨slot, current, route, -, -, made, isBinding⟩ := (removeDrainingRefencedStateV4_settles sound).of_ok called
    obtain rfl : capability = .routeAbsent answer := mem_singleton.mp mem
    cases answer
    cases isBinding
    have held := holds.mem mem_cons_self own
    exact .of_source held own (genuine (.drainingRefenced source) held own) rfl (.inl made.shows) rfl rfl
  | sealEmptySuccessionV4 cursor key intentId predecessorRoute successorIdentity successorFence =>
    obtain ⟨-, -, sealed, made, noRoute, isClaim, isObserved, isRecovered⟩ := (sealEmptySuccessionV4_settles sound).of_ok called
    obtain rfl : capability = .emptySuccession answer := mem_singleton.mp mem
    obtain ⟨⟨_, _, _⟩, _⟩ := answer
    cases isClaim
    cases isObserved
    cases isRecovered
    exact .of_state trivial (noRoute ▸ made.names) made.shows rfl rfl

theorem Query.granted {query : Query} {answer : query.Answer} (holds : before.Holds registry query.uses)
    (told : query.ask registry before.state = .ok answer) :
    ∀ capability ∈ query.grants answer, Granted registry before.issued before.state capability := by
  intro capability mem
  cases query with
  | observeDrain | servingSnapshot | routeStatus | routeWitness | atomicObservationV2 | recoveryObservationV2
  | revalidateEmptyRecoveryCursorV2 | observeRoutedSealedV4 | observeDrainingRefencedV4 => cases mem
  | emptyCursor =>
    obtain rfl : capability = .cursor answer := mem_singleton.mp mem
    exact .of_state trivial trivial trivial (emptyCursor_eq_ok sound told) rfl
  | observeRoutedV4 token =>
    obtain rfl : capability = .routedObserved answer := mem_singleton.mp mem
    exact .of_state trivial trivial (observeRoutedV4_eq_ok told) trivial rfl
  | bindRoutedClaimWithDigestV4 source claimFence digest =>
    obtain ⟨isOurs, next, slot, current, route, -, isBinding⟩ := bindRoutedClaimWithDigestV4_eq_ok sound told
    obtain rfl : capability = .routedClaimed answer := mem_singleton.mp mem
    have held := holds.mem mem_cons_self isOurs
    obtain ⟨sameRoute, serving⟩ := genuine _ held isOurs
    cases answer
    cases isBinding
    refine .of_source held isOurs ?_ rfl (.inl ⟨slot, route.found, route.isOpen, rfl⟩) rfl rfl
    change ClaimedAt source.binding.sourceRoute source.binding.currentRoute _
    rw [sameRoute]
    exact ⟨rfl, rfl, serving, serving, next, .inl rfl⟩
  | bindDurableRefenceWithDigestV4 source digest =>
    obtain ⟨isOurs, isBinding, -⟩ := bindDurableRefenceWithDigestV4_eq_ok told
    obtain rfl : capability = .durablyRefenced answer := mem_singleton.mp mem
    have held := holds.mem mem_cons_self isOurs
    cases answer
    cases isBinding
    exact .of_source held isOurs (genuine (.locallyRefenced source) held isOurs) rfl (.inr rfl) rfl rfl
  | recoverRoutedClaimedStateV4 authorization =>
    obtain ⟨claimed, names, shows⟩ := recoverRoutedClaimedStateV4_eq_ok told
    obtain rfl : capability = .routedClaimed answer := mem_singleton.mp mem
    exact .of_state claimed names shows trivial rfl
  | recoverDurableRefenceStateV4 authorization =>
    obtain ⟨refenced, names, shows⟩ := recoverDurableRefenceStateV4_eq_ok told
    obtain rfl : capability = .durablyRefenced answer.2 := mem_singleton.mp mem
    exact .of_state refenced names shows trivial rfl
  | recoverRouteAbsentStateV4 authorization =>
    obtain ⟨refenced, names, shows⟩ := recoverRouteAbsentStateV4_eq_ok told
    obtain rfl : capability = .routeAbsent answer := mem_singleton.mp mem
    exact .of_state refenced names shows trivial rfl
  | checkpointLocallyRefencedSealV4 source =>
    obtain ⟨isOurs, sameSeal, -⟩ := checkpointLocallyRefencedSealV4_eq_ok told
    obtain rfl : capability = .claim answer := mem_singleton.mp mem
    exact .of_source (holds.mem mem_cons_self isOurs) isOurs trivial (congrArg some sameSeal) (.inl trivial) rfl rfl
  | resumeLocallyRefencedSealedV4 claim authorization =>
    obtain ⟨refenced, names, shows⟩ := resumeLocallyRefencedSealedV4_eq_ok told
    obtain rfl : capability = .locallyRefenced answer := mem_singleton.mp mem
    exact .of_state refenced names shows trivial rfl
  | resumeDurablyRefencedSealedV4 claim authorization =>
    obtain ⟨refenced, names, shows⟩ := resumeDurablyRefencedSealedV4_eq_ok told
    obtain rfl : capability = .durablyRefenced answer := mem_singleton.mp mem
    exact .of_state refenced names shows trivial rfl
  | checkpointRouteAbsentSealV4 source =>
    obtain ⟨isOurs, sameSeal, -⟩ := checkpointRouteAbsentSealV4_eq_ok told
    obtain rfl : capability = .claim answer := mem_singleton.mp mem
    exact .of_source (holds.mem mem_cons_self isOurs) isOurs trivial (congrArg some sameSeal) (.inl trivial) rfl rfl
  | resumeRouteAbsentSealedV4 claim authorization =>
    obtain ⟨isOurs, refenced, sameSeal, shows⟩ := resumeRouteAbsentSealedV4_eq_ok told
    obtain rfl : capability = .routeAbsent answer := mem_singleton.mp mem
    exact .of_source (holds.mem mem_cons_self isOurs) isOurs refenced (congrArg some sameSeal.symm) (.inl shows) rfl rfl

end Grants

namespace RegistrySystem
variable {registry : RegistryInner} {before after : RegistrySystem} {call : Call}

def AllGenuine (registry : RegistryInner) (self : RegistrySystem) : Prop :=
  ∀ capability ∈ self.issued, capability.registry = registry.lifetime → capability.Genuine

theorem Step.granted (step : Step registry before call after) (sound : before.state.Sound registry)
    (genuine : before.AllGenuine registry) {capability : Capability} (mem : capability ∈ after.issued)
    (own : capability.registry = registry.lifetime) :
    capability ∈ before.issued ∨ Granted registry before.issued after.state capability := by
  cases step with
  | refused | failed | dropped => exact .inl mem
  | done command answer state holds called =>
    exact (mem_append.mp mem).imp_right fun mem => command.granted sound genuine holds called capability mem own
  | asked query answer holds told =>
    exact (mem_append.mp mem).imp_right fun mem => query.granted sound genuine holds told capability mem

theorem Step.allGenuine (step : Step registry before call after) (sound : before.state.Sound registry)
    (genuine : before.AllGenuine registry) : after.AllGenuine registry := by
  intro capability mem own
  obtain old | granted := step.granted sound genuine mem own
  · exact genuine capability old own
  · exact granted.genuine

theorem allGenuine_after (registry : RegistryInner) (calls : List Call) :
    (RegistrySystem.after registry calls).AllGenuine registry :=
  (invariant_after (fun _ mem => nomatch mem) (fun _ _ _ step sound genuine => step.allGenuine sound genuine) calls).2

end RegistrySystem

end Starring.Registry
