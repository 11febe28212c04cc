import Starring.Foundation.Runs
import Starring.Registry.DrainChanges

/-! Runs of a registry. Its operations are called in any order, and the guards of admitted interactions are dropped at any
moment. Tokens are plain data here and may be anything; the capabilities of a registry are only those that it has given
out, but they may be kept and used more than once, and those of other registries may be anything. -/

namespace Starring.Registry
open Foundation Convergence

inductive Capability where
  | cursor (capability : RegistryEmptyRecoveryCursorV2)
  | claim (capability : SlotDrainClaimSealV2)
  | sealedEmpty (sealed : SealedEmptyRecoveryDrainClaimV2)
  | routedObserved (observed : RoutedObservedV4)
  | routedSealed (sealed : RoutedSealedV4)
  | routedClaimed (claimed : RoutedClaimedSealedV4)
  | locallyRefenced (refenced : LocallyRefencedSealedV4)
  | durablyRefenced (refenced : DurablyRefencedSealedV4)
  | drainingRefenced (draining : DrainingRefencedSealedV4)
  | routeAbsent (absent : RouteAbsentSealedV4)
  | emptySuccession (succession : EmptySuccessionSealedV4)
  deriving DecidableEq

def Capability.registry : Capability → NonZeroU64
  | .cursor capability => capability.registry
  | .claim capability => capability.registry
  | .sealedEmpty sealed => sealed.claim.registry
  | .routedObserved observed => observed.binding.registry
  | .routedSealed sealed => sealed.binding.registry
  | .routedClaimed claimed => claimed.binding.registry
  | .locallyRefenced refenced => refenced.binding.registry
  | .durablyRefenced refenced => refenced.binding.registry
  | .drainingRefenced draining => draining.binding.registry
  | .routeAbsent absent => absent.binding.registry
  | .emptySuccession succession => succession.sealedClaim.claim.registry

/-- The operations that may change the registry. -/
inductive Command where
  | install (key : ServingSlotKeyV1) (route : ExactServingRouteV1) (fencingToken : FencingToken)
  | activate (token : SlotMutationTokenV1) (expectedIdentity : RuntimeProcessIdentityV1)
  | activateWithSequenceV2 (token : SlotMutationTokenV1) (expectedIdentity : RuntimeProcessIdentityV1)
  | beginDrain (token : SlotMutationTokenV1)
  | beginDrainWithAuthority (authority target : SlotMutationTokenV1)
  | remove (token : SlotMutationTokenV1)
  | removeWithAuthority (authority target : SlotMutationTokenV1)
  | advanceAuthority (token : SlotMutationTokenV1) (expectedIdentity : RuntimeProcessIdentityV1)
    (nextFencingToken : FencingToken)
  | admitInteraction (key : ServingSlotKeyV1)
  | admitAtGenerationV2 (key : ServingSlotKeyV1) (expectedAdmissionGeneration : NonZeroU64)
  | sealDrainClaimV2 (key : ServingSlotKeyV1) (sealKey : SlotSealKeyV2) (expected : Option SlotAtomicObservationV2)
  | sealEmptyRecoveryDrainClaimV2 (cursor : RegistryEmptyRecoveryCursorV2) (key : ServingSlotKeyV1) (sealKey : SlotSealKeyV2)
  | unsealDrainClaimV2 (capability : SlotDrainClaimSealV2)
  | unsealEmptyRecoveryDrainClaimV2 (capability : SealedEmptyRecoveryDrainClaimV2)
  | sealRoutedWithIntentV4 (source : RoutedObservedV4) (intentId : RuntimeDrainIntentIdV2)
  | rollbackRoutedSealStateV4 (source : RoutedSealedV4)
  | refenceRoutedClaimStateV4 (source : RoutedClaimedSealedV4) (provenance : RuntimeRouteMutationProvenanceV2)
    (refencedAt : DateTime)
  | beginDrainRefencedStateV4 (source : DurablyRefencedSealedV4)
  | removeDrainingRefencedStateV4 (source : DrainingRefencedSealedV4) (observation : DrainingRefencedObservationV4)
  | consumeRouteAbsentWithDigestV4 (source : RouteAbsentSealedV4) (digest : RegistryDurableReceiptDigestV4)
  | sealEmptySuccessionV4 (cursor : RegistryEmptyRecoveryCursorV2) (key : ServingSlotKeyV1)
    (intentId : RuntimeDrainIntentIdV2) (predecessorRoute : PreviousRouteEnvelopeV4)
    (successorIdentity : RuntimeProcessIdentityV1) (successorFence : FencingToken)
  | consumeEmptySuccessionWithDigestV4 (source : EmptySuccessionSealedV4) (digest : RegistryDurableReceiptDigestV4)

inductive Query where
  | observeDrain (token : SlotMutationTokenV1)
  | servingSnapshot (key : ServingSlotKeyV1)
  | routeStatus (token : SlotMutationTokenV1)
  | routeWitness (token : SlotMutationTokenV1)
  | atomicObservationV2 (key : ServingSlotKeyV1)
  | recoveryObservationV2
  | emptyCursor
  | revalidateEmptyRecoveryCursorV2 (cursor : RegistryEmptyRecoveryCursorV2)
  | observeRoutedV4 (token : SlotMutationTokenV1)
  | observeRoutedSealedV4 (source : RoutedSealedV4)
  | bindRoutedClaimWithDigestV4 (source : RoutedSealedV4) (claimFence : FencingToken)
    (digest : RegistryDurableReceiptDigestV4)
  | bindDurableRefenceWithDigestV4 (source : LocallyRefencedSealedV4) (digest : RegistryDurableReceiptDigestV4)
  | observeDrainingRefencedV4 (source : DrainingRefencedSealedV4)
  | recoverRoutedClaimedStateV4 (authorization : RuntimeSelectedCurrentRoutedClaimedV4)
  | recoverDurableRefenceStateV4 (authorization : RuntimeSelectedCurrentRefencedV4)
  | recoverRouteAbsentStateV4 (authorization : RuntimeSelectedCurrentRefencedV4)
  | checkpointLocallyRefencedSealV4 (source : LocallyRefencedSealedV4)
  | resumeLocallyRefencedSealedV4 (claim : SlotDrainClaimSealV2) (authorization : RuntimeSelectedCurrentRoutedClaimedV4)
  | resumeDurablyRefencedSealedV4 (claim : SlotDrainClaimSealV2) (authorization : RuntimeSelectedCurrentRefencedV4)
  | checkpointRouteAbsentSealV4 (source : RouteAbsentSealedV4)
  | resumeRouteAbsentSealedV4 (claim : SlotDrainClaimSealV2) (authorization : RuntimeSelectedCurrentRefencedV4)

namespace Command

def Answer : Command → Type
  | .install .. => SlotInstallReceiptV1
  | .activate .. => SlotActivationOutcomeV1
  | .activateWithSequenceV2 .. => SlotActivationRecordV2
  | .beginDrain .. | .beginDrainWithAuthority .. => SlotDrainOutcomeV1
  | .remove .. | .removeWithAuthority .. => SlotRemovalOutcomeV1
  | .advanceAuthority .. => SlotMutationTokenV1
  | .admitInteraction .. | .admitAtGenerationV2 .. => AdmittedInteractionPartsV2
  | .sealDrainClaimV2 .. => SlotDrainClaimSealV2 × SlotAtomicObservationV2
  | .sealEmptyRecoveryDrainClaimV2 .. => SealedEmptyRecoveryDrainClaimV2
  | .unsealDrainClaimV2 .. => SlotAtomicObservationV2
  | .unsealEmptyRecoveryDrainClaimV2 .. => UnsealedEmptyRecoveryDrainClaimV2
  | .sealRoutedWithIntentV4 .. => RoutedSealedV4
  | .rollbackRoutedSealStateV4 .. => RoutedObservedV4
  | .refenceRoutedClaimStateV4 .. => LocallyRefencedSealedV4
  | .beginDrainRefencedStateV4 .. => DrainingRefencedSealedV4
  | .removeDrainingRefencedStateV4 .. => RouteAbsentSealedV4
  | .consumeRouteAbsentWithDigestV4 .. | .consumeEmptySuccessionWithDigestV4 .. => AcknowledgedEmptyV4
  | .sealEmptySuccessionV4 .. => EmptySuccessionSealedV4

def perform (registry : RegistryInner) : (command : Command) → OnRegistry command.Answer
  | .install key route fencingToken => Registry.install registry key route fencingToken
  | .activate token identity => Registry.activate registry token identity
  | .activateWithSequenceV2 token identity => Registry.activateWithSequenceV2 registry token identity
  | .beginDrain token => Registry.beginDrain registry token
  | .beginDrainWithAuthority authority target => Registry.beginDrainWithAuthority registry authority target
  | .remove token => Registry.remove registry token
  | .removeWithAuthority authority target => Registry.removeWithAuthority registry authority target
  | .advanceAuthority token identity next => Registry.advanceAuthority registry token identity next
  | .admitInteraction key => Registry.admitInteraction registry key
  | .admitAtGenerationV2 key generation => Registry.admitAtGenerationV2 registry key generation
  | .sealDrainClaimV2 key sealKey expected => Registry.sealDrainClaimV2 registry key sealKey expected
  | .sealEmptyRecoveryDrainClaimV2 cursor key sealKey => Registry.sealEmptyRecoveryDrainClaimV2 registry cursor key sealKey
  | .unsealDrainClaimV2 capability => Registry.unsealDrainClaimV2 registry capability
  | .unsealEmptyRecoveryDrainClaimV2 capability => Registry.unsealEmptyRecoveryDrainClaimV2 registry capability
  | .sealRoutedWithIntentV4 source intentId => Registry.sealRoutedWithIntentV4 registry source intentId
  | .rollbackRoutedSealStateV4 source => Registry.rollbackRoutedSealStateV4 registry source
  | .refenceRoutedClaimStateV4 source provenance refencedAt =>
    Registry.refenceRoutedClaimStateV4 registry source provenance refencedAt
  | .beginDrainRefencedStateV4 source => Registry.beginDrainRefencedStateV4 registry source
  | .removeDrainingRefencedStateV4 source observation =>
    Registry.removeDrainingRefencedStateV4 registry source observation
  | .consumeRouteAbsentWithDigestV4 source digest => Registry.consumeRouteAbsentWithDigestV4 registry source digest
  | .sealEmptySuccessionV4 cursor key intentId predecessorRoute successorIdentity successorFence =>
    Registry.sealEmptySuccessionV4 registry cursor key intentId predecessorRoute successorIdentity successorFence
  | .consumeEmptySuccessionWithDigestV4 source digest => Registry.consumeEmptySuccessionWithDigestV4 registry source digest

/-- The capabilities that a command is called with. -/
def uses : Command → List Capability
  | .sealEmptyRecoveryDrainClaimV2 cursor _ _ => [.cursor cursor]
  | .unsealDrainClaimV2 capability => [.claim capability]
  | .unsealEmptyRecoveryDrainClaimV2 capability => [.sealedEmpty capability]
  | .sealRoutedWithIntentV4 source _ => [.routedObserved source]
  | .rollbackRoutedSealStateV4 source => [.routedSealed source]
  | .refenceRoutedClaimStateV4 source _ _ => [.routedClaimed source]
  | .beginDrainRefencedStateV4 source => [.durablyRefenced source]
  | .removeDrainingRefencedStateV4 source _ => [.drainingRefenced source]
  | .consumeRouteAbsentWithDigestV4 source _ => [.routeAbsent source]
  | .sealEmptySuccessionV4 cursor _ _ _ _ _ => [.cursor cursor]
  | .consumeEmptySuccessionWithDigestV4 source _ => [.emptySuccession source]
  | _ => []

def grants : (command : Command) → command.Answer → List Capability
  | .sealDrainClaimV2 .., answer => [.claim answer.1]
  | .sealEmptyRecoveryDrainClaimV2 .., answer => [.sealedEmpty answer]
  | .unsealEmptyRecoveryDrainClaimV2 .., answer => [.cursor answer.cursor]
  | .sealRoutedWithIntentV4 .., answer => [.routedSealed answer]
  | .rollbackRoutedSealStateV4 .., answer => [.routedObserved answer]
  | .refenceRoutedClaimStateV4 .., answer => [.locallyRefenced answer]
  | .beginDrainRefencedStateV4 .., answer => [.drainingRefenced answer]
  | .removeDrainingRefencedStateV4 .., answer => [.routeAbsent answer]
  | .sealEmptySuccessionV4 .., answer => [.emptySuccession answer]
  | _, _ => []

def guards : (command : Command) → command.Answer → List ActiveInteractionGuardV1
  | .admitInteraction .., answer => [answer.guard]
  | .admitAtGenerationV2 .., answer => [answer.guard]
  | _, _ => []

end Command

namespace Query

def Answer : Query → Type
  | .observeDrain .. => SlotDrainObservationV1
  | .servingSnapshot .. => Option SlotMutationTokenV1
  | .routeStatus .. => SlotRouteStatusV1
  | .routeWitness .. => SlotRouteWitnessV1
  | .atomicObservationV2 .. => Option SlotAtomicObservationV2
  | .recoveryObservationV2 | .revalidateEmptyRecoveryCursorV2 .. => RegistryRecoveryObservationV2
  | .emptyCursor => RegistryEmptyRecoveryCursorV2
  | .observeRoutedV4 .. => RoutedObservedV4
  | .observeRoutedSealedV4 .. => RoutedSealedObservationV4
  | .bindRoutedClaimWithDigestV4 .. | .recoverRoutedClaimedStateV4 .. => RoutedClaimedSealedV4
  | .bindDurableRefenceWithDigestV4 .. | .resumeDurablyRefencedSealedV4 .. => DurablyRefencedSealedV4
  | .observeDrainingRefencedV4 .. => DrainingRefencedObservationV4
  | .recoverDurableRefenceStateV4 .. => LocallyRefencedSealedV4 × DurablyRefencedSealedV4
  | .recoverRouteAbsentStateV4 .. | .resumeRouteAbsentSealedV4 .. => RouteAbsentSealedV4
  | .checkpointLocallyRefencedSealV4 .. | .checkpointRouteAbsentSealV4 .. => SlotDrainClaimSealV2
  | .resumeLocallyRefencedSealedV4 .. => LocallyRefencedSealedV4

def ask (registry : RegistryInner) :
    (query : Query) → RegistryState → Except ServingSlotRegistryError query.Answer
  | .observeDrain token => Registry.observeDrain registry token
  | .servingSnapshot key => Registry.servingSnapshot registry key
  | .routeStatus token => Registry.routeStatus registry token
  | .routeWitness token => Registry.routeWitness registry token
  | .atomicObservationV2 key => Registry.atomicObservationV2At key
  | .recoveryObservationV2 => Registry.registryRecoveryObservationV2
  | .emptyCursor => Registry.emptyCursor registry
  | .revalidateEmptyRecoveryCursorV2 cursor => Registry.revalidateEmptyRecoveryCursorV2 registry cursor
  | .observeRoutedV4 token => Registry.observeRoutedV4 registry token
  | .observeRoutedSealedV4 source => Registry.observeRoutedSealedV4 registry source
  | .bindRoutedClaimWithDigestV4 source claimFence digest =>
    Registry.bindRoutedClaimWithDigestV4 registry source claimFence digest
  | .bindDurableRefenceWithDigestV4 source digest => Registry.bindDurableRefenceWithDigestV4 registry source digest
  | .observeDrainingRefencedV4 source => Registry.observeDrainingRefencedV4 registry source
  | .recoverRoutedClaimedStateV4 authorization => Registry.recoverRoutedClaimedStateV4 registry authorization
  | .recoverDurableRefenceStateV4 authorization => Registry.recoverDurableRefenceStateV4 registry authorization
  | .recoverRouteAbsentStateV4 authorization => Registry.recoverRouteAbsentStateV4 registry authorization
  | .checkpointLocallyRefencedSealV4 source => Registry.checkpointLocallyRefencedSealV4 registry source
  | .resumeLocallyRefencedSealedV4 claim authorization => Registry.resumeLocallyRefencedSealedV4 registry claim authorization
  | .resumeDurablyRefencedSealedV4 claim authorization => Registry.resumeDurablyRefencedSealedV4 registry claim authorization
  | .checkpointRouteAbsentSealV4 source => Registry.checkpointRouteAbsentSealV4 registry source
  | .resumeRouteAbsentSealedV4 claim authorization => Registry.resumeRouteAbsentSealedV4 registry claim authorization

def uses : Query → List Capability
  | .revalidateEmptyRecoveryCursorV2 cursor => [.cursor cursor]
  | .observeRoutedSealedV4 source => [.routedSealed source]
  | .bindRoutedClaimWithDigestV4 source _ _ => [.routedSealed source]
  | .bindDurableRefenceWithDigestV4 source _ => [.locallyRefenced source]
  | .observeDrainingRefencedV4 source => [.drainingRefenced source]
  | .checkpointLocallyRefencedSealV4 source => [.locallyRefenced source]
  | .resumeLocallyRefencedSealedV4 claim _ => [.claim claim]
  | .resumeDurablyRefencedSealedV4 claim _ => [.claim claim]
  | .checkpointRouteAbsentSealV4 source => [.routeAbsent source]
  | .resumeRouteAbsentSealedV4 claim _ => [.claim claim]
  | _ => []

def grants : (query : Query) → query.Answer → List Capability
  | .emptyCursor, answer => [.cursor answer]
  | .observeRoutedV4 .., answer => [.routedObserved answer]
  | .bindRoutedClaimWithDigestV4 .., answer => [.routedClaimed answer]
  | .bindDurableRefenceWithDigestV4 .., answer => [.durablyRefenced answer]
  | .recoverRoutedClaimedStateV4 .., answer => [.routedClaimed answer]
  | .recoverDurableRefenceStateV4 .., answer => [.durablyRefenced answer.2]
  | .recoverRouteAbsentStateV4 .., answer => [.routeAbsent answer]
  | .checkpointLocallyRefencedSealV4 .., answer => [.claim answer]
  | .resumeLocallyRefencedSealedV4 .., answer => [.locallyRefenced answer]
  | .resumeDurablyRefencedSealedV4 .., answer => [.durablyRefenced answer]
  | .checkpointRouteAbsentSealV4 .., answer => [.claim answer]
  | .resumeRouteAbsentSealedV4 .., answer => [.routeAbsent answer]
  | _, _ => []

end Query

/-- A registry with the guards that are alive and the capabilities that it has given out. -/
structure RegistrySystem where
  state : RegistryState
  guards : List ActiveInteractionGuardV1
  issued : List Capability

def RegistrySystem.fresh : RegistrySystem := ⟨.fresh, [], []⟩

inductive Call where
  | order (command : Command)
  | ask (query : Query)
  | drop (guard : ActiveInteractionGuardV1)

namespace RegistrySystem
variable (registry : RegistryInner) (self : RegistrySystem)

/-- What is used of this registry was given out by it. -/
def Holds (capabilities : List Capability) : Prop :=
  ∀ capability ∈ capabilities, capability.registry = registry.lifetime → capability ∈ self.issued

instance (capabilities : List Capability) : Decidable (self.Holds registry capabilities) :=
  inferInstanceAs (Decidable (∀ _ ∈ _, _))

/-- The answer says whether the call was made and successful. -/
def exec : Call → RegistrySystem → Bool × RegistrySystem
  | .order command, self =>
    if self.Holds registry command.uses then
      match command.perform registry self.state with
      | (.ok answer, state) =>
        (true, { state, guards := self.guards ++ command.guards answer, issued := self.issued ++ command.grants answer })
      | (.error _, state) => (false, { self with state })
    else (false, self)
  | .ask query, self =>
    if self.Holds registry query.uses then
      match query.ask registry self.state with
      | .ok answer => (true, { self with issued := self.issued ++ query.grants answer })
      | .error _ => (false, self)
    else (false, self)
  | .drop guard, self =>
    if guard ∈ self.guards then (true, { self with state := guard.drop self.state, guards := self.guards.erase guard })
    else (false, self)

def after (calls : List Call) : RegistrySystem := final (exec registry) .fresh calls

end RegistrySystem

end Starring.Registry
