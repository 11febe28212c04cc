import Starring.Convergence.Validation
import Starring.Foundation.Rules

/-! The transitions of a deployment. Every transition but the two product-drain
ones has the shape of a retryable command: an early replay branch, its checks, its
field writes, and the bump of the revision, which can itself be refused. -/

namespace Starring.Convergence
open Foundation

namespace RuntimeDeployment

def request (identity : RuntimeDeploymentIdentityV1) (target : RuntimeDeploymentTargetV1)
    (runtimeGeneration : RuntimeGeneration) (previousRuntime : Option RuntimeProcessIdentityV1)
    (requestedAt : DateTime) : Except RuntimeDeploymentError RuntimeDeployment := do
  match previousRuntime with
  | none => .ok ()
  | some previous => do
    rejectIf (¬target.sameSlot previous.target) .previousRuntimeSlotMismatch
    rejectIf (runtimeGeneration ≤ previous.runtimeGeneration) .runtimeGenerationNotMonotonic
  return { identity, target, runtimeGeneration, previousRuntime, requestedAt, revision := .first,
           phase := .requested, controllerLease := none, lastFencingToken := none, preflight := none,
           drain := none, activation := none, panelCertificate := none, gatewayReady := none,
           live := none, lastLiveRecovery := none, lastRuntimeFailure := none }

variable (self : RuntimeDeployment)

def replayed : TransitionOutcomeV1 := .replayed self.revision

def invalidTransition (operation : String) : RuntimeDeploymentError :=
  .invalidTransition self.phase.kind operation

/-- On overflow the fields written before the bump stay written. -/
def bumpRevision : Except RuntimeDeploymentError TransitionOutcomeV1 × RuntimeDeployment :=
  match self.revision.next with
  | .error _ => (.error .revisionOverflow, self)
  | .ok revision => (.ok (.applied revision), { self with revision })

def phaseRank : RuntimeDeploymentPhaseKindV1 → Option Nat
  | .requested => some 0
  | .preflightReady => some 1
  | .drainRequested => some 2
  | .drained => some 3
  | .activationApplying => some 4
  | .runtimePending => some 5
  | .reconcilingPanels => some 6
  | .awaitingGatewayReady => some 7
  | .live => some 8
  | .superseded | .cancelled => none

def hasReached (expected : RuntimeDeploymentPhaseKindV1) : Bool :=
  match phaseRank self.phase.kind, phaseRank expected with
  | some current, some expected => expected ≤ current
  | _, _ => false

def clearUnacceptedRuntimeEvidence : RuntimeDeployment :=
  { self with panelCertificate := none, gatewayReady := none, live := none }

def requireRevision (expected : DeploymentRevision) : Except RuntimeDeploymentError Unit :=
  rejectIf (expected ≠ self.revision) (.revisionConflict expected self.revision)

def requireGuard (guard : CommandGuardV1) : Except RuntimeDeploymentError Unit := do
  self.requireRevision guard.expectedRevision
  rejectIf (guard.runtimeGeneration ≠ self.runtimeGeneration)
    (.runtimeGenerationConflict self.runtimeGeneration guard.runtimeGeneration)
  let lease ← orReject self.controllerLease .leaseRequired
  rejectIf (lease.expiresAt ≤ guard.now) (.leaseExpired lease.expiresAt)
  rejectIf (lease.controllerId ≠ guard.controllerId) .controllerMismatch
  rejectIf (lease.fencingToken ≠ guard.fencingToken)
    (.fencingTokenConflict lease.fencingToken guard.fencingToken)

def requirePhase (expected : RuntimeDeploymentPhaseKindV1) (operation : String) :
    Except RuntimeDeploymentError Unit :=
  rejectIf (self.phase.kind ≠ expected) (self.invalidTransition operation)

def requireRuntimeFailurePhase (operation : String) : Except RuntimeDeploymentError Unit :=
  match self.phase with
  | .runtimePending .ready | .reconcilingPanels | .awaitingGatewayReady => .ok ()
  | _ => .error (self.invalidTransition operation)

/-- While a lease is running only its own controller may replace it, and only by a longer one. -/
def validateHeldLease (request : LeaseRequestV1) : Except RuntimeDeploymentError Unit :=
  match self.controllerLease with
  | none => .ok ()
  | some lease =>
    if request.now < lease.expiresAt then do
      rejectIf (lease.controllerId ≠ request.controllerId) (.leaseHeld lease.controllerId lease.expiresAt)
      rejectIf (request.now < lease.acquiredAt ∨ request.expiresAt ≤ lease.expiresAt) .invalidLeaseWindow
    else .ok ()

def validateLeaseRequest (request : LeaseRequestV1) : Except RuntimeDeploymentError Unit := do
  self.requireRevision request.expectedRevision
  rejectIf (self.phase.isTerminal = true) (self.invalidTransition "acquire_lease")
  rejectIf (request.expiresAt ≤ request.now) .invalidLeaseWindow
  rejectIf (request.now < self.requestedAt) .invalidLeaseWindow
  self.validateHeldLease request
  rejectIf ((self.lastFencingToken.any fun token => request.fencingToken ≤ token) = true)
    .fencingTokenNotMonotonic

def installLease (request : LeaseRequestV1) : RuntimeDeployment :=
  { self with
    controllerLease := some
      { controllerId := request.controllerId, fencingToken := request.fencingToken,
        acquiredAt := request.now, expiresAt := request.expiresAt }
    lastFencingToken := some request.fencingToken }

end RuntimeDeployment

def RecoverBlockedRequestV1.lease (request : RecoverBlockedRequestV1) : LeaseRequestV1 :=
  { expectedRevision := request.expectedRevision, controllerId := request.controllerId,
    fencingToken := request.fencingToken, now := request.now, expiresAt := request.expiresAt }

abbrev Transition := Rule RuntimeDeploymentError RuntimeDeployment

def Transition.apply (transition : Transition) (self : RuntimeDeployment) :
    Except RuntimeDeploymentError TransitionOutcomeV1 × RuntimeDeployment :=
  transition.run RuntimeDeployment.replayed RuntimeDeployment.bumpRevision self

namespace RuntimeDeployment

/-- The lease a request would install is the one already held. -/
def leaseMatches (lease : ControllerLeaseV1) (controllerId : ControllerId) (fencingToken : FencingToken)
    (now expiresAt : DateTime) : Bool :=
  lease.controllerId = controllerId ∧ lease.fencingToken = fencingToken ∧ lease.acquiredAt = now ∧
    lease.expiresAt = expiresAt

/-- A blocked failure keeps every lease away, a retryable one until its retry time. -/
def refuseWhileWaiting (self : RuntimeDeployment) (now : DateTime) : Except RuntimeDeploymentError Unit :=
  match self.phase with
  | .runtimePending (.blocked _) => .error (self.invalidTransition "acquire_lease")
  | .runtimePending (.retryable _ _ retryNotBefore) =>
    rejectIf (now < retryNotBefore) (self.invalidTransition "acquire_lease")
  | _ => .ok ()

def acquireLease (request : LeaseRequestV1) : Transition where
  replays self := self.controllerLease.any fun lease =>
    leaseMatches lease request.controllerId request.fencingToken request.now request.expiresAt
  write self := do
    self.refuseWhileWaiting request.now
    self.validateLeaseRequest request
    return self.installLease request

/-- The failure on record is the blocked one the request names. -/
def exactFailure (self : RuntimeDeployment) (expected : RuntimeFailureId) : Bool :=
  match self.lastRuntimeFailure with
  | some (.blocked failure) => failure.failureId = expected
  | _ => false

/-- The deployment waits on the blocked failure the request names. -/
def isBlockedOn (self : RuntimeDeployment) (expected : RuntimeFailureId) : Bool :=
  match self.phase with
  | .runtimePending (.blocked failure) => failure.failureId = expected
  | _ => false

def recoverBlocked (request : RecoverBlockedRequestV1) : Transition where
  replays self :=
    self.exactFailure request.expectedFailureId && self.phase = .runtimePending .ready &&
      self.controllerLease.any fun lease =>
        leaseMatches lease request.controllerId request.fencingToken request.now request.expiresAt
  write self := do
    self.requireRevision request.expectedRevision
    rejectIf (self.isBlockedOn request.expectedFailureId = false) (self.invalidTransition "recover_blocked")
    rejectIf (self.controllerLease.isSome = true ∨ self.exactFailure request.expectedFailureId = false)
      .invalidSnapshot
    self.validateLeaseRequest request.lease
    return { self.installLease request.lease with phase := .runtimePending .ready }

def acceptPreflight (guard : CommandGuardV1) (attestation : PreflightAttestationV1) : Transition where
  replays self := self.preflight = some attestation && self.hasReached .preflightReady
  write self := do
    self.requireGuard guard
    self.requirePhase .requested "accept_preflight"
    self.validatePreflight attestation
    return { self with preflight := some attestation, phase := .preflightReady }

def requestDrain (guard : CommandGuardV1) : Transition where
  replays self := self.hasReached .drainRequested
  write self := do
    self.requireGuard guard
    self.requirePhase .preflightReady "request_drain"
    return { self with phase := .drainRequested }

def acceptDrain (guard : CommandGuardV1) (attestation : DrainAttestationV1) : Transition where
  replays self := self.drain = some attestation && self.hasReached .drained
  write self := do
    self.requireGuard guard
    self.requirePhase .drainRequested "accept_drain"
    self.validateDrain attestation
    return { self with drain := some attestation, phase := .drained }

def beginActivation (guard : CommandGuardV1) : Transition where
  replays self := self.hasReached .activationApplying
  write self := do
    self.requireGuard guard
    self.requirePhase .drained "begin_activation"
    return { self with phase := .activationApplying }

def acceptActivation (guard : CommandGuardV1) (attestation : ActivationAttestationV1) : Transition where
  replays self := self.activation = some attestation && self.hasReached .runtimePending
  write self := do
    self.requireGuard guard
    self.requirePhase .activationApplying "accept_activation"
    self.validateActivation attestation
    return { self with activation := some attestation, phase := .runtimePending .ready }

def recordRetryableFailure (guard : CommandGuardV1) (failure : RuntimeFailureV1) (attempt : NonZeroU32)
    (retryNotBefore : DateTime) : Transition where
  replays self := self.phase = .runtimePending (.retryable failure attempt retryNotBefore)
  write self := do
    self.requireGuard guard
    self.requireRuntimeFailurePhase "record_retryable_failure"
    validateFailure failure
    rejectIf
      (retryNotBefore < failure.recordedAt ∨
        (self.runtimeEvidenceFloor.all fun floor => failure.recordedAt < floor) = true)
      .invalidFailure
    return { self.clearUnacceptedRuntimeEvidence with
      lastRuntimeFailure := some (.retryable failure attempt retryNotBefore)
      controllerLease := none
      phase := .runtimePending (.retryable failure attempt retryNotBefore) }

def recordBlockedFailure (guard : CommandGuardV1) (failure : RuntimeFailureV1) : Transition where
  replays self := self.phase = .runtimePending (.blocked failure)
  write self := do
    self.requireGuard guard
    self.requireRuntimeFailurePhase "record_blocked_failure"
    validateFailure failure
    rejectIf ((self.runtimeEvidenceFloor.all fun floor => failure.recordedAt < floor) = true) .invalidFailure
    return { self.clearUnacceptedRuntimeEvidence with
      lastRuntimeFailure := some (.blocked failure)
      controllerLease := none
      phase := .runtimePending (.blocked failure) }

def resumeRuntimePending (guard : CommandGuardV1) : Transition where
  replays self := self.phase = .runtimePending .ready
  write self := do
    self.requireGuard guard
    self.requirePhase .runtimePending "resume_runtime_pending"
    return { self with phase := .runtimePending .ready }

def beginPanelReconciliation (guard : CommandGuardV1) : Transition where
  replays self := self.hasReached .reconcilingPanels
  write self := do
    self.requireGuard guard
    match self.phase with
    | .runtimePending .ready => return { self with phase := .reconcilingPanels }
    | _ => .error (self.invalidTransition "begin_panel_reconciliation")

def acceptPanelCertificate (guard : CommandGuardV1) (certificate : PanelCertificateV1) : Transition where
  replays self := self.panelCertificate = some certificate && self.hasReached .awaitingGatewayReady
  write self := do
    self.requireGuard guard
    self.requirePhase .reconcilingPanels "accept_panel_certificate"
    self.validatePanelCertificate certificate
    return { self with panelCertificate := some certificate, phase := .awaitingGatewayReady }

def certifyLive (guard : CommandGuardV1) (gatewayReady : GatewayReadyAttestationV1) (certifiedAt : DateTime) :
    Transition where
  replays self := self.live.any fun live => live.gatewayReady = gatewayReady ∧ live.certifiedAt = certifiedAt
  write self := do
    self.requireGuard guard
    self.requirePhase .awaitingGatewayReady "certify_live"
    self.validateGatewayReady gatewayReady
    let activation ← orReject self.activation .invalidSnapshot
    let panelCertificate ← orReject self.panelCertificate .invalidSnapshot
    rejectIf (gatewayReady.readyAt < panelCertificate.reconciledAt ∨ certifiedAt < gatewayReady.readyAt)
      .attestationTimeRegression
    let live : LiveAttestationV1 :=
      { target := self.target, runtimeGeneration := self.runtimeGeneration,
        processInstanceId := gatewayReady.processInstanceId, activation, panelCertificate, gatewayReady,
        certifiedAt }
    return { self with gatewayReady := some gatewayReady, live := some live, controllerLease := none,
                       phase := .live }

def recoverLive (request : RecoverLiveRequestV1) : Transition where
  replays self :=
    (self.lastLiveRecovery.any fun recovery =>
      recovery.priorLive.runtimeGeneration = request.expectedRuntimeGeneration ∧
      recovery.priorLive.processInstanceId = request.expectedProcessInstanceId ∧
      recovery.kind = request.kind ∧ recovery.evidenceAt = request.evidenceAt ∧
      recovery.recoveredAt = request.recoveredAt) && self.phase ≠ .live
  write self := do
    self.requireRevision request.expectedRevision
    self.requirePhase .live "recover_live"
    rejectIf (request.expectedRuntimeGeneration ≠ self.runtimeGeneration)
      (.runtimeGenerationConflict self.runtimeGeneration request.expectedRuntimeGeneration)
    let priorLive ← orReject self.live .invalidSnapshot
    rejectIf (priorLive.processInstanceId ≠ request.expectedProcessInstanceId) .processInstanceMismatch
    rejectIf (request.evidenceAt < priorLive.certifiedAt ∨ request.recoveredAt < request.evidenceAt)
      .attestationTimeRegression
    return { self.clearUnacceptedRuntimeEvidence with
      lastLiveRecovery := some
        { priorLive, kind := request.kind, evidenceAt := request.evidenceAt,
          recoveredAt := request.recoveredAt }
      phase := .runtimePending .ready }

def supersede (guard : CommandGuardV1) (successor : SupersedingDeploymentV1) (reason : String)
    (supersededAt : DateTime) : Transition where
  replays self := self.phase = .superseded successor reason supersededAt
  write self := do
    self.requireGuard guard
    rejectIf (self.phase.isTerminal = true) (self.invalidTransition "supersede")
    self.validateSupersession successor reason supersededAt
    return { self with phase := .superseded successor reason supersededAt, controllerLease := none }

def isCancellable : RuntimeDeploymentPhaseKindV1 → Bool
  | .requested | .preflightReady | .drainRequested => true
  | _ => false

def cancel (guard : CommandGuardV1) (reason : String) (cancelledAt : DateTime) : Transition where
  replays self := self.phase = .cancelled reason cancelledAt
  write self := do
    self.requireGuard guard
    rejectIf (isCancellable self.phase.kind = false) (self.invalidTransition "cancel")
    validateReason reason
    rejectIf (cancelledAt < self.requestedAt) .attestationTimeRegression
    return { self with phase := .cancelled reason cancelledAt, controllerLease := none }

end RuntimeDeployment

end Starring.Convergence
