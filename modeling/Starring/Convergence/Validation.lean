import Starring.Convergence.State

/-! What a deployment accepts as evidence, and what it accepts as a snapshot. The
attestation checks are shared: a transition makes them when the evidence arrives,
and the snapshot validator makes them again when the deployment is loaded. -/

namespace Starring.Convergence
open Foundation

namespace RuntimeDeployment
variable (self : RuntimeDeployment)

def validateGeneration (runtimeGeneration : RuntimeGeneration) : Except RuntimeDeploymentError Unit :=
  rejectIf (runtimeGeneration ≠ self.runtimeGeneration)
    (.runtimeGenerationConflict self.runtimeGeneration runtimeGeneration)

def validateTargetAndGeneration (target : RuntimeDeploymentTargetV1) (runtimeGeneration : RuntimeGeneration) :
    Except RuntimeDeploymentError Unit := do
  rejectIf (target ≠ self.target) .targetMismatch
  self.validateGeneration runtimeGeneration

def validatePreflight (attestation : PreflightAttestationV1) : Except RuntimeDeploymentError Unit := do
  self.validateTargetAndGeneration attestation.target attestation.runtimeGeneration
  rejectIf (attestation.observedRuntime ≠ self.previousRuntime) .previousRuntimeMismatch
  rejectIf (attestation.checkedAt < self.requestedAt) .attestationTimeRegression

def validateDrain (attestation : DrainAttestationV1) : Except RuntimeDeploymentError Unit := do
  self.validateGeneration attestation.targetRuntimeGeneration
  rejectIf (attestation.previousRuntime ≠ self.previousRuntime) .previousRuntimeMismatch
  let preflight ← orReject self.preflight .invalidSnapshot
  rejectIf (attestation.drainedAt < preflight.checkedAt) .attestationTimeRegression

def validateActivation (attestation : ActivationAttestationV1) : Except RuntimeDeploymentError Unit := do
  self.validateTargetAndGeneration attestation.target attestation.runtimeGeneration
  rejectIf (attestation.activationRequestId ≠ self.identity.activationRequestId) .activationRequestMismatch
  let drain ← orReject self.drain .invalidSnapshot
  rejectIf (attestation.activatedAt < drain.drainedAt) .attestationTimeRegression

/-- No skip, failure, ambiguity or pending clean-up, and every declared panel accounted for. -/
def validatePanelEligibility (certificate : PanelCertificateV1) : Except RuntimeDeploymentError Unit := do
  rejectIf (certificate.skippedTransientCount ≠ 0) (.panelIneligible .transientSkipped)
  rejectIf (certificate.skippedUnresolvedChannelCount ≠ 0) (.panelIneligible .unresolvedChannelSkipped)
  rejectIf (certificate.failedCount ≠ 0) (.panelIneligible .failed)
  rejectIf (certificate.ambiguousOutcomeCount ≠ 0) (.panelIneligible .ambiguousOutcome)
  rejectIf (certificate.staleMessageCleanupPendingCount ≠ 0) (.panelIneligible .staleCleanupPending)
  rejectIf (certificate.orphanMessageCleanupPendingCount ≠ 0) (.panelIneligible .orphanCleanupPending)
  rejectIf (certificate.repostedOldMessageCleanupPendingCount ≠ 0)
    (.panelIneligible .repostedOldMessageCleanupPending)
  let accounted := certificate.installedCount.toNat + certificate.unchangedCount.toNat
  rejectIf (2 ^ 32 ≤ accounted) (.panelIneligible .countOverflow)
  rejectIf (accounted ≠ certificate.declaredCount.toNat) (.panelIneligible .incomplete)

/-- A certificate must be later than the last lost Live, and come from another process. -/
def validatePanelRecovery (certificate : PanelCertificateV1) : Except RuntimeDeploymentError Unit :=
  match self.lastLiveRecovery with
  | none => .ok ()
  | some recovery => do
    rejectIf (certificate.reconciledAt < recovery.recoveredAt) .attestationTimeRegression
    rejectIf (certificate.processInstanceId = recovery.priorLive.processInstanceId) .processInstanceMismatch

def validatePanelCertificate (certificate : PanelCertificateV1) : Except RuntimeDeploymentError Unit := do
  self.validateTargetAndGeneration certificate.target certificate.runtimeGeneration
  let activation ← orReject self.activation .invalidSnapshot
  rejectIf (certificate.reconciledAt < activation.activatedAt) .attestationTimeRegression
  self.validatePanelRecovery certificate
  validatePanelEligibility certificate

def validateGatewayReady (attestation : GatewayReadyAttestationV1) : Except RuntimeDeploymentError Unit := do
  self.validateTargetAndGeneration attestation.target attestation.runtimeGeneration
  let panel ← orReject self.panelCertificate .invalidSnapshot
  rejectIf (attestation.processInstanceId ≠ panel.processInstanceId) .processInstanceMismatch

/-- A code of lower-case letters, digits and underscores, and a message that is not blank. -/
def validateFailure (failure : RuntimeFailureV1) : Except RuntimeDeploymentError Unit :=
  let codeValid := failure.code ≠ "" ∧ failure.code.utf8ByteSize ≤ 64 ∧
    ((utf8 failure.code).all fun byte => isAsciiLowercase byte || isAsciiDigit byte || byte == 95) = true
  let messageValid := isBlank failure.message = false ∧ failure.message.utf8ByteSize ≤ 1024
  rejectIf (¬(codeValid ∧ messageValid)) .invalidFailure

def validateReason (reason : String) : Except RuntimeDeploymentError Unit :=
  rejectIf (isBlank reason = true ∨ 1024 < reason.utf8ByteSize) .invalidReason

def validateSupersession (successor : SupersedingDeploymentV1) (reason : String) (supersededAt : DateTime) :
    Except RuntimeDeploymentError Unit := do
  validateReason reason
  rejectIf (successor.runtimeGeneration ≤ self.runtimeGeneration) .runtimeGenerationNotMonotonic
  rejectIf (successor.identity.deploymentId = self.identity.deploymentId) .supersedingDeploymentIdentityConflict
  rejectIf (¬successor.identity.sameProductScope self.identity) .supersedingDeploymentScopeMismatch
  rejectIf (¬successor.target.sameSlot self.target) .previousRuntimeSlotMismatch
  rejectIf (supersededAt < self.requestedAt) .attestationTimeRegression

/-- The earliest time runtime evidence may carry: the activation, or the last recovery if later. -/
def runtimeEvidenceFloor : Option DateTime :=
  self.activation.map fun activation =>
    match self.lastLiveRecovery with
    | none => activation.activatedAt
    | some recovery => max activation.activatedAt recovery.recoveredAt


end RuntimeDeployment

def RuntimeFailureDispositionV1.failure : RuntimeFailureDispositionV1 → RuntimeFailureV1
  | retryable failure _ _ => failure
  | blocked failure => failure

def RuntimeFailureDispositionV1.retryNotBefore : RuntimeFailureDispositionV1 → Option DateTime
  | retryable _ _ retryNotBefore => some retryNotBefore
  | blocked _ => none

namespace RuntimeDeployment
variable (self : RuntimeDeployment)

def snapshotPrevious : Except RuntimeDeploymentError Unit :=
  match self.previousRuntime with
  | none => .ok ()
  | some previous =>
    rejectIf (¬self.target.sameSlot previous.target ∨ self.runtimeGeneration ≤ previous.runtimeGeneration)
      .invalidSnapshot

def snapshotLease : Except RuntimeDeploymentError Unit := do
  match self.controllerLease, self.lastFencingToken with
  | some lease, some last =>
    rejectIf (¬(lease.fencingToken = last ∧ lease.acquiredAt < lease.expiresAt)) .invalidSnapshot
  | some _, none => .error .invalidSnapshot
  | none, _ => .ok ()
  rejectIf (self.phase.isTerminal = true ∧ self.controllerLease.isSome = true) .invalidSnapshot
  match self.controllerLease with
  | none => .ok ()
  | some lease => rejectIf (lease.acquiredAt < self.requestedAt) .invalidSnapshot

/-- The recorded failure is the one the pending condition still waits on. -/
def failureIsCurrent (disposition : RuntimeFailureDispositionV1) : Bool :=
  match self.phase with
  | .runtimePending condition => condition.disposition = some disposition
  | _ => false

def snapshotFailure : Except RuntimeDeploymentError Unit :=
  match self.lastRuntimeFailure with
  | none => .ok ()
  | some disposition =>
    let failure := disposition.failure
    let evidenceFloor :=
      if self.failureIsCurrent disposition then self.runtimeEvidenceFloor
      else self.activation.map fun activation => activation.activatedAt
    rejectIf
      (accepts (validateFailure failure) = false ∨ failure.recordedAt < self.requestedAt ∨
        (evidenceFloor.all fun floor => failure.recordedAt < floor) = true ∨
        (disposition.retryNotBefore.any fun retryAt => retryAt < failure.recordedAt) = true)
      .invalidSnapshot

/-- Evidence that is present needs its predecessor, and is checked as on arrival. -/
def snapshotEvidence {α β : Type} (evidence : Option α) (predecessor : Option β)
    (validate : α → Except RuntimeDeploymentError Unit) : Except RuntimeDeploymentError Unit :=
  match evidence with
  | none => .ok ()
  | some attestation => do
    rejectIf (predecessor.isNone = true) .invalidSnapshot
    (validate attestation).mapError fun _ => .invalidSnapshot

def snapshotLive : Except RuntimeDeploymentError Unit :=
  match self.live with
  | none => .ok ()
  | some live =>
    rejectIf
      (self.gatewayReady.isNone = true ∨ live.target ≠ self.target ∨
        live.runtimeGeneration ≠ self.runtimeGeneration ∨ self.activation ≠ some live.activation ∨
        self.panelCertificate ≠ some live.panelCertificate ∨ self.gatewayReady ≠ some live.gatewayReady ∨
        live.processInstanceId ≠ live.gatewayReady.processInstanceId ∨
        live.certifiedAt < live.gatewayReady.readyAt)
      .invalidSnapshot

def recoveryPhaseValid : Bool :=
  match self.phase with
  | .runtimePending _ | .reconcilingPanels | .awaitingGatewayReady | .live | .superseded _ _ _ => true
  | _ => false

def snapshotRecovery : Except RuntimeDeploymentError Unit :=
  match self.lastLiveRecovery with
  | none => .ok ()
  | some recovery =>
    let prior := recovery.priorLive
    rejectIf
      (self.recoveryPhaseValid = false ∨ prior.target ≠ self.target ∨
        prior.runtimeGeneration ≠ self.runtimeGeneration ∨ self.activation ≠ some prior.activation ∨
        prior.panelCertificate.target ≠ self.target ∨
        prior.panelCertificate.runtimeGeneration ≠ self.runtimeGeneration ∨
        prior.gatewayReady.target ≠ self.target ∨
        prior.gatewayReady.runtimeGeneration ≠ self.runtimeGeneration ∨
        prior.processInstanceId ≠ prior.panelCertificate.processInstanceId ∨
        prior.processInstanceId ≠ prior.gatewayReady.processInstanceId ∨
        prior.panelCertificate.reconciledAt < prior.activation.activatedAt ∨
        prior.gatewayReady.readyAt < prior.panelCertificate.reconciledAt ∨
        prior.certifiedAt < prior.gatewayReady.readyAt ∨
        accepts (validatePanelEligibility prior.panelCertificate) = false ∨
        recovery.evidenceAt < prior.certifiedAt ∨ recovery.recoveredAt < recovery.evidenceAt ∨
        (self.live.any fun live => live.certifiedAt < recovery.recoveredAt) = true)
      .invalidSnapshot

/-- Which of the six pieces of evidence are present, in the order they are collected. -/
def evidence : Bool × Bool × Bool × Bool × Bool × Bool :=
  (self.preflight.isSome, self.drain.isSome, self.activation.isSome, self.panelCertificate.isSome,
    self.gatewayReady.isSome, self.live.isSome)

def evidenceIsPrefix : Bool × Bool × Bool × Bool × Bool × Bool → Bool
  | (false, false, false, false, false, false)
  | (true, false, false, false, false, false)
  | (true, true, false, false, false, false)
  | (true, true, true, false, false, false)
  | (true, true, true, true, false, false) => true
  | _ => false

def conditionValid (condition : RuntimePendingConditionV1) : Bool :=
  match condition with
  | .ready => true
  | .retryable failure _ retryNotBefore =>
    accepts (validateFailure failure) && failure.recordedAt ≤ retryNotBefore &&
      condition.disposition = self.lastRuntimeFailure
  | .blocked failure =>
    accepts (validateFailure failure) && condition.disposition = self.lastRuntimeFailure

def phaseEvidenceValid : Bool :=
  match self.phase with
  | .requested => self.evidence = (false, false, false, false, false, false)
  | .preflightReady | .drainRequested => self.evidence = (true, false, false, false, false, false)
  | .drained | .activationApplying => self.evidence = (true, true, false, false, false, false)
  | .runtimePending condition =>
    self.evidence = (true, true, true, false, false, false) && self.conditionValid condition
  | .reconcilingPanels => self.evidence = (true, true, true, false, false, false)
  | .awaitingGatewayReady => self.evidence = (true, true, true, true, false, false)
  | .live => self.evidence = (true, true, true, true, true, true)
  | .superseded successor reason supersededAt =>
    accepts (validateReason reason) && self.runtimeGeneration < successor.runtimeGeneration &&
      successor.identity.deploymentId ≠ self.identity.deploymentId &&
      successor.identity.sameProductScope self.identity && successor.target.sameSlot self.target &&
      self.requestedAt ≤ supersededAt && evidenceIsPrefix self.evidence
  | .cancelled reason cancelledAt =>
    accepts (validateReason reason) && self.requestedAt ≤ cancelledAt && evidenceIsPrefix self.evidence

def validatePhaseEvidence : Except RuntimeDeploymentError Unit :=
  rejectIf (self.phaseEvidenceValid = false) .invalidSnapshot

def validateSnapshot : Except RuntimeDeploymentError Unit := do
  self.snapshotPrevious
  self.snapshotLease
  self.snapshotFailure
  snapshotEvidence self.preflight (some ()) self.validatePreflight
  snapshotEvidence self.drain self.preflight self.validateDrain
  snapshotEvidence self.activation self.drain self.validateActivation
  snapshotEvidence self.panelCertificate self.activation self.validatePanelCertificate
  snapshotEvidence self.gatewayReady self.panelCertificate self.validateGatewayReady
  self.snapshotLive
  self.snapshotRecovery
  self.validatePhaseEvidence

/-- `restore` copies every field and validates the result. -/
def ofSnapshot (snapshot : RuntimeDeploymentSnapshotV1) : RuntimeDeployment :=
  { identity := snapshot.identity, target := snapshot.target,
    runtimeGeneration := snapshot.runtimeGeneration, previousRuntime := snapshot.previousRuntime,
    requestedAt := snapshot.requestedAt, revision := snapshot.revision, phase := snapshot.phase,
    controllerLease := snapshot.controllerLease, lastFencingToken := snapshot.lastFencingToken,
    preflight := snapshot.preflight, drain := snapshot.drain, activation := snapshot.activation,
    panelCertificate := snapshot.panelCertificate, gatewayReady := snapshot.gatewayReady,
    live := snapshot.live, lastLiveRecovery := snapshot.lastLiveRecovery,
    lastRuntimeFailure := snapshot.lastRuntimeFailure }

def restore (snapshot : RuntimeDeploymentSnapshotV1) : Except RuntimeDeploymentError RuntimeDeployment := do
  let deployment := ofSnapshot snapshot
  deployment.validateSnapshot
  return deployment

def snapshot : RuntimeDeploymentSnapshotV1 :=
  { identity := self.identity, target := self.target, runtimeGeneration := self.runtimeGeneration,
    previousRuntime := self.previousRuntime, requestedAt := self.requestedAt, revision := self.revision,
    phase := self.phase, controllerLease := self.controllerLease,
    lastFencingToken := self.lastFencingToken, preflight := self.preflight, drain := self.drain,
    activation := self.activation, panelCertificate := self.panelCertificate,
    gatewayReady := self.gatewayReady, live := self.live, lastLiveRecovery := self.lastLiveRecovery,
    lastRuntimeFailure := self.lastRuntimeFailure }

@[simp] theorem ofSnapshot_snapshot : ofSnapshot self.snapshot = self := rfl
@[simp] theorem snapshot_ofSnapshot (saved : RuntimeDeploymentSnapshotV1) : (ofSnapshot saved).snapshot = saved := rfl

end RuntimeDeployment

end Starring.Convergence
