import Starring.Convergence.Machine
import Starring.Foundation.Runs

/-! Product-drain transitions. A permit is issued for one acknowledged source
deployment, and the transitions compute the whole resulting deployment before they
replace the current one. Together with the other transitions they are the calls a
deployment answers. -/

namespace Starring.Convergence
open Foundation RuntimeDeployment

/-- The time the acknowledged evidence of a drainable phase carries. -/
def drainEvidenceFloor (source : RuntimeDeployment) (operation : String) :
    Except RuntimeDeploymentError (Option DateTime) :=
  match source.phase with
  | .awaitingGatewayReady => .ok (source.panelCertificate.map fun certificate => certificate.reconciledAt)
  | .live => .ok (source.live.map fun attestation => attestation.certifiedAt)
  | _ => .error (source.invalidTransition operation)

def validatedProductDrainSourceAcknowledgement (source : RuntimeDeployment)
    (expectedRevision : DeploymentRevision) (acknowledgedAt : DateTime) (operation : String) :
    Except RuntimeDeploymentError RuntimeDeploymentSnapshotV1 := do
  source.requireRevision expectedRevision
  let found ← drainEvidenceFloor source operation
  let evidenceFloor ← orReject found .invalidSnapshot
  rejectIf (acknowledgedAt < evidenceFloor) .attestationTimeRegression
  return source.snapshot

/-- A permit holds the snapshot of a source that was acknowledged; it cannot be made otherwise. -/
structure ProductDrainPermit (operation : String) where
  source : RuntimeDeploymentSnapshotV1
  acknowledgedAt : DateTime
  issued : ∃ deployment expectedRevision,
    validatedProductDrainSourceAcknowledgement deployment expectedRevision acknowledgedAt operation = .ok source

abbrev ProductDrainSourceSupersessionPermitV1 :=
  ProductDrainPermit "prove_product_drain_route_absence_acknowledgement"

abbrev ProductDrainSourceCancellationPermitV1 :=
  ProductDrainPermit "prove_product_drain_route_absence_cancellation"

/-- A Live source becomes recovery evidence of its own disconnection. -/
def retireLive (result : RuntimeDeploymentSnapshotV1) (acknowledgedAt supersededAt : DateTime) :
    Except RuntimeDeploymentError RuntimeDeploymentSnapshotV1 :=
  match result.phase with
  | .live => do
    let priorLive ← orReject result.live .invalidSnapshot
    return { result with
      live := none
      lastLiveRecovery := some
        { priorLive, kind := .servingDisconnected, evidenceAt := acknowledgedAt, recoveredAt := supersededAt }
      panelCertificate := none
      gatewayReady := none }
  | _ => .ok result

def ProductDrainSourceSupersessionPermitV1.resultingDeployment
    (permit : ProductDrainSourceSupersessionPermitV1) (successor : SupersedingDeploymentV1)
    (reason : String) (supersededAt : DateTime) : Except RuntimeDeploymentError RuntimeDeployment := do
  let source ← restore permit.source
  source.validateSupersession successor reason supersededAt
  rejectIf (supersededAt < permit.acknowledgedAt) .attestationTimeRegression
  let revision ← permit.source.revision.next.mapError fun _ => .revisionOverflow
  let retired ← retireLive { permit.source with revision } permit.acknowledgedAt supersededAt
  restore { retired with
    controllerLease := none, phase := .superseded successor reason supersededAt }

def ProductDrainSourceCancellationPermitV1.resultingDeployment
    (permit : ProductDrainSourceCancellationPermitV1) (cancelledAt : DateTime) :
    Except RuntimeDeploymentError RuntimeDeployment := do
  let _ ← restore permit.source
  rejectIf (cancelledAt < permit.acknowledgedAt) .attestationTimeRegression
  let revision ← permit.source.revision.next.mapError fun _ => .revisionOverflow
  restore { permit.source with revision }

namespace RuntimeDeployment

def supersedeProductDrainSource (permit : ProductDrainSourceSupersessionPermitV1)
    (successor : SupersedingDeploymentV1) (reason : String) (supersededAt : DateTime)
    (self : RuntimeDeployment) : Except RuntimeDeploymentError TransitionOutcomeV1 × RuntimeDeployment :=
  match permit.resultingDeployment successor reason supersededAt with
  | .error error => (.error error, self)
  | .ok result =>
    if self = result then (.ok self.replayed, self)
    else if self.snapshot ≠ permit.source then (.error .productDrainSupersessionSourceMismatch, self)
    else (.ok (.applied result.revision), result)

def cancelProductDrainSource (permit : ProductDrainSourceCancellationPermitV1) (cancelledAt : DateTime)
    (self : RuntimeDeployment) : Except RuntimeDeploymentError TransitionOutcomeV1 × RuntimeDeployment :=
  if self.snapshot ≠ permit.source then (.error .productDrainCancellationSourceMismatch, self)
  else
    match permit.resultingDeployment cancelledAt with
    | .error error => (.error error, self)
    | .ok result => (.ok (.applied result.revision), result)

end RuntimeDeployment

/-- The calls of a deployment, with all their arguments. -/
inductive Call where
  | acquireLease (request : LeaseRequestV1)
  | recoverBlocked (request : RecoverBlockedRequestV1)
  | acceptPreflight (guard : CommandGuardV1) (attestation : PreflightAttestationV1)
  | requestDrain (guard : CommandGuardV1)
  | acceptDrain (guard : CommandGuardV1) (attestation : DrainAttestationV1)
  | beginActivation (guard : CommandGuardV1)
  | acceptActivation (guard : CommandGuardV1) (attestation : ActivationAttestationV1)
  | recordRetryableFailure (guard : CommandGuardV1) (failure : RuntimeFailureV1) (attempt : NonZeroU32)
      (retryNotBefore : DateTime)
  | recordBlockedFailure (guard : CommandGuardV1) (failure : RuntimeFailureV1)
  | resumeRuntimePending (guard : CommandGuardV1)
  | beginPanelReconciliation (guard : CommandGuardV1)
  | acceptPanelCertificate (guard : CommandGuardV1) (certificate : PanelCertificateV1)
  | certifyLive (guard : CommandGuardV1) (gatewayReady : GatewayReadyAttestationV1) (certifiedAt : DateTime)
  | recoverLive (request : RecoverLiveRequestV1)
  | supersede (guard : CommandGuardV1) (successor : SupersedingDeploymentV1) (reason : String)
      (supersededAt : DateTime)
  | cancel (guard : CommandGuardV1) (reason : String) (cancelledAt : DateTime)
  | supersedeProductDrainSource (permit : ProductDrainSourceSupersessionPermitV1)
      (successor : SupersedingDeploymentV1) (reason : String) (supersededAt : DateTime)
  | cancelProductDrainSource (permit : ProductDrainSourceCancellationPermitV1) (cancelledAt : DateTime)

namespace Call

/-- The retryable command behind a call; the product-drain calls have none. -/
def transition : Call → Option Transition
  | acquireLease request => some (RuntimeDeployment.acquireLease request)
  | recoverBlocked request => some (RuntimeDeployment.recoverBlocked request)
  | acceptPreflight guard attestation => some (RuntimeDeployment.acceptPreflight guard attestation)
  | requestDrain guard => some (RuntimeDeployment.requestDrain guard)
  | acceptDrain guard attestation => some (RuntimeDeployment.acceptDrain guard attestation)
  | beginActivation guard => some (RuntimeDeployment.beginActivation guard)
  | acceptActivation guard attestation => some (RuntimeDeployment.acceptActivation guard attestation)
  | recordRetryableFailure guard failure attempt retryNotBefore =>
    some (RuntimeDeployment.recordRetryableFailure guard failure attempt retryNotBefore)
  | recordBlockedFailure guard failure => some (RuntimeDeployment.recordBlockedFailure guard failure)
  | resumeRuntimePending guard => some (RuntimeDeployment.resumeRuntimePending guard)
  | beginPanelReconciliation guard => some (RuntimeDeployment.beginPanelReconciliation guard)
  | acceptPanelCertificate guard certificate =>
    some (RuntimeDeployment.acceptPanelCertificate guard certificate)
  | certifyLive guard gatewayReady certifiedAt =>
    some (RuntimeDeployment.certifyLive guard gatewayReady certifiedAt)
  | recoverLive request => some (RuntimeDeployment.recoverLive request)
  | supersede guard successor reason supersededAt =>
    some (RuntimeDeployment.supersede guard successor reason supersededAt)
  | cancel guard reason cancelledAt => some (RuntimeDeployment.cancel guard reason cancelledAt)
  | supersedeProductDrainSource _ _ _ _ | cancelProductDrainSource _ _ => none

/-- Making a call: its answer, and the deployment it leaves behind. -/
def exec (call : Call) (self : RuntimeDeployment) :
    Except RuntimeDeploymentError TransitionOutcomeV1 × RuntimeDeployment :=
  match call with
  | acquireLease request => (RuntimeDeployment.acquireLease request).apply self
  | recoverBlocked request => (RuntimeDeployment.recoverBlocked request).apply self
  | acceptPreflight guard attestation => (RuntimeDeployment.acceptPreflight guard attestation).apply self
  | requestDrain guard => (RuntimeDeployment.requestDrain guard).apply self
  | acceptDrain guard attestation => (RuntimeDeployment.acceptDrain guard attestation).apply self
  | beginActivation guard => (RuntimeDeployment.beginActivation guard).apply self
  | acceptActivation guard attestation => (RuntimeDeployment.acceptActivation guard attestation).apply self
  | recordRetryableFailure guard failure attempt retryNotBefore =>
    (RuntimeDeployment.recordRetryableFailure guard failure attempt retryNotBefore).apply self
  | recordBlockedFailure guard failure => (RuntimeDeployment.recordBlockedFailure guard failure).apply self
  | resumeRuntimePending guard => (RuntimeDeployment.resumeRuntimePending guard).apply self
  | beginPanelReconciliation guard => (RuntimeDeployment.beginPanelReconciliation guard).apply self
  | acceptPanelCertificate guard certificate =>
    (RuntimeDeployment.acceptPanelCertificate guard certificate).apply self
  | certifyLive guard gatewayReady certifiedAt =>
    (RuntimeDeployment.certifyLive guard gatewayReady certifiedAt).apply self
  | recoverLive request => (RuntimeDeployment.recoverLive request).apply self
  | supersede guard successor reason supersededAt =>
    (RuntimeDeployment.supersede guard successor reason supersededAt).apply self
  | cancel guard reason cancelledAt => (RuntimeDeployment.cancel guard reason cancelledAt).apply self
  | supersedeProductDrainSource permit successor reason supersededAt =>
    self.supersedeProductDrainSource permit successor reason supersededAt
  | cancelProductDrainSource permit cancelledAt => self.cancelProductDrainSource permit cancelledAt

theorem exec_transition {call : Call} {transition : Transition} (self : RuntimeDeployment)
    (found : call.transition = some transition) : call.exec self = transition.apply self := by
  cases call <;> cases found <;> rfl

def guard : Call → Option CommandGuardV1
  | acceptPreflight guard _ | requestDrain guard | acceptDrain guard _ | beginActivation guard
  | acceptActivation guard _ | recordRetryableFailure guard _ _ _ | recordBlockedFailure guard _
  | resumeRuntimePending guard | beginPanelReconciliation guard | acceptPanelCertificate guard _
  | certifyLive guard _ _ | supersede guard _ _ _ | cancel guard _ _ => some guard
  | acquireLease _ | recoverBlocked _ | recoverLive _ | supersedeProductDrainSource _ _ _ _
  | cancelProductDrainSource _ _ => none

end Call

end Starring.Convergence
