import Starring.Convergence.ProductDrain

/-! The conditions behind the checks, and the invariant behind the snapshot
validator: a deployment is valid exactly when `validateSnapshot` accepts it. -/

namespace Starring.Convergence
open Foundation

namespace RuntimeDeployment
variable {self : RuntimeDeployment}

@[mk_iff]
structure PreflightValid (deployment : RuntimeDeployment) (attestation : PreflightAttestationV1) : Prop where
  target : attestation.target = deployment.target
  generation : attestation.runtimeGeneration = deployment.runtimeGeneration
  observed : attestation.observedRuntime = deployment.previousRuntime
  requested : deployment.requestedAt ≤ attestation.checkedAt

@[mk_iff]
structure DrainValid (deployment : RuntimeDeployment) (attestation : DrainAttestationV1) : Prop where
  generation : attestation.targetRuntimeGeneration = deployment.runtimeGeneration
  previous : attestation.previousRuntime = deployment.previousRuntime
  checked : ∃ preflight, deployment.preflight = some preflight ∧ preflight.checkedAt ≤ attestation.drainedAt

@[mk_iff]
structure ActivationValid (deployment : RuntimeDeployment) (attestation : ActivationAttestationV1) : Prop where
  target : attestation.target = deployment.target
  generation : attestation.runtimeGeneration = deployment.runtimeGeneration
  request : attestation.activationRequestId = deployment.identity.activationRequestId
  drained : ∃ drain, deployment.drain = some drain ∧ drain.drainedAt ≤ attestation.activatedAt

structure PanelValid (deployment : RuntimeDeployment) (certificate : PanelCertificateV1) : Prop where
  target : certificate.target = deployment.target
  generation : certificate.runtimeGeneration = deployment.runtimeGeneration
  activated : ∃ activation, deployment.activation = some activation ∧ activation.activatedAt ≤ certificate.reconciledAt
  recovered : ∀ recovery, deployment.lastLiveRecovery = some recovery →
    recovery.recoveredAt ≤ certificate.reconciledAt ∧
      certificate.processInstanceId ≠ recovery.priorLive.processInstanceId
  eligible : validatePanelEligibility certificate = .ok ()

@[mk_iff]
structure GatewayValid (deployment : RuntimeDeployment) (attestation : GatewayReadyAttestationV1) : Prop where
  target : attestation.target = deployment.target
  generation : attestation.runtimeGeneration = deployment.runtimeGeneration
  process : ∃ panel, deployment.panelCertificate = some panel ∧
    attestation.processInstanceId = panel.processInstanceId

theorem validateTargetAndGeneration_ok (target : RuntimeDeploymentTargetV1) (generation : RuntimeGeneration) :
    self.validateTargetAndGeneration target generation = .ok () ↔
      target = self.target ∧ generation = self.runtimeGeneration := by
  simp [validateTargetAndGeneration, validateGeneration]

theorem validatePreflight_ok (attestation : PreflightAttestationV1) :
    self.validatePreflight attestation = .ok () ↔ self.PreflightValid attestation := by
  simp only [validatePreflight, check_bind_eq_ok, validateTargetAndGeneration_ok, rejectIf_eq_ok, not_not, not_lt,
    preflightValid_iff, and_assoc]

theorem validateDrain_ok (attestation : DrainAttestationV1) :
    self.validateDrain attestation = .ok () ↔ self.DrainValid attestation := by
  simp only [validateDrain, validateGeneration, check_bind_eq_ok, orReject_bind_eq_ok, rejectIf_eq_ok,
    not_not, not_lt, drainValid_iff]

theorem validateActivation_ok (attestation : ActivationAttestationV1) :
    self.validateActivation attestation = .ok () ↔ self.ActivationValid attestation := by
  simp only [validateActivation, check_bind_eq_ok, orReject_bind_eq_ok, validateTargetAndGeneration_ok,
    rejectIf_eq_ok, not_not, not_lt, activationValid_iff, and_assoc]

theorem validatePanelRecovery_ok (certificate : PanelCertificateV1) :
    self.validatePanelRecovery certificate = .ok () ↔ ∀ recovery, self.lastLiveRecovery = some recovery →
      recovery.recoveredAt ≤ certificate.reconciledAt ∧
        certificate.processInstanceId ≠ recovery.priorLive.processInstanceId := by
  unfold validatePanelRecovery
  cases self.lastLiveRecovery <;> simp

theorem validatePanelCertificate_ok (certificate : PanelCertificateV1) :
    self.validatePanelCertificate certificate = .ok () ↔ self.PanelValid certificate := by
  simp only [validatePanelCertificate, check_bind_eq_ok, orReject_bind_eq_ok,
    validateTargetAndGeneration_ok, rejectIf_eq_ok, validatePanelRecovery_ok, not_lt]
  constructor
  · rintro ⟨⟨target, generation⟩, activation, found, activated, recovered, eligible⟩
    exact ⟨target, generation, ⟨activation, found, activated⟩, recovered, eligible⟩
  · rintro ⟨target, generation, ⟨activation, found, activated⟩, recovered, eligible⟩
    exact ⟨⟨target, generation⟩, activation, found, activated, recovered, eligible⟩

theorem validateGatewayReady_ok (attestation : GatewayReadyAttestationV1) :
    self.validateGatewayReady attestation = .ok () ↔ self.GatewayValid attestation := by
  simp only [validateGatewayReady, check_bind_eq_ok, orReject_bind_eq_ok, validateTargetAndGeneration_ok,
    rejectIf_eq_ok, not_not, gatewayValid_iff, and_assoc]

/-- The guard of a command names the current revision, generation and running lease. -/
@[mk_iff]
structure Guarded (deployment : RuntimeDeployment) (guard : CommandGuardV1) : Prop where
  revision : guard.expectedRevision = deployment.revision
  generation : guard.runtimeGeneration = deployment.runtimeGeneration
  lease : ∃ lease, deployment.controllerLease = some lease ∧ guard.now < lease.expiresAt ∧
    lease.controllerId = guard.controllerId ∧ lease.fencingToken = guard.fencingToken

theorem requireGuard_ok (guard : CommandGuardV1) :
    self.requireGuard guard = .ok () ↔ self.Guarded guard := by
  simp only [requireGuard, requireRevision, check_bind_eq_ok, orReject_bind_eq_ok, rejectIf_eq_ok,
    not_not, not_le, guarded_iff]

/-- What a lease request must satisfy before its lease is installed. -/
@[mk_iff]
structure LeaseAdmissible (deployment : RuntimeDeployment) (request : LeaseRequestV1) : Prop where
  revision : request.expectedRevision = deployment.revision
  running : deployment.phase.isTerminal = false
  window : request.now < request.expiresAt
  requested : deployment.requestedAt ≤ request.now
  held : ∀ lease, deployment.controllerLease = some lease → request.now < lease.expiresAt →
    lease.controllerId = request.controllerId ∧ lease.acquiredAt ≤ request.now ∧
      lease.expiresAt < request.expiresAt
  fenced : ∀ token, deployment.lastFencingToken = some token → token < request.fencingToken

theorem validateHeldLease_ok (request : LeaseRequestV1) :
    self.validateHeldLease request = .ok () ↔ ∀ lease, self.controllerLease = some lease →
      request.now < lease.expiresAt → lease.controllerId = request.controllerId ∧
        lease.acquiredAt ≤ request.now ∧ lease.expiresAt < request.expiresAt := by
  unfold validateHeldLease
  cases self.controllerLease with
  | none => simp
  | some lease =>
    by_cases running : request.now < lease.expiresAt
    · simp [running]
    · simp [running]

theorem validateLeaseRequest_ok (request : LeaseRequestV1) :
    self.validateLeaseRequest request = .ok () ↔ self.LeaseAdmissible request := by
  have fencedIff : (self.lastFencingToken.any fun token => decide (request.fencingToken ≤ token)) = true ↔
      ¬∀ token, self.lastFencingToken = some token → token < request.fencingToken := by
    cases self.lastFencingToken <;> simp [← Counter.not_le]
  simp only [validateLeaseRequest, requireRevision, check_bind_eq_ok, rejectIf_eq_ok, validateHeldLease_ok,
    fencedIff, not_not, not_le, not_lt, Bool.not_eq_true, leaseAdmissible_iff]

@[mk_iff]
structure SupersessionValid (deployment : RuntimeDeployment) (successor : SupersedingDeploymentV1)
    (reason : String) (supersededAt : DateTime) : Prop where
  reason : validateReason reason = .ok ()
  generation : deployment.runtimeGeneration < successor.runtimeGeneration
  distinct : successor.identity.deploymentId ≠ deployment.identity.deploymentId
  scope : successor.identity.sameProductScope deployment.identity
  slot : successor.target.sameSlot deployment.target
  requested : deployment.requestedAt ≤ supersededAt

theorem validateSupersession_ok (successor : SupersedingDeploymentV1) (reason : String)
    (supersededAt : DateTime) :
    self.validateSupersession successor reason supersededAt = .ok () ↔
      self.SupersessionValid successor reason supersededAt := by
  simp only [validateSupersession, check_bind_eq_ok, rejectIf_eq_ok, Counter.not_le, not_not, not_lt,
    supersessionValid_iff]

/-- A recorded failure is well formed and later than the evidence it was recorded against. -/
structure FailureValid (deployment : RuntimeDeployment) (disposition : RuntimeFailureDispositionV1) : Prop where
  wellFormed : validateFailure disposition.failure = .ok ()
  requested : deployment.requestedAt ≤ disposition.failure.recordedAt
  activated : ∃ activation, deployment.activation = some activation ∧
    activation.activatedAt ≤ disposition.failure.recordedAt
  recovered : deployment.failureIsCurrent disposition = true → ∀ recovery, deployment.lastLiveRecovery = some recovery →
    recovery.recoveredAt ≤ disposition.failure.recordedAt
  retry : ∀ retryAt, disposition.retryNotBefore = some retryAt → disposition.failure.recordedAt ≤ retryAt

/-- The floor lies at or below a time exactly when the activation and any recovery do. -/
theorem runtimeEvidenceFloor_all (time : DateTime) :
    (self.runtimeEvidenceFloor.all fun floor => decide (time < floor)) = false ↔
      (∃ activation, self.activation = some activation ∧ activation.activatedAt ≤ time) ∧
        ∀ recovery, self.lastLiveRecovery = some recovery → recovery.recoveredAt ≤ time := by
  unfold runtimeEvidenceFloor
  cases self.activation <;> cases self.lastLiveRecovery <;> simp

theorem snapshotFailure_ok : self.snapshotFailure = .ok () ↔
    ∀ disposition, self.lastRuntimeFailure = some disposition → self.FailureValid disposition := by
  unfold snapshotFailure
  cases recorded : self.lastRuntimeFailure with
  | none => simp
  | some disposition =>
    have retryIff : (disposition.retryNotBefore.any fun retryAt =>
        decide (retryAt < disposition.failure.recordedAt)) = false ↔
        ∀ retryAt, disposition.retryNotBefore = some retryAt → disposition.failure.recordedAt ≤ retryAt := by
      cases disposition.retryNotBefore <;> simp
    simp only [rejectIf_eq_ok, not_or, Bool.not_eq_true, Bool.not_eq_false, accepts_eq_true, not_lt, retryIff,
      Option.some.injEq, forall_eq']
    by_cases current : self.failureIsCurrent disposition = true
    · rw [if_pos current, runtimeEvidenceFloor_all]
      constructor
      · intro checked
        obtain ⟨wellFormed, requested, ⟨activated, recovered⟩, retry⟩ := checked
        exact ⟨wellFormed, requested, activated, fun _ => recovered, retry⟩
      · intro valid
        exact ⟨valid.wellFormed, valid.requested, ⟨valid.activated, valid.recovered current⟩, valid.retry⟩
    · rw [if_neg current]
      have floorIff : ((self.activation.map fun activation => activation.activatedAt).all fun floor =>
          decide (disposition.failure.recordedAt < floor)) = false ↔ ∃ activation,
          self.activation = some activation ∧ activation.activatedAt ≤ disposition.failure.recordedAt := by
        cases self.activation <;> simp
      rw [floorIff]
      constructor
      · intro checked
        obtain ⟨wellFormed, requested, activated, retry⟩ := checked
        exact ⟨wellFormed, requested, activated, fun now => absurd now current, retry⟩
      · intro valid
        exact ⟨valid.wellFormed, valid.requested, valid.activated, valid.retry⟩

/-- The Live attestation repeats the evidence it was certified from. -/
structure LiveValid (deployment : RuntimeDeployment) (live : LiveAttestationV1) : Prop where
  target : live.target = deployment.target
  generation : live.runtimeGeneration = deployment.runtimeGeneration
  activation : deployment.activation = some live.activation
  panel : deployment.panelCertificate = some live.panelCertificate
  gateway : deployment.gatewayReady = some live.gatewayReady
  process : live.processInstanceId = live.gatewayReady.processInstanceId
  certified : live.gatewayReady.readyAt ≤ live.certifiedAt

theorem snapshotLive_ok : self.snapshotLive = .ok () ↔
    ∀ live, self.live = some live → self.LiveValid live := by
  unfold snapshotLive
  cases self.live with
  | none => simp
  | some live =>
    simp only [rejectIf_eq_ok, not_or, not_not, not_lt, Option.some.injEq, forall_eq']
    constructor
    · rintro ⟨-, target, generation, activation, panel, gateway, process, certified⟩
      exact ⟨target, generation, activation, panel, gateway, process, certified⟩
    · rintro ⟨target, generation, activation, panel, gateway, process, certified⟩
      exact ⟨by simp [gateway], target, generation, activation, panel, gateway, process, certified⟩

/-- A lost Live is kept whole as recovery evidence, with a complete timeline of its own. -/
@[mk_iff]
structure RecoveryValid (deployment : RuntimeDeployment) (recovery : LiveRecoveryAttestationV1) : Prop where
  phase : deployment.recoveryPhaseValid = true
  target : recovery.priorLive.target = deployment.target
  generation : recovery.priorLive.runtimeGeneration = deployment.runtimeGeneration
  activation : deployment.activation = some recovery.priorLive.activation
  panelTarget : recovery.priorLive.panelCertificate.target = deployment.target
  panelGeneration : recovery.priorLive.panelCertificate.runtimeGeneration = deployment.runtimeGeneration
  gatewayTarget : recovery.priorLive.gatewayReady.target = deployment.target
  gatewayGeneration : recovery.priorLive.gatewayReady.runtimeGeneration = deployment.runtimeGeneration
  panelProcess : recovery.priorLive.processInstanceId = recovery.priorLive.panelCertificate.processInstanceId
  gatewayProcess : recovery.priorLive.processInstanceId = recovery.priorLive.gatewayReady.processInstanceId
  reconciled : recovery.priorLive.activation.activatedAt ≤ recovery.priorLive.panelCertificate.reconciledAt
  ready : recovery.priorLive.panelCertificate.reconciledAt ≤ recovery.priorLive.gatewayReady.readyAt
  certified : recovery.priorLive.gatewayReady.readyAt ≤ recovery.priorLive.certifiedAt
  eligible : validatePanelEligibility recovery.priorLive.panelCertificate = .ok ()
  lost : recovery.priorLive.certifiedAt ≤ recovery.evidenceAt
  recovered : recovery.evidenceAt ≤ recovery.recoveredAt
  live : ∀ live, deployment.live = some live → recovery.recoveredAt ≤ live.certifiedAt

theorem snapshotRecovery_ok : self.snapshotRecovery = .ok () ↔
    ∀ recovery, self.lastLiveRecovery = some recovery → self.RecoveryValid recovery := by
  unfold snapshotRecovery
  cases self.lastLiveRecovery with
  | none => simp
  | some recovery =>
    have liveIff : (self.live.any fun live => decide (live.certifiedAt < recovery.recoveredAt)) = false ↔
        ∀ live, self.live = some live → recovery.recoveredAt ≤ live.certifiedAt := by
      cases self.live <;> simp
    simp only [rejectIf_eq_ok, not_or, not_not, not_lt, Bool.not_eq_true, Bool.not_eq_false, accepts_eq_true,
      liveIff, recoveryValid_iff, Option.some.injEq, forall_eq']

/-- The lease on a deployment carries the last fencing token and never survives the end of the run. -/
structure LeaseValid (deployment : RuntimeDeployment) (lease : ControllerLeaseV1) : Prop where
  token : deployment.lastFencingToken = some lease.fencingToken
  window : lease.acquiredAt < lease.expiresAt
  running : deployment.phase.isTerminal = false
  requested : deployment.requestedAt ≤ lease.acquiredAt

theorem snapshotLease_ok : self.snapshotLease = .ok () ↔
    ∀ lease, self.controllerLease = some lease → self.LeaseValid lease := by
  unfold snapshotLease
  cases self.controllerLease with
  | none => simp
  | some lease =>
    cases lastToken : self.lastFencingToken with
    | none =>
      simp only [check_bind_eq_ok, reduceCtorEq, false_and, Option.some.injEq, forall_eq', false_iff]
      intro valid
      simpa [lastToken] using valid.token
    | some last =>
      simp only [check_bind_eq_ok, rejectIf_eq_ok, not_not, not_lt, Option.isSome_some, and_true,
        Bool.not_eq_true, Option.some.injEq, forall_eq']
      constructor
      · rintro ⟨⟨token, window⟩, running, requested⟩
        exact ⟨by rw [lastToken, token], window, running, requested⟩
      · rintro ⟨token, window, running, requested⟩
        exact ⟨⟨(Option.some.inj (lastToken.symm.trans token)).symm, window⟩, running, requested⟩

/-- The invariant of a deployment: what `validateSnapshot` accepts. -/
@[mk_iff]
structure Valid (deployment : RuntimeDeployment) : Prop where
  previous : ∀ previous, deployment.previousRuntime = some previous →
    deployment.target.sameSlot previous.target ∧ previous.runtimeGeneration < deployment.runtimeGeneration
  lease : ∀ lease, deployment.controllerLease = some lease → deployment.LeaseValid lease
  failure : ∀ disposition, deployment.lastRuntimeFailure = some disposition → deployment.FailureValid disposition
  preflight : ∀ attestation, deployment.preflight = some attestation → deployment.PreflightValid attestation
  drain : ∀ attestation, deployment.drain = some attestation → deployment.DrainValid attestation
  activation : ∀ attestation, deployment.activation = some attestation → deployment.ActivationValid attestation
  panel : ∀ certificate, deployment.panelCertificate = some certificate → deployment.PanelValid certificate
  gateway : ∀ attestation, deployment.gatewayReady = some attestation → deployment.GatewayValid attestation
  live : ∀ live, deployment.live = some live → deployment.LiveValid live
  recovery : ∀ recovery, deployment.lastLiveRecovery = some recovery → deployment.RecoveryValid recovery
  phase : deployment.phaseEvidenceValid = true

theorem snapshotPrevious_ok : self.snapshotPrevious = .ok () ↔
    ∀ previous, self.previousRuntime = some previous →
      self.target.sameSlot previous.target ∧ previous.runtimeGeneration < self.runtimeGeneration := by
  unfold snapshotPrevious
  cases self.previousRuntime <;> simp [Counter.not_le]

theorem snapshotEvidence_ok {α β : Type} (evidence : Option α) (predecessor : Option β)
    (validate : α → Except RuntimeDeploymentError Unit) (valid : α → Prop)
    (validateIff : ∀ attestation, validate attestation = .ok () ↔ valid attestation)
    (chained : ∀ attestation, valid attestation → predecessor.isNone = false) :
    snapshotEvidence evidence predecessor validate = .ok () ↔
      ∀ attestation, evidence = some attestation → valid attestation := by
  cases evidence with
  | none => simp [snapshotEvidence]
  | some attestation =>
    simp only [snapshotEvidence, check_bind_eq_ok, rejectIf_eq_ok, mapError_eq_ok, validateIff,
      Bool.not_eq_true, Option.some.injEq, forall_eq']
    exact ⟨fun both => both.2, fun accepted => ⟨chained attestation accepted, accepted⟩⟩

/-- The snapshot validator accepts exactly the valid deployments. -/
theorem validateSnapshot_ok : self.validateSnapshot = .ok () ↔ self.Valid := by
  have preflight := snapshotEvidence_ok self.preflight (some ()) self.validatePreflight _
    validatePreflight_ok (fun _ _ => rfl)
  have drain := snapshotEvidence_ok self.drain self.preflight self.validateDrain _ validateDrain_ok
    (fun _ valid => by obtain ⟨_, found, _⟩ := valid.checked; simp [found])
  have activation := snapshotEvidence_ok self.activation self.drain self.validateActivation _
    validateActivation_ok (fun _ valid => by obtain ⟨_, found, _⟩ := valid.drained; simp [found])
  have panel := snapshotEvidence_ok self.panelCertificate self.activation self.validatePanelCertificate _
    validatePanelCertificate_ok (fun _ valid => by obtain ⟨_, found, _⟩ := valid.activated; simp [found])
  have gateway := snapshotEvidence_ok self.gatewayReady self.panelCertificate self.validateGatewayReady _
    validateGatewayReady_ok (fun _ valid => by obtain ⟨_, found, _⟩ := valid.process; simp [found])
  simp only [validateSnapshot, check_bind_eq_ok, snapshotPrevious_ok, snapshotLease_ok, snapshotFailure_ok,
    preflight, drain, activation, panel, gateway, snapshotLive_ok, snapshotRecovery_ok, validatePhaseEvidence,
    rejectIf_eq_ok, Bool.not_eq_false, valid_iff]

theorem restore_eq_ok (saved : RuntimeDeploymentSnapshotV1) (deployment : RuntimeDeployment) :
    restore saved = .ok deployment ↔ deployment = ofSnapshot saved ∧ deployment.Valid := by
  simp only [restore, check_bind_eq_ok, pure_eq_ok, validateSnapshot_ok]
  constructor
  · rintro ⟨valid, rfl⟩
    exact ⟨rfl, valid⟩
  · rintro ⟨rfl, valid⟩
    exact ⟨valid, rfl⟩

theorem restore_snapshot : restore self.snapshot = .ok self ↔ self.Valid := by
  simp [restore_eq_ok]

end RuntimeDeployment

end Starring.Convergence
