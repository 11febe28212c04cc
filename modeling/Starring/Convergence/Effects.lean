import Starring.Convergence.Evidence

/-! What one call can do. `Effect` lists, call by call, the conditions under which
the call writes and the deployment it writes, before the revision is bumped. Every
invariant of a run is proved from it. -/

namespace Starring.Convergence
open Foundation RuntimeDeployment RuntimeDeployment

namespace RuntimeDeployment
variable {self : RuntimeDeployment}

/-- A runtime failure can be recorded while the runtime is being brought up. -/
def BringingUp (self : RuntimeDeployment) : Prop :=
  self.phase = .runtimePending .ready ∨ self.phase = .reconcilingPanels ∨ self.phase = .awaitingGatewayReady

theorem requireRuntimeFailurePhase_ok (operation : String) :
    self.requireRuntimeFailurePhase operation = .ok () ↔ self.BringingUp := by
  unfold requireRuntimeFailurePhase BringingUp
  cases self.phase with
  | runtimePending condition => cases condition <;> simp
  | _ => simp

/-- Time and condition allow a lease: no blocked failure, no retry still to wait for. -/
structure NotWaiting (deployment : RuntimeDeployment) (now : DateTime) : Prop where
  unblocked : ∀ failure, deployment.phase ≠ .runtimePending (.blocked failure)
  due : ∀ failure attempt retryNotBefore,
    deployment.phase = .runtimePending (.retryable failure attempt retryNotBefore) → retryNotBefore ≤ now

theorem refuseWhileWaiting_ok (now : DateTime) :
    self.refuseWhileWaiting now = .ok () ↔ self.NotWaiting now := by
  unfold refuseWhileWaiting
  cases pending : self.phase with
  | runtimePending condition =>
    cases condition with
    | ready => simpa using ⟨by simp [pending], by simp [pending]⟩
    | retryable failure attempt retryNotBefore =>
      simp only [rejectIf_eq_ok, not_lt]
      refine ⟨fun due => ⟨by simp [pending], ?_⟩, fun waiting => waiting.due _ _ _ pending⟩
      intro other otherAttempt otherTime same
      rw [pending] at same
      cases same
      exact due
    | blocked failure =>
      simp only [reduceCtorEq, false_iff]
      exact fun waiting => waiting.unblocked failure pending
  | _ => simpa using ⟨by simp [pending], by simp [pending]⟩

theorem isBlockedOn_iff (expected : RuntimeFailureId) :
    self.isBlockedOn expected = true ↔
      ∃ failure, self.phase = .runtimePending (.blocked failure) ∧ failure.failureId = expected := by
  unfold isBlockedOn
  cases self.phase with
  | runtimePending condition => cases condition <;> simp
  | _ => simp

theorem exactFailure_iff (expected : RuntimeFailureId) :
    self.exactFailure expected = true ↔
      ∃ failure, self.lastRuntimeFailure = some (.blocked failure) ∧ failure.failureId = expected := by
  unfold exactFailure
  cases self.lastRuntimeFailure with
  | none => simp
  | some disposition => cases disposition <;> simp

theorem requirePhase_ok (expected : RuntimeDeploymentPhaseKindV1) (operation : String) :
    self.requirePhase expected operation = .ok () ↔ self.phase.kind = expected := by
  simp [requirePhase]

end RuntimeDeployment

namespace RuntimeDeploymentPhaseV1
variable (phase : RuntimeDeploymentPhaseV1)

@[simp] theorem kind_eq_requested : phase.kind = .requested ↔ phase = .requested := by
  cases phase <;> simp [kind]
@[simp] theorem kind_eq_preflightReady : phase.kind = .preflightReady ↔ phase = .preflightReady := by
  cases phase <;> simp [kind]
@[simp] theorem kind_eq_drainRequested : phase.kind = .drainRequested ↔ phase = .drainRequested := by
  cases phase <;> simp [kind]
@[simp] theorem kind_eq_drained : phase.kind = .drained ↔ phase = .drained := by
  cases phase <;> simp [kind]
@[simp] theorem kind_eq_activationApplying : phase.kind = .activationApplying ↔ phase = .activationApplying := by
  cases phase <;> simp [kind]
@[simp] theorem kind_eq_runtimePending :
    phase.kind = .runtimePending ↔ ∃ condition, phase = .runtimePending condition := by
  cases phase <;> simp [kind]
@[simp] theorem kind_eq_reconcilingPanels : phase.kind = .reconcilingPanels ↔ phase = .reconcilingPanels := by
  cases phase <;> simp [kind]
@[simp] theorem kind_eq_awaitingGatewayReady :
    phase.kind = .awaitingGatewayReady ↔ phase = .awaitingGatewayReady := by
  cases phase <;> simp [kind]
@[simp] theorem kind_eq_live : phase.kind = .live ↔ phase = .live := by
  cases phase <;> simp [kind]

end RuntimeDeploymentPhaseV1

/-- The writes of a call that passed its checks. -/
inductive Effect (self : RuntimeDeployment) : Call → RuntimeDeployment → Prop where
  | acquireLease (request : LeaseRequestV1)
      (waiting : self.NotWaiting request.now) (admissible : self.LeaseAdmissible request) :
      Effect self (.acquireLease request) (self.installLease request)
  | recoverBlocked (request : RecoverBlockedRequestV1) (failure recorded : RuntimeFailureV1)
      (blocked : self.phase = .runtimePending (.blocked failure))
      (named : failure.failureId = request.expectedFailureId) (unleased : self.controllerLease = none)
      (onRecord : self.lastRuntimeFailure = some (.blocked recorded))
      (recordedNamed : recorded.failureId = request.expectedFailureId)
      (admissible : self.LeaseAdmissible request.lease) :
      Effect self (.recoverBlocked request)
        { self.installLease request.lease with phase := .runtimePending .ready }
  | acceptPreflight (guard : CommandGuardV1) (attestation : PreflightAttestationV1)
      (guarded : self.Guarded guard) (phase : self.phase = .requested)
      (valid : self.PreflightValid attestation) :
      Effect self (.acceptPreflight guard attestation)
        { self with preflight := some attestation, phase := .preflightReady }
  | requestDrain (guard : CommandGuardV1) (guarded : self.Guarded guard) (phase : self.phase = .preflightReady) :
      Effect self (.requestDrain guard) { self with phase := .drainRequested }
  | acceptDrain (guard : CommandGuardV1) (attestation : DrainAttestationV1)
      (guarded : self.Guarded guard) (phase : self.phase = .drainRequested)
      (valid : self.DrainValid attestation) :
      Effect self (.acceptDrain guard attestation) { self with drain := some attestation, phase := .drained }
  | beginActivation (guard : CommandGuardV1) (guarded : self.Guarded guard) (phase : self.phase = .drained) :
      Effect self (.beginActivation guard) { self with phase := .activationApplying }
  | acceptActivation (guard : CommandGuardV1) (attestation : ActivationAttestationV1)
      (guarded : self.Guarded guard) (phase : self.phase = .activationApplying)
      (valid : self.ActivationValid attestation) :
      Effect self (.acceptActivation guard attestation)
        { self with activation := some attestation, phase := .runtimePending .ready }
  | recordRetryableFailure (guard : CommandGuardV1) (failure : RuntimeFailureV1) (attempt : NonZeroU32)
      (retryNotBefore : DateTime) (guarded : self.Guarded guard) (phase : self.BringingUp)
      (wellFormed : validateFailure failure = .ok ())
      (retry : failure.recordedAt ≤ retryNotBefore)
      (activated : ∃ activation, self.activation = some activation ∧
        activation.activatedAt ≤ failure.recordedAt)
      (recovered : ∀ recovery, self.lastLiveRecovery = some recovery →
        recovery.recoveredAt ≤ failure.recordedAt) :
      Effect self (.recordRetryableFailure guard failure attempt retryNotBefore)
        { self.clearUnacceptedRuntimeEvidence with
          lastRuntimeFailure := some (.retryable failure attempt retryNotBefore)
          controllerLease := none
          phase := .runtimePending (.retryable failure attempt retryNotBefore) }
  | recordBlockedFailure (guard : CommandGuardV1) (failure : RuntimeFailureV1)
      (guarded : self.Guarded guard) (phase : self.BringingUp)
      (wellFormed : validateFailure failure = .ok ())
      (activated : ∃ activation, self.activation = some activation ∧
        activation.activatedAt ≤ failure.recordedAt)
      (recovered : ∀ recovery, self.lastLiveRecovery = some recovery →
        recovery.recoveredAt ≤ failure.recordedAt) :
      Effect self (.recordBlockedFailure guard failure)
        { self.clearUnacceptedRuntimeEvidence with
          lastRuntimeFailure := some (.blocked failure)
          controllerLease := none
          phase := .runtimePending (.blocked failure) }
  | resumeRuntimePending (guard : CommandGuardV1) (condition : RuntimePendingConditionV1)
      (guarded : self.Guarded guard) (phase : self.phase = .runtimePending condition) :
      Effect self (.resumeRuntimePending guard) { self with phase := .runtimePending .ready }
  | beginPanelReconciliation (guard : CommandGuardV1) (guarded : self.Guarded guard)
      (phase : self.phase = .runtimePending .ready) :
      Effect self (.beginPanelReconciliation guard) { self with phase := .reconcilingPanels }
  | acceptPanelCertificate (guard : CommandGuardV1) (certificate : PanelCertificateV1)
      (guarded : self.Guarded guard) (phase : self.phase = .reconcilingPanels)
      (valid : self.PanelValid certificate) :
      Effect self (.acceptPanelCertificate guard certificate)
        { self with panelCertificate := some certificate, phase := .awaitingGatewayReady }
  | certifyLive (guard : CommandGuardV1) (gatewayReady : GatewayReadyAttestationV1) (certifiedAt : DateTime)
      (activation : ActivationAttestationV1) (panelCertificate : PanelCertificateV1)
      (guarded : self.Guarded guard) (phase : self.phase = .awaitingGatewayReady)
      (valid : self.GatewayValid gatewayReady) (activated : self.activation = some activation)
      (certificated : self.panelCertificate = some panelCertificate)
      (ready : panelCertificate.reconciledAt ≤ gatewayReady.readyAt)
      (certified : gatewayReady.readyAt ≤ certifiedAt) :
      Effect self (.certifyLive guard gatewayReady certifiedAt)
        { self with
          gatewayReady := some gatewayReady
          live := some
            { target := self.target, runtimeGeneration := self.runtimeGeneration,
              processInstanceId := gatewayReady.processInstanceId, activation, panelCertificate,
              gatewayReady, certifiedAt }
          controllerLease := none
          phase := .live }
  | recoverLive (request : RecoverLiveRequestV1) (priorLive : LiveAttestationV1)
      (revision : request.expectedRevision = self.revision) (phase : self.phase = .live)
      (generation : request.expectedRuntimeGeneration = self.runtimeGeneration)
      (found : self.live = some priorLive)
      (process : priorLive.processInstanceId = request.expectedProcessInstanceId)
      (lost : priorLive.certifiedAt ≤ request.evidenceAt) (recovered : request.evidenceAt ≤ request.recoveredAt) :
      Effect self (.recoverLive request)
        { self.clearUnacceptedRuntimeEvidence with
          lastLiveRecovery := some
            { priorLive, kind := request.kind, evidenceAt := request.evidenceAt,
              recoveredAt := request.recoveredAt }
          phase := .runtimePending .ready }
  | supersede (guard : CommandGuardV1) (successor : SupersedingDeploymentV1) (reason : String)
      (supersededAt : DateTime) (guarded : self.Guarded guard) (running : self.phase.isTerminal = false)
      (valid : self.SupersessionValid successor reason supersededAt) :
      Effect self (.supersede guard successor reason supersededAt)
        { self with phase := .superseded successor reason supersededAt, controllerLease := none }
  | cancel (guard : CommandGuardV1) (reason : String) (cancelledAt : DateTime)
      (guarded : self.Guarded guard) (early : isCancellable self.phase.kind = true)
      (reasonValid : validateReason reason = .ok ())
      (requested : self.requestedAt ≤ cancelledAt) :
      Effect self (.cancel guard reason cancelledAt)
        { self with phase := .cancelled reason cancelledAt, controllerLease := none }
  | supersedeAwaiting (permit : ProductDrainSourceSupersessionPermitV1) (successor : SupersedingDeploymentV1)
      (reason : String) (supersededAt : DateTime) (valid : self.Valid)
      (phase : self.phase = .awaitingGatewayReady)
      (supersession : self.SupersessionValid successor reason supersededAt) :
      Effect self (.supersedeProductDrainSource permit successor reason supersededAt)
        { self with controllerLease := none, phase := .superseded successor reason supersededAt }
  | supersedeLive (permit : ProductDrainSourceSupersessionPermitV1) (successor : SupersedingDeploymentV1)
      (reason : String) (supersededAt : DateTime) (priorLive : LiveAttestationV1) (valid : self.Valid)
      (phase : self.phase = .live) (found : self.live = some priorLive)
      (acknowledged : priorLive.certifiedAt ≤ permit.acknowledgedAt)
      (superseded : permit.acknowledgedAt ≤ supersededAt)
      (supersession : self.SupersessionValid successor reason supersededAt)
      (ready : priorLive.panelCertificate.reconciledAt ≤ priorLive.gatewayReady.readyAt) :
      Effect self (.supersedeProductDrainSource permit successor reason supersededAt)
        { self with
          live := none
          lastLiveRecovery := some
            { priorLive, kind := .servingDisconnected, evidenceAt := permit.acknowledgedAt,
              recoveredAt := supersededAt }
          panelCertificate := none
          gatewayReady := none
          controllerLease := none
          phase := .superseded successor reason supersededAt }
  | cancelDrain (permit : ProductDrainSourceCancellationPermitV1) (cancelledAt : DateTime)
      (valid : self.Valid) (phase : self.phase = .awaitingGatewayReady ∨ self.phase = .live) :
      Effect self (.cancelProductDrainSource permit cancelledAt) self

theorem Effect.frame {self written : RuntimeDeployment} {call : Call} (effect : Effect self call written) :
    written.identity = self.identity ∧ written.target = self.target ∧
      written.runtimeGeneration = self.runtimeGeneration ∧ written.previousRuntime = self.previousRuntime ∧
      written.requestedAt = self.requestedAt ∧ written.revision = self.revision := by
  cases effect <;> exact ⟨rfl, rfl, rfl, rfl, rfl, rfl⟩

section
open RuntimeDeployment

/-- What a retryable command writes is an effect of its call. -/
theorem effect_of_write {call : Call} {transition : Transition} {self written : RuntimeDeployment}
    (found : call.transition = some transition) (wrote : transition.write self = .ok written) :
    Effect self call written := by
  cases call with
  | acquireLease request =>
    cases found
    simp only [acquireLease, check_bind_eq_ok, refuseWhileWaiting_ok, validateLeaseRequest_ok, pure_eq_ok] at wrote
    obtain ⟨waiting, admissible, rfl⟩ := wrote
    exact .acquireLease request waiting admissible
  | recoverBlocked request =>
    cases found
    simp only [recoverBlocked, requireRevision, check_bind_eq_ok, rejectIf_eq_ok, validateLeaseRequest_ok,
      pure_eq_ok, not_or, Bool.not_eq_false, Bool.not_eq_true, isBlockedOn_iff, exactFailure_iff,
      Option.isSome_eq_false_iff, Option.isNone_iff_eq_none] at wrote
    obtain ⟨-, ⟨failure, blocked, named⟩, ⟨unleased, recorded, onRecord, recordedNamed⟩, admissible, rfl⟩ := wrote
    exact .recoverBlocked request failure recorded blocked named unleased onRecord recordedNamed admissible
  | acceptPreflight guard attestation =>
    cases found
    simp only [acceptPreflight, check_bind_eq_ok, requireGuard_ok, requirePhase_ok, validatePreflight_ok, pure_eq_ok,
      RuntimeDeploymentPhaseV1.kind_eq_requested] at wrote
    obtain ⟨guarded, phase, valid, rfl⟩ := wrote
    exact .acceptPreflight guard attestation guarded phase valid
  | requestDrain guard =>
    cases found
    simp only [requestDrain, check_bind_eq_ok, requireGuard_ok, requirePhase_ok, pure_eq_ok,
      RuntimeDeploymentPhaseV1.kind_eq_preflightReady] at wrote
    obtain ⟨guarded, phase, rfl⟩ := wrote
    exact .requestDrain guard guarded phase
  | acceptDrain guard attestation =>
    cases found
    simp only [acceptDrain, check_bind_eq_ok, requireGuard_ok, requirePhase_ok, validateDrain_ok, pure_eq_ok,
      RuntimeDeploymentPhaseV1.kind_eq_drainRequested] at wrote
    obtain ⟨guarded, phase, valid, rfl⟩ := wrote
    exact .acceptDrain guard attestation guarded phase valid
  | beginActivation guard =>
    cases found
    simp only [beginActivation, check_bind_eq_ok, requireGuard_ok, requirePhase_ok, pure_eq_ok,
      RuntimeDeploymentPhaseV1.kind_eq_drained] at wrote
    obtain ⟨guarded, phase, rfl⟩ := wrote
    exact .beginActivation guard guarded phase
  | acceptActivation guard attestation =>
    cases found
    simp only [acceptActivation, check_bind_eq_ok, requireGuard_ok, requirePhase_ok, validateActivation_ok,
      pure_eq_ok, RuntimeDeploymentPhaseV1.kind_eq_activationApplying] at wrote
    obtain ⟨guarded, phase, valid, rfl⟩ := wrote
    exact .acceptActivation guard attestation guarded phase valid
  | recordRetryableFailure guard failure attempt retryNotBefore =>
    cases found
    simp only [recordRetryableFailure, check_bind_eq_ok, requireGuard_ok, requireRuntimeFailurePhase_ok,
      rejectIf_eq_ok, pure_eq_ok, not_or, not_lt, Bool.not_eq_true, runtimeEvidenceFloor_all] at wrote
    obtain ⟨guarded, phase, wellFormed, ⟨retry, activated, recovered⟩, rfl⟩ := wrote
    exact .recordRetryableFailure guard failure attempt retryNotBefore guarded phase wellFormed retry
      activated recovered
  | recordBlockedFailure guard failure =>
    cases found
    simp only [recordBlockedFailure, check_bind_eq_ok, requireGuard_ok, requireRuntimeFailurePhase_ok,
      rejectIf_eq_ok, pure_eq_ok, Bool.not_eq_true, runtimeEvidenceFloor_all] at wrote
    obtain ⟨guarded, phase, wellFormed, ⟨activated, recovered⟩, rfl⟩ := wrote
    exact .recordBlockedFailure guard failure guarded phase wellFormed activated recovered
  | resumeRuntimePending guard =>
    cases found
    simp only [resumeRuntimePending, check_bind_eq_ok, requireGuard_ok, requirePhase_ok, pure_eq_ok,
      RuntimeDeploymentPhaseV1.kind_eq_runtimePending] at wrote
    obtain ⟨guarded, ⟨condition, phase⟩, rfl⟩ := wrote
    exact .resumeRuntimePending guard condition guarded phase
  | beginPanelReconciliation guard =>
    cases found
    simp only [beginPanelReconciliation, check_bind_eq_ok, requireGuard_ok] at wrote
    obtain ⟨guarded, wrote⟩ := wrote
    split at wrote
    · next phase =>
      cases wrote
      exact .beginPanelReconciliation guard guarded phase
    · cases wrote
  | acceptPanelCertificate guard certificate =>
    cases found
    simp only [acceptPanelCertificate, check_bind_eq_ok, requireGuard_ok, requirePhase_ok,
      validatePanelCertificate_ok, pure_eq_ok, RuntimeDeploymentPhaseV1.kind_eq_reconcilingPanels] at wrote
    obtain ⟨guarded, phase, valid, rfl⟩ := wrote
    exact .acceptPanelCertificate guard certificate guarded phase valid
  | certifyLive guard gatewayReady certifiedAt =>
    cases found
    simp only [certifyLive, check_bind_eq_ok, orReject_bind_eq_ok, requireGuard_ok, requirePhase_ok,
      validateGatewayReady_ok, rejectIf_eq_ok, not_or, not_lt, pure_eq_ok,
      RuntimeDeploymentPhaseV1.kind_eq_awaitingGatewayReady] at wrote
    obtain ⟨guarded, phase, valid, activation, activated, panel, certificated, ⟨ready, certified⟩, rfl⟩ := wrote
    exact .certifyLive guard gatewayReady certifiedAt activation panel guarded phase valid activated
      certificated ready certified
  | recoverLive request =>
    cases found
    simp only [recoverLive, requireRevision, check_bind_eq_ok, orReject_bind_eq_ok, requirePhase_ok,
      rejectIf_eq_ok, not_or, not_not, not_lt, pure_eq_ok, RuntimeDeploymentPhaseV1.kind_eq_live] at wrote
    obtain ⟨revision, phase, generation, live, found, process, ⟨lost, recovered⟩, rfl⟩ := wrote
    exact .recoverLive request live revision phase generation found process lost recovered
  | supersede guard successor reason supersededAt =>
    cases found
    simp only [supersede, check_bind_eq_ok, requireGuard_ok, rejectIf_eq_ok, validateSupersession_ok,
      Bool.not_eq_true, pure_eq_ok] at wrote
    obtain ⟨guarded, running, valid, rfl⟩ := wrote
    exact .supersede guard successor reason supersededAt guarded running valid
  | cancel guard reason cancelledAt =>
    cases found
    simp only [cancel, check_bind_eq_ok, requireGuard_ok, rejectIf_eq_ok, Bool.not_eq_false, not_lt, pure_eq_ok] at wrote
    obtain ⟨guarded, early, reasonValid, requested, rfl⟩ := wrote
    exact .cancel guard reason cancelledAt guarded early reasonValid requested
  | supersedeProductDrainSource | cancelProductDrainSource => cases found

end

theorem ProductDrainPermit.acknowledged {operation : String} (permit : ProductDrainPermit operation)
    {self : RuntimeDeployment} (same : self.snapshot = permit.source) :
    self.phase = .awaitingGatewayReady ∨
      (self.phase = .live ∧ ∃ live, self.live = some live ∧ live.certifiedAt ≤ permit.acknowledgedAt) := by
  obtain ⟨deployment, expectedRevision, issued⟩ := permit.issued
  simp only [validatedProductDrainSourceAcknowledgement, bind_eq_ok, orReject_eq_ok, rejectIf_eq_ok, not_lt,
    pure_eq_ok] at issued
  obtain ⟨-, -, -, floored, floor, rfl, -, acknowledged, snapshotted⟩ := issued
  obtain rfl : deployment = self := by
    have saved := congrArg ofSnapshot (snapshotted.trans same.symm)
    simpa using saved
  unfold drainEvidenceFloor at floored
  cases phase : deployment.phase with
  | awaitingGatewayReady => exact .inl rfl
  | live =>
    simp only [phase, Except.ok.injEq, Option.map_eq_some_iff] at floored
    obtain ⟨live, found, rfl⟩ := floored
    exact .inr ⟨rfl, live, found, acknowledged⟩
  | _ => simp [phase] at floored

theorem supersessionResult_effect {permit : ProductDrainSourceSupersessionPermitV1}
    {successor : SupersedingDeploymentV1} {reason : String} {supersededAt : DateTime}
    {self result : RuntimeDeployment} (same : self.snapshot = permit.source)
    (computed : permit.resultingDeployment successor reason supersededAt = .ok result) :
    ∃ written revision, Effect self (.supersedeProductDrainSource permit successor reason supersededAt) written ∧
      self.revision.next = .ok revision ∧ result = { written with revision } := by
  simp only [ProductDrainSourceSupersessionPermitV1.resultingDeployment, bind_eq_ok, ← same,
    restore_eq_ok, ofSnapshot_snapshot, mapError_eq_ok, rejectIf_eq_ok,
    not_lt] at computed
  obtain ⟨_, ⟨sourced, valid⟩, _, supersession, _, late, revision, next, retired, retire, rfl, restored⟩ := computed
  obtain rfl := sourced.symm
  have supersession := (validateSupersession_ok _ _ _).mp supersession
  rcases permit.acknowledged same with phase | ⟨phase, live, found, acknowledged⟩
  · have unchanged : retireLive { self.snapshot with revision } permit.acknowledgedAt supersededAt =
        .ok { self.snapshot with revision } := by
      simp [retireLive, snapshot, phase]
    cases unchanged.symm.trans retire
    exact ⟨_, revision, .supersedeAwaiting permit successor reason supersededAt valid phase supersession, next, rfl⟩
  · simp only [retireLive, snapshot, phase, found, orReject, bind, Except.bind, pure,
      Except.pure, Except.ok.injEq] at retire
    subst retire
    have recovery := restored.recovery _ rfl
    exact ⟨_, revision, .supersedeLive permit successor reason supersededAt live valid phase found acknowledged late
      supersession recovery.ready, next, rfl⟩

theorem cancellationResult_effect {permit : ProductDrainSourceCancellationPermitV1} {cancelledAt : DateTime}
    {self result : RuntimeDeployment} (same : self.snapshot = permit.source)
    (computed : permit.resultingDeployment cancelledAt = .ok result) :
    ∃ written revision, Effect self (.cancelProductDrainSource permit cancelledAt) written ∧
      self.revision.next = .ok revision ∧ result = { written with revision } := by
  simp only [ProductDrainSourceCancellationPermitV1.resultingDeployment, bind_eq_ok, ← same,
    restore_eq_ok, ofSnapshot_snapshot, mapError_eq_ok] at computed
  obtain ⟨source, ⟨rfl, valid⟩, -, -, revision, next, rfl, -⟩ := computed
  have phase := (permit.acknowledged same).imp id And.left
  exact ⟨_, revision, .cancelDrain permit cancelledAt valid phase, next, rfl⟩

/-- The ways a call ends. Only the last, a refused bump, moves the deployment without an `Ok`. -/
inductive Outcome (self : RuntimeDeployment) (call : Call) :
    Except RuntimeDeploymentError TransitionOutcomeV1 × RuntimeDeployment → Prop where
  | replayed : Outcome self call (.ok (.replayed self.revision), self)
  | refused (error : RuntimeDeploymentError) : Outcome self call (.error error, self)
  | applied (written : RuntimeDeployment) (revision : DeploymentRevision) (effect : Effect self call written)
      (next : self.revision.next = .ok revision) :
      Outcome self call (.ok (.applied revision), { written with revision })
  | overflowed (transition : Transition) (written : RuntimeDeployment)
      (retryable : call.transition = some transition) (fresh : transition.replays self = false)
      (effect : Effect self call written) (full : ¬self.revision.get + 1 < 2 ^ 64) :
      Outcome self call (.error .revisionOverflow, written)

theorem transition_outcome {call : Call} {transition : Transition} (self : RuntimeDeployment)
    (found : call.transition = some transition) : Outcome self call (transition.apply self) := by
  rcases Rule.run_cases replayed bumpRevision transition self with
    ⟨-, ran⟩ | ⟨error, -, -, ran⟩ | ⟨written, fresh, wrote, ran⟩
  all_goals unfold Transition.apply; rw [ran]
  · exact .replayed
  · exact .refused error
  · have effect := effect_of_write found wrote
    have revision : written.revision = self.revision := effect.frame.2.2.2.2.2
    unfold bumpRevision
    cases next : written.revision.next with
    | ok bumped => exact .applied written bumped effect (revision ▸ next)
    | error refusal =>
      have full : ¬self.revision.get + 1 < 2 ^ 64 := by
        rw [← revision, ← Counter.next_ok_iff]
        simp [next]
      exact .overflowed transition written found fresh effect full

theorem Call.exec_outcome (call : Call) (self : RuntimeDeployment) : Outcome self call (call.exec self) := by
  cases found : call.transition with
  | some transition =>
    rw [call.exec_transition self found]
    exact transition_outcome self found
  | none =>
    cases call with
    | supersedeProductDrainSource permit successor reason supersededAt =>
      show Outcome self _ (self.supersedeProductDrainSource permit successor reason supersededAt)
      unfold RuntimeDeployment.supersedeProductDrainSource
      cases computed : permit.resultingDeployment successor reason supersededAt with
      | error error => exact .refused error
      | ok result =>
        by_cases replay : self = result
        · simpa [replay, replayed] using Outcome.replayed
        by_cases same : self.snapshot = permit.source
        · obtain ⟨written, revision, effect, next, rfl⟩ := supersessionResult_effect same computed
          simpa [replay, same] using Outcome.applied written revision effect next
        · simpa [replay, same] using Outcome.refused _
    | cancelProductDrainSource permit cancelledAt =>
      show Outcome self _ (self.cancelProductDrainSource permit cancelledAt)
      unfold RuntimeDeployment.cancelProductDrainSource
      by_cases same : self.snapshot = permit.source
      · cases computed : permit.resultingDeployment cancelledAt with
        | error error => simpa [same] using Outcome.refused error
        | ok result =>
          obtain ⟨written, revision, effect, next, rfl⟩ := cancellationResult_effect same computed
          simpa [same] using Outcome.applied written revision effect next
      · simpa [same] using Outcome.refused _
    | _ => cases found

end Starring.Convergence
