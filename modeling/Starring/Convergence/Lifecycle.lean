import Starring.Convergence.Effects

/-! Every write of a valid deployment is valid, so every deployment a run reaches
can be saved and restored. A restored Live deployment has a complete timeline
exactly when its gateway came up after its panels were reconciled. -/

namespace Starring.Convergence
open Foundation RuntimeDeployment Option

namespace RuntimeDeployment
variable {self : RuntimeDeployment}

/-- Nothing that needs an activation is on record. -/
structure Unactivated (deployment : RuntimeDeployment) : Prop where
  activation : deployment.activation = none
  panel : deployment.panelCertificate = none
  gateway : deployment.gatewayReady = none
  live : deployment.live = none
  recovery : deployment.lastLiveRecovery = none
  failure : deployment.lastRuntimeFailure = none

theorem Valid.unactivated (valid : self.Valid) (missing : self.activation = none) : self.Unactivated where
  activation := missing
  panel := by
    refine eq_none_iff_forall_ne_some.mpr fun certificate found => ?_
    obtain ⟨_, activated, _⟩ := (valid.panel certificate found).activated
    simp [missing] at activated
  gateway := by
    refine eq_none_iff_forall_ne_some.mpr fun attestation found => ?_
    obtain ⟨certificate, certificated, _⟩ := (valid.gateway attestation found).process
    obtain ⟨_, activated, _⟩ := (valid.panel certificate certificated).activated
    simp [missing] at activated
  live := by
    refine eq_none_iff_forall_ne_some.mpr fun live found => ?_
    simpa [missing] using (valid.live live found).activation
  recovery := by
    refine eq_none_iff_forall_ne_some.mpr fun recovery found => ?_
    simpa [missing] using (valid.recovery recovery found).activation
  failure := by
    refine eq_none_iff_forall_ne_some.mpr fun disposition found => ?_
    obtain ⟨_, activated, _⟩ := (valid.failure disposition found).activated
    simp [missing] at activated

/-- Before the activation only the lease, the preflight and the drain remain to be checked. -/
theorem Unactivated.valid (unactivated : self.Unactivated)
    (previous : ∀ previous, self.previousRuntime = some previous →
      self.target.sameSlot previous.target ∧ previous.runtimeGeneration < self.runtimeGeneration)
    (lease : ∀ lease, self.controllerLease = some lease → self.LeaseValid lease)
    (preflight : ∀ attestation, self.preflight = some attestation → self.PreflightValid attestation)
    (drain : ∀ attestation, self.drain = some attestation → self.DrainValid attestation)
    (phase : self.phaseEvidenceValid = true) : self.Valid where
  previous := previous
  lease := lease
  preflight := preflight
  drain := drain
  phase := phase
  activation := by simp [unactivated.activation]
  panel := by simp [unactivated.panel]
  gateway := by simp [unactivated.gateway]
  live := by simp [unactivated.live]
  recovery := by simp [unactivated.recovery]
  failure := by simp [unactivated.failure]

/-- A granted request starts at the first revision, with nothing collected. -/
theorem request_eq_ok {identity : RuntimeDeploymentIdentityV1} {target : RuntimeDeploymentTargetV1}
    {runtimeGeneration : RuntimeGeneration} {previousRuntime : Option RuntimeProcessIdentityV1}
    {requestedAt : DateTime} :
    request identity target runtimeGeneration previousRuntime requestedAt = .ok self ↔
      (∀ previous, previousRuntime = some previous →
        target.sameSlot previous.target ∧ previous.runtimeGeneration < runtimeGeneration) ∧
      self = { identity, target, runtimeGeneration, previousRuntime, requestedAt, revision := .first,
               phase := .requested, controllerLease := none, lastFencingToken := none, preflight := none,
               drain := none, activation := none, panelCertificate := none, gatewayReady := none,
               live := none, lastLiveRecovery := none, lastRuntimeFailure := none } := by
  unfold request
  cases previousRuntime with
  | none => simp [bind, Except.bind, pure, Except.pure, eq_comm]
  | some previous =>
    simp only [check_bind_eq_ok, rejectIf_eq_ok, not_not, Counter.not_le, pure_eq_ok, Option.some.injEq,
      forall_eq', and_assoc]
    exact and_congr_right fun _ => and_congr_right fun _ => eq_comm

theorem request_valid {identity : RuntimeDeploymentIdentityV1} {target : RuntimeDeploymentTargetV1}
    {runtimeGeneration : RuntimeGeneration} {previousRuntime : Option RuntimeProcessIdentityV1}
    {requestedAt : DateTime}
    (requested : request identity target runtimeGeneration previousRuntime requestedAt = .ok self) :
    self.Valid := by
  obtain ⟨previous, rfl⟩ := request_eq_ok.mp requested
  exact Unactivated.valid ⟨rfl, rfl, rfl, rfl, rfl, rfl⟩ previous (by simp) (by simp) (by simp) rfl

theorem Valid.relet (valid : self.Valid) (revision : DeploymentRevision) (controllerLease : Option ControllerLeaseV1)
    (lastFencingToken : Option FencingToken)
    (lease : ∀ lease, controllerLease = some lease →
      ({ self with revision, controllerLease, lastFencingToken } : RuntimeDeployment).LeaseValid lease) :
    ({ self with revision, controllerLease, lastFencingToken } : RuntimeDeployment).Valid where
  previous := valid.previous
  lease := lease
  failure disposition found := { valid.failure disposition found with }
  preflight attestation found := { valid.preflight attestation found with }
  drain attestation found := { valid.drain attestation found with }
  activation attestation found := { valid.activation attestation found with }
  panel certificate found := { valid.panel certificate found with }
  gateway attestation found := { valid.gateway attestation found with }
  live live found := { valid.live live found with }
  recovery recovery found := { valid.recovery recovery found with }
  phase := valid.phase

theorem Valid.withRevision (valid : self.Valid) (revision : DeploymentRevision) :
    ({ self with revision } : RuntimeDeployment).Valid :=
  valid.relet revision self.controllerLease self.lastFencingToken fun lease found =>
    { valid.lease lease found with }

theorem Valid.installLease (valid : self.Valid) (request : LeaseRequestV1)
    (admissible : self.LeaseAdmissible request) : (self.installLease request).Valid := by
  refine valid.relet self.revision _ _ fun lease found => ?_
  cases found
  exact ⟨rfl, admissible.window, admissible.running, admissible.requested⟩

variable {written : RuntimeDeployment}

/-- A write after the activation keeps the activation and everything before it. -/
theorem Valid.afterActivation (valid : self.Valid) (frame : written = { self with
      phase := written.phase, controllerLease := written.controllerLease,
      lastFencingToken := written.lastFencingToken, panelCertificate := written.panelCertificate,
      gatewayReady := written.gatewayReady, live := written.live, lastLiveRecovery := written.lastLiveRecovery,
      lastRuntimeFailure := written.lastRuntimeFailure })
    (lease : ∀ lease, written.controllerLease = some lease → written.LeaseValid lease)
    (failure : ∀ disposition, written.lastRuntimeFailure = some disposition → written.FailureValid disposition)
    (panel : ∀ certificate, written.panelCertificate = some certificate → written.PanelValid certificate)
    (gateway : ∀ attestation, written.gatewayReady = some attestation → written.GatewayValid attestation)
    (live : ∀ live, written.live = some live → written.LiveValid live)
    (recovery : ∀ recovery, written.lastLiveRecovery = some recovery → written.RecoveryValid recovery)
    (phase : written.phaseEvidenceValid = true) : written.Valid := by
  refine ⟨?_, lease, failure, ?_, ?_, ?_, panel, gateway, live, recovery, phase⟩
  all_goals rw [frame]
  · exact valid.previous
  · exact fun attestation found => { valid.preflight attestation found with }
  · exact fun attestation found => { valid.drain attestation found with }
  · exact fun attestation found => { valid.activation attestation found with }

/-- A held lease survives every write that leaves it alone and does not end the run. -/
theorem held (valid : self.Valid) (lease : written.controllerLease = self.controllerLease)
    (token : written.lastFencingToken = self.lastFencingToken) (requested : written.requestedAt = self.requestedAt)
    (running : written.phase.isTerminal = false) :
    ∀ lease, written.controllerLease = some lease → written.LeaseValid lease := by
  intro held found
  have before := valid.lease held (lease ▸ found)
  exact ⟨token ▸ before.token, before.window, running, requested ▸ before.requested⟩

theorem Valid.evidence_eq (valid : self.Valid) :
    match self.phase with
    | .requested => self.evidence = (false, false, false, false, false, false)
    | .preflightReady | .drainRequested => self.evidence = (true, false, false, false, false, false)
    | .drained | .activationApplying => self.evidence = (true, true, false, false, false, false)
    | .runtimePending _ | .reconcilingPanels => self.evidence = (true, true, true, false, false, false)
    | .awaitingGatewayReady => self.evidence = (true, true, true, true, false, false)
    | .live => self.evidence = (true, true, true, true, true, true)
    | .superseded _ _ _ | .cancelled _ _ => evidenceIsPrefix self.evidence = true := by
  have shape := valid.phase
  unfold phaseEvidenceValid at shape
  cases phase : self.phase <;> simp_all

/-- Before the activation a deployment moves on by a change of phase alone. -/
theorem Valid.moved (valid : self.Valid) (phase : RuntimeDeploymentPhaseV1) (missing : self.activation = none)
    (running : phase.isTerminal = false)
    (shape : ({ self with phase } : RuntimeDeployment).phaseEvidenceValid = true) :
    ({ self with phase } : RuntimeDeployment).Valid := by
  refine Unactivated.valid { valid.unactivated missing with } valid.previous (held valid rfl rfl rfl running) ?_ ?_ shape
  · exact fun attestation found => { valid.preflight attestation found with }
  · exact fun attestation found => { valid.drain attestation found with }

/-- No failure is current once the pending condition is ready or the phase has moved on. -/
theorem keptFailure (valid : self.Valid) (failure : written.lastRuntimeFailure = self.lastRuntimeFailure)
    (requested : written.requestedAt = self.requestedAt) (activation : written.activation = self.activation)
    (stale : ∀ disposition, written.failureIsCurrent disposition = false) :
    ∀ disposition, written.lastRuntimeFailure = some disposition → written.FailureValid disposition := by
  intro disposition found
  have before := valid.failure disposition (failure ▸ found)
  exact ⟨before.wellFormed, requested ▸ before.requested, activation ▸ before.activated,
    fun current => by simp [stale] at current, before.retry⟩

theorem keptRecovery (valid : self.Valid) (recovery : written.lastLiveRecovery = self.lastLiveRecovery)
    (target : written.target = self.target) (generation : written.runtimeGeneration = self.runtimeGeneration)
    (activation : written.activation = self.activation) (phase : written.recoveryPhaseValid = true)
    (live : written.live = none) :
    ∀ recovery, written.lastLiveRecovery = some recovery → written.RecoveryValid recovery := by
  intro kept found
  have before := valid.recovery kept (recovery ▸ found)
  exact
    { before with
      phase, target := target ▸ before.target, generation := generation ▸ before.generation
      activation := activation ▸ before.activation
      panelTarget := target ▸ before.panelTarget, panelGeneration := generation ▸ before.panelGeneration
      gatewayTarget := target ▸ before.gatewayTarget
      gatewayGeneration := generation ▸ before.gatewayGeneration
      live := by simp [live] }

theorem Valid.bringUp (valid : self.Valid) (phase : RuntimeDeploymentPhaseV1)
    (shape : self.evidence = (true, true, true, false, false, false))
    (target : phase = .runtimePending .ready ∨ phase = .reconcilingPanels) :
    ({ self with phase } : RuntimeDeployment).Valid := by
  have missing := shape
  simp only [evidence, Prod.mk.injEq, isSome_eq_false_iff, isNone_iff_eq_none] at missing
  obtain ⟨-, -, -, panel, gateway, live⟩ := missing
  rcases target with rfl | rfl
  · exact valid.afterActivation rfl (held valid rfl rfl rfl rfl) (keptFailure valid rfl rfl rfl fun _ => rfl)
      (by simp [panel]) (by simp [gateway]) (by simp [live]) (keptRecovery valid rfl rfl rfl rfl rfl live)
      (by simpa [phaseEvidenceValid, evidence, conditionValid] using shape)
  · exact valid.afterActivation rfl (held valid rfl rfl rfl rfl) (keptFailure valid rfl rfl rfl fun _ => rfl)
      (by simp [panel]) (by simp [gateway]) (by simp [live]) (keptRecovery valid rfl rfl rfl rfl rfl live)
      (by simpa [phaseEvidenceValid, evidence] using shape)

/-- Recording a failure drops the runtime evidence and the lease, and waits on the failure. -/
theorem recordFailure_valid (valid : self.Valid) (condition : RuntimePendingConditionV1)
    (disposition : RuntimeFailureDispositionV1) (same : condition.disposition = some disposition)
    (phase : self.BringingUp) (wellFormed : validateFailure disposition.failure = .ok ())
    (retry : ∀ retryAt, disposition.retryNotBefore = some retryAt → disposition.failure.recordedAt ≤ retryAt)
    (activated : ∃ activation, self.activation = some activation ∧
      activation.activatedAt ≤ disposition.failure.recordedAt)
    (recovered : ∀ recovery, self.lastLiveRecovery = some recovery →
      recovery.recoveredAt ≤ disposition.failure.recordedAt) :
    ({ self.clearUnacceptedRuntimeEvidence with
      lastRuntimeFailure := some disposition, controllerLease := none,
      phase := .runtimePending condition } : RuntimeDeployment).Valid := by
  obtain ⟨activation, found, after⟩ := activated
  have reached : self.preflight.isSome = true ∧ self.drain.isSome = true := by
    have shape := valid.evidence_eq
    rcases phase with phase | phase | phase <;> simp only [phase, evidence, Prod.mk.injEq] at shape <;>
      exact ⟨shape.1, shape.2.1⟩
  obtain ⟨drain, drained, drainedBefore⟩ := (valid.activation activation found).drained
  obtain ⟨preflight, checked, checkedBefore⟩ := (valid.drain drain drained).checked
  have requested := (valid.preflight preflight checked).requested
  refine valid.afterActivation rfl (by simp) ?_ (by simp [clearUnacceptedRuntimeEvidence])
    (by simp [clearUnacceptedRuntimeEvidence]) (by simp [clearUnacceptedRuntimeEvidence])
    (keptRecovery valid rfl rfl rfl rfl rfl rfl) ?_
  · rintro _ ⟨⟩
    exact ⟨wellFormed, ((requested.trans checkedBefore).trans drainedBefore).trans after,
      ⟨activation, found, after⟩, fun _ => recovered, retry⟩
  · have shape : conditionValid { self.clearUnacceptedRuntimeEvidence with
        lastRuntimeFailure := some disposition, controllerLease := none,
        phase := .runtimePending condition } condition = true := by
      cases condition with
      | ready => rfl
      | retryable failure attempt retryNotBefore =>
        cases same
        have wellFormed : validateFailure failure = .ok () := wellFormed
        have retry : failure.recordedAt ≤ retryNotBefore := retry _ rfl
        simp [conditionValid, RuntimePendingConditionV1.disposition, wellFormed, retry]
      | blocked failure =>
        cases same
        have wellFormed : validateFailure failure = .ok () := wellFormed
        simp [conditionValid, RuntimePendingConditionV1.disposition, wellFormed]
    simpa [phaseEvidenceValid, evidence, clearUnacceptedRuntimeEvidence, reached, found] using shape

theorem certifyLive_valid (valid : self.Valid) (gatewayReady : GatewayReadyAttestationV1) (certifiedAt : DateTime)
    (activation : ActivationAttestationV1) (panelCertificate : PanelCertificateV1)
    (phase : self.phase = .awaitingGatewayReady) (accepted : self.GatewayValid gatewayReady)
    (activated : self.activation = some activation) (certificated : self.panelCertificate = some panelCertificate)
    (ready : panelCertificate.reconciledAt ≤ gatewayReady.readyAt)
    (certified : gatewayReady.readyAt ≤ certifiedAt) :
    ({ self with
      gatewayReady := some gatewayReady
      live := some
        { target := self.target, runtimeGeneration := self.runtimeGeneration,
          processInstanceId := gatewayReady.processInstanceId, activation, panelCertificate, gatewayReady,
          certifiedAt }
      controllerLease := none
      phase := .live } : RuntimeDeployment).Valid := by
  have shape := valid.evidence_eq
  simp only [phase, evidence, Prod.mk.injEq] at shape
  refine valid.afterActivation rfl (by simp) (keptFailure valid rfl rfl rfl fun _ => rfl) ?_ ?_ ?_ ?_ ?_
  · exact fun certificate found => { valid.panel certificate found with }
  · rintro _ ⟨⟩
    exact { accepted with }
  · rintro _ ⟨⟩
    exact ⟨rfl, rfl, activated, certificated, rfl, rfl, certified⟩
  · intro recovery found
    -- the panels were reconciled after the recovery, so the new certification is later still
    have recovered := ((valid.panel panelCertificate certificated).recovered recovery found).1
    exact
      { valid.recovery recovery found with
        phase := rfl
        live := by rintro _ ⟨⟩; exact (recovered.trans ready).trans certified }
  · simp [phaseEvidenceValid, evidence, shape, activated, certificated]

/-- The gateway of the Live attestation came up after its panels were reconciled. -/
def LiveOrdered (deployment : RuntimeDeployment) : Prop :=
  ∀ live, deployment.live = some live → live.panelCertificate.reconciledAt ≤ live.gatewayReady.readyAt

/-- A lost Live attestation becomes valid recovery evidence if its own timeline is in order. -/
theorem Valid.recoveryOf (valid : self.Valid) (live : LiveAttestationV1) (found : self.live = some live)
    (recovery : LiveRecoveryAttestationV1) (prior : recovery.priorLive = live)
    (ready : live.panelCertificate.reconciledAt ≤ live.gatewayReady.readyAt)
    (lost : live.certifiedAt ≤ recovery.evidenceAt) (recovered : recovery.evidenceAt ≤ recovery.recoveredAt)
    (target : written.target = self.target) (generation : written.runtimeGeneration = self.runtimeGeneration)
    (activation : written.activation = self.activation) (phase : written.recoveryPhaseValid = true)
    (cleared : written.live = none) : written.RecoveryValid recovery := by
  subst prior
  have liveValid := valid.live _ found
  have panel := valid.panel _ liveValid.panel
  have gateway := valid.gateway _ liveValid.gateway
  obtain ⟨_, activated, reconciled⟩ := panel.activated
  obtain rfl := Option.some.inj (activated.symm.trans liveValid.activation)
  obtain ⟨_, certificated, process⟩ := gateway.process
  obtain rfl := Option.some.inj (certificated.symm.trans liveValid.panel)
  exact
    { phase, ready, lost, recovered, reconciled
      target := liveValid.target.trans target.symm
      generation := liveValid.generation.trans generation.symm
      activation := activation.trans liveValid.activation
      panelTarget := panel.target.trans target.symm
      panelGeneration := panel.generation.trans generation.symm
      gatewayTarget := gateway.target.trans target.symm
      gatewayGeneration := gateway.generation.trans generation.symm
      panelProcess := liveValid.process.trans process
      gatewayProcess := liveValid.process
      certified := liveValid.certified
      eligible := panel.eligible
      live := by simp [cleared] }

theorem recoverLive_valid (valid : self.Valid) (request : RecoverLiveRequestV1) (priorLive : LiveAttestationV1)
    (phase : self.phase = .live) (found : self.live = some priorLive)
    (ready : priorLive.panelCertificate.reconciledAt ≤ priorLive.gatewayReady.readyAt)
    (lost : priorLive.certifiedAt ≤ request.evidenceAt) (recovered : request.evidenceAt ≤ request.recoveredAt) :
    ({ self.clearUnacceptedRuntimeEvidence with
      lastLiveRecovery := some
        { priorLive, kind := request.kind, evidenceAt := request.evidenceAt, recoveredAt := request.recoveredAt }
      phase := .runtimePending .ready } : RuntimeDeployment).Valid := by
  have shape := valid.evidence_eq
  simp only [phase, evidence, Prod.mk.injEq] at shape
  refine valid.afterActivation rfl (held valid rfl rfl rfl rfl) (keptFailure valid rfl rfl rfl fun _ => rfl)
    (by simp [clearUnacceptedRuntimeEvidence]) (by simp [clearUnacceptedRuntimeEvidence])
    (by simp [clearUnacceptedRuntimeEvidence]) ?_ ?_
  · rintro _ ⟨⟩
    exact valid.recoveryOf priorLive found _ rfl ready lost recovered rfl rfl rfl rfl rfl
  · simp [phaseEvidenceValid, evidence, clearUnacceptedRuntimeEvidence, conditionValid, shape]

theorem superseded_phase (successor : SupersedingDeploymentV1) (reason : String) (supersededAt : DateTime)
    (phase : self.phase = .superseded successor reason supersededAt)
    (supersession : self.SupersessionValid successor reason supersededAt)
    (shape : evidenceIsPrefix self.evidence = true) : self.phaseEvidenceValid = true := by
  simp [phaseEvidenceValid, phase, supersession.reason, supersession.generation, supersession.distinct,
    supersession.scope, supersession.slot, supersession.requested, shape]

theorem supersede_valid (valid : self.Valid) (successor : SupersedingDeploymentV1) (reason : String)
    (supersededAt : DateTime) (running : self.phase.isTerminal = false)
    (supersession : self.SupersessionValid successor reason supersededAt) :
    ({ self with phase := .superseded successor reason supersededAt, controllerLease := none } :
      RuntimeDeployment).Valid := by
  have shape := valid.evidence_eq
  have collected : evidenceIsPrefix self.evidence = true ∧ self.gatewayReady = none ∧ self.live = none := by
    cases phase : self.phase <;>
      simp_all [evidence, evidenceIsPrefix, RuntimeDeploymentPhaseV1.isTerminal]
  obtain ⟨collected, gateway, live⟩ := collected
  refine valid.afterActivation rfl (by simp) (keptFailure valid rfl rfl rfl fun _ => rfl) ?_ (by simp [gateway])
    (by simp [live]) (keptRecovery valid rfl rfl rfl rfl rfl live) ?_
  · exact fun certificate found => { valid.panel certificate found with }
  · exact superseded_phase successor reason supersededAt rfl { supersession with } collected

theorem supersedeLive_valid (valid : self.Valid) (successor : SupersedingDeploymentV1) (reason : String)
    (supersededAt acknowledgedAt : DateTime) (priorLive : LiveAttestationV1) (phase : self.phase = .live)
    (found : self.live = some priorLive) (acknowledged : priorLive.certifiedAt ≤ acknowledgedAt)
    (superseded : acknowledgedAt ≤ supersededAt)
    (supersession : self.SupersessionValid successor reason supersededAt)
    (ready : priorLive.panelCertificate.reconciledAt ≤ priorLive.gatewayReady.readyAt) :
    ({ self with
      live := none
      lastLiveRecovery := some
        { priorLive, kind := .servingDisconnected, evidenceAt := acknowledgedAt, recoveredAt := supersededAt }
      panelCertificate := none
      gatewayReady := none
      controllerLease := none
      phase := .superseded successor reason supersededAt } : RuntimeDeployment).Valid := by
  have shape := valid.evidence_eq
  simp only [phase, evidence, Prod.mk.injEq] at shape
  refine valid.afterActivation rfl (by simp) (keptFailure valid rfl rfl rfl fun _ => rfl) (by simp) (by simp)
    (by simp) ?_ ?_
  · rintro _ ⟨⟩
    exact valid.recoveryOf priorLive found _ rfl ready acknowledged superseded rfl rfl rfl rfl rfl
  · exact superseded_phase successor reason supersededAt rfl { supersession with }
      (by simp [evidence, evidenceIsPrefix, shape])

end RuntimeDeployment

namespace Effect
variable {self written : RuntimeDeployment} {call : Call}
open RuntimeDeployment

theorem valid (effect : Effect self call written) (before : self.Valid) (ordered : self.LiveOrdered) :
    written.Valid := by
  have shape := before.evidence_eq
  cases effect with
  | acquireLease request _ admissible => exact before.installLease request admissible
  | recoverBlocked request failure _ blocked _ _ _ _ admissible =>
    simp only [blocked] at shape
    exact (before.installLease request.lease admissible).bringUp _ shape (.inl rfl)
  | acceptPreflight guard attestation _ phase accepted =>
    simp only [phase, evidence, Prod.mk.injEq, isSome_eq_false_iff, isNone_iff_eq_none] at shape
    obtain ⟨-, drain, activation, -⟩ := shape
    have later := before.unactivated activation
    refine Unactivated.valid { later with } before.previous (held before rfl rfl rfl rfl) ?_ (by simp [drain]) ?_
    · rintro _ ⟨⟩
      exact { accepted with }
    · simp [phaseEvidenceValid, evidence, drain, activation, later.panel, later.gateway, later.live]
  | requestDrain guard _ phase =>
    simp only [phase] at shape
    have missing : self.activation = none := by simp [evidence] at shape; exact shape.2.2.1
    exact before.moved .drainRequested missing rfl (by simpa [phaseEvidenceValid, evidence] using shape)
  | acceptDrain guard attestation _ phase accepted =>
    simp only [phase, evidence, Prod.mk.injEq, isSome_eq_false_iff, isNone_iff_eq_none] at shape
    obtain ⟨preflight, -, activation, -⟩ := shape
    have later := before.unactivated activation
    refine Unactivated.valid { later with } before.previous (held before rfl rfl rfl rfl) ?_ ?_ ?_
    · exact fun attestation found => { before.preflight attestation found with }
    · rintro _ ⟨⟩
      exact { accepted with }
    · simp [phaseEvidenceValid, evidence, preflight, activation, later.panel, later.gateway, later.live]
  | beginActivation guard _ phase =>
    simp only [phase] at shape
    have missing : self.activation = none := by simp [evidence] at shape; exact shape.2.2.1
    exact before.moved .activationApplying missing rfl (by simpa [phaseEvidenceValid, evidence] using shape)
  | acceptActivation guard attestation _ phase accepted =>
    simp only [phase, evidence, Prod.mk.injEq, isSome_eq_false_iff, isNone_iff_eq_none] at shape
    obtain ⟨preflight, drain, activation, -⟩ := shape
    have later := before.unactivated activation
    refine ⟨before.previous, held before rfl rfl rfl rfl, by simp [later.failure], ?_, ?_, ?_, by simp [later.panel],
      by simp [later.gateway], by simp [later.live], by simp [later.recovery], ?_⟩
    · exact fun attestation found => { before.preflight attestation found with }
    · exact fun attestation found => { before.drain attestation found with }
    · rintro _ ⟨⟩
      exact { accepted with }
    · simp [phaseEvidenceValid, evidence, conditionValid, preflight, drain, later.panel, later.gateway, later.live]
  | recordRetryableFailure guard failure attempt retryNotBefore _ phase wellFormed retry activated recovered =>
    exact recordFailure_valid before _ _ rfl phase wellFormed (by rintro _ ⟨⟩; exact retry) activated recovered
  | recordBlockedFailure guard failure _ phase wellFormed activated recovered =>
    exact recordFailure_valid before _ _ rfl phase wellFormed (by rintro _ ⟨⟩) activated recovered
  | resumeRuntimePending guard condition _ phase =>
    simp only [phase] at shape
    exact before.bringUp _ shape (.inl rfl)
  | beginPanelReconciliation guard _ phase =>
    simp only [phase] at shape
    exact before.bringUp _ shape (.inr rfl)
  | acceptPanelCertificate guard certificate _ phase accepted =>
    simp only [phase, evidence, Prod.mk.injEq, isSome_eq_false_iff, isNone_iff_eq_none] at shape
    obtain ⟨preflight, drain, activation, -, gateway, live⟩ := shape
    refine before.afterActivation rfl (held before rfl rfl rfl rfl) (keptFailure before rfl rfl rfl fun _ => rfl)
      ?_ (by simp [gateway]) (by simp [live]) (keptRecovery before rfl rfl rfl rfl rfl live) ?_
    · rintro _ ⟨⟩
      exact { accepted with }
    · simp [phaseEvidenceValid, evidence, preflight, drain, activation, gateway, live]
  | certifyLive guard gatewayReady certifiedAt activation panel _ phase accepted activated certificated ready certified =>
    exact certifyLive_valid before gatewayReady certifiedAt activation panel phase accepted activated certificated
      ready certified
  | recoverLive request priorLive _ phase _ found _ lost recovered =>
    exact recoverLive_valid before request priorLive phase found (ordered priorLive found) lost recovered
  | supersede guard successor reason supersededAt _ running supersession =>
    exact supersede_valid before successor reason supersededAt running supersession
  | cancel guard reason cancelledAt _ early reasonValid requested =>
    have collected : self.evidence = (false, false, false, false, false, false) ∨
        self.evidence = (true, false, false, false, false, false) := by
      cases phase : self.phase <;> simp_all [RuntimeDeploymentPhaseV1.kind, isCancellable]
    have activation : self.activation = none := by
      rcases collected with shape | shape <;> simp [evidence] at shape <;> exact shape.2.2.1
    refine Unactivated.valid { before.unactivated activation with } before.previous (by simp) ?_ ?_ ?_
    · exact fun attestation found => { before.preflight attestation found with }
    · exact fun attestation found => { before.drain attestation found with }
    · have kept : evidenceIsPrefix self.evidence = true := by rcases collected with shape | shape <;> rw [shape] <;> rfl
      simpa [phaseEvidenceValid, evidence, reasonValid, requested] using kept
  | supersedeAwaiting permit successor reason supersededAt _ phase supersession =>
    exact supersede_valid before successor reason supersededAt (by rw [phase]; rfl) supersession
  | supersedeLive permit successor reason supersededAt priorLive _ phase found acknowledged superseded supersession ready =>
    exact supersedeLive_valid before successor reason supersededAt permit.acknowledgedAt priorLive phase found
      acknowledged superseded supersession ready
  | cancelDrain permit cancelledAt _ phase => exact before

theorem liveOrdered (effect : Effect self call written) (ordered : self.LiveOrdered) : written.LiveOrdered := by
  cases effect with
  | certifyLive guard gatewayReady certifiedAt activation panel _ _ _ _ _ ready =>
    rintro _ ⟨⟩
    exact ready
  | recordRetryableFailure | recordBlockedFailure | recoverLive | supersedeLive => rintro _ ⟨⟩
  | _ => exact ordered

end Effect

/-- Making a call and keeping its successor only if it answers `Ok`. -/
def Call.attempt (call : Call) (self : RuntimeDeployment) :
    Except RuntimeDeploymentError TransitionOutcomeV1 × RuntimeDeployment :=
  match call.exec self with
  | (.ok outcome, successor) => (.ok outcome, successor)
  | (.error error, _) => (.error error, self)

/-- The invariant of runs: a valid deployment whose Live attestation is in order. -/
structure RuntimeDeployment.Sound (deployment : RuntimeDeployment) : Prop where
  valid : deployment.Valid
  ordered : deployment.LiveOrdered

theorem Effect.sound {self written : RuntimeDeployment} {call : Call} (effect : Effect self call written)
    (before : self.Sound) (revision : DeploymentRevision) : { written with revision }.Sound :=
  ⟨(effect.valid before.valid before.ordered).withRevision revision, effect.liveOrdered before.ordered⟩

theorem Call.attempt_sound (call : Call) (self : RuntimeDeployment) (before : self.Sound) :
    (call.attempt self).2.Sound := by
  unfold Call.attempt
  have outcome := call.exec_outcome self
  generalize call.exec self = answer at outcome
  cases outcome with
  | replayed | refused error | overflowed transition written retryable fresh effect full => exact before
  | applied written revision effect next => exact effect.sound before revision

theorem RuntimeDeployment.request_sound {self : RuntimeDeployment} {identity : RuntimeDeploymentIdentityV1}
    {target : RuntimeDeploymentTargetV1} {runtimeGeneration : RuntimeGeneration}
    {previousRuntime : Option RuntimeProcessIdentityV1} {requestedAt : DateTime}
    (requested : request identity target runtimeGeneration previousRuntime requestedAt = .ok self) :
    self.Sound := by
  refine ⟨request_valid requested, ?_⟩
  obtain ⟨-, rfl⟩ := request_eq_ok.mp requested
  rintro _ ⟨⟩

/-- Every deployment reached from a request by calls that answered `Ok` is restored from its snapshot. -/
theorem reached_restores (identity : RuntimeDeploymentIdentityV1) (target : RuntimeDeploymentTargetV1)
    (runtimeGeneration : RuntimeGeneration) (previousRuntime : Option RuntimeProcessIdentityV1)
    (requestedAt : DateTime) (start : RuntimeDeployment) (calls : List Call)
    (requested : request identity target runtimeGeneration previousRuntime requestedAt =
      .ok start) :
    restore (final Call.attempt start calls).snapshot = .ok (final Call.attempt start calls) := by
  have sound := final_invariant Call.attempt Sound start calls
    (request_sound requested) Call.attempt_sound
  exact restore_snapshot.mpr sound.valid

/-! A deployment that is lost once: the requests and evidence of one full run. -/

namespace Scenario

def identity : RuntimeDeploymentIdentityV1 :=
  { deploymentId := ⟨"deployment-1", by decide⟩, tenantId := ⟨"tenant-1", by decide⟩
    installationId := ⟨"installation-1", by decide⟩
    promotionId := ⟨"0000000000000000000000000000000000000000000000000000000000000001", by decide +kernel⟩
    activationRequestId := ⟨"activation-1", by decide⟩ }

def target : RuntimeDeploymentTargetV1 :=
  { guildId := ⟨7⟩, rulesetKey := ⟨"welcome", by decide⟩, version := ⟨⟨1, Nat.one_pos, NonZeroU32.one_bounded⟩⟩
    contentHash := ⟨List.replicate 32 0, by decide⟩, bindingRevision := .first
    bindingFingerprint :=
      ⟨"0000000000000000000000000000000000000000000000000000000000000002", by decide +kernel⟩ }

def start : RuntimeDeployment :=
  { identity, target, runtimeGeneration := .first, previousRuntime := none, requestedAt := 0, revision := .first
    phase := .requested, controllerLease := none, lastFencingToken := none, preflight := none, drain := none
    activation := none, panelCertificate := none, gatewayReady := none, live := none
    lastLiveRecovery := none, lastRuntimeFailure := none }

def controller : ControllerId := ⟨"controller-1", by decide⟩
def firstProcess : ProcessInstanceId := ⟨"process-1", by decide⟩
def secondProcess : ProcessInstanceId := ⟨"process-2", by decide⟩

instance neZeroHundred : NeZero 100 := ⟨by decide⟩

theorem count_pos (count : Fin 100) : 0 < (count : Nat) + 1 := Nat.succ_pos _

theorem count_bounded (count : Fin 100) : (count : Nat) + 1 < 2 ^ 64 := by
  have bound := count.isLt
  omega

/-- A small counter: revision, token or generation `count + 1`. -/
def counter {kind : CounterKind} (count : Fin 100) : Counter kind := ⟨count + 1, count_pos count, count_bounded count⟩

def lease (revision token : Fin 100) (now : DateTime) : Call :=
  .acquireLease
    { expectedRevision := counter revision, controllerId := controller, fencingToken := counter token
      now, expiresAt := now + 50 }

def guard (revision token : Fin 100) (now : DateTime) : CommandGuardV1 :=
  { expectedRevision := counter revision, controllerId := controller, fencingToken := counter token
    runtimeGeneration := .first, now }

def preflight : PreflightAttestationV1 :=
  { target, runtimeGeneration := .first, observedRuntime := none, checkedAt := 2 }

def drain : DrainAttestationV1 :=
  { previousRuntime := none, targetRuntimeGeneration := .first, drainedAt := 4 }

def activation : ActivationAttestationV1 :=
  { activationRequestId := identity.activationRequestId, target, runtimeGeneration := .first
    kind := .activated, activatedAt := 6 }

def panel (processInstanceId : ProcessInstanceId) (reconciledAt : DateTime) : PanelCertificateV1 :=
  { certificateId := ⟨"panel-1", by decide⟩
    reportDigest := ⟨"0000000000000000000000000000000000000000000000000000000000000003", by decide +kernel⟩
    target, runtimeGeneration := .first, processInstanceId, declaredCount := 1, installedCount := 1
    unchangedCount := 0, skippedTransientCount := 0, skippedUnresolvedChannelCount := 0, failedCount := 0
    ambiguousOutcomeCount := 0, staleMessageCleanupPendingCount := 0, orphanMessageCleanupPendingCount := 0
    repostedOldMessageCleanupPendingCount := 0, reconciledAt }

def gateway (processInstanceId : ProcessInstanceId) (readyAt : DateTime) : GatewayReadyAttestationV1 :=
  { target, runtimeGeneration := .first, processInstanceId, kind := .discordReady, readyAt }

/-- From the request to the first certification. -/
def goLive : List Call :=
  [lease 0 0 1, .acceptPreflight (guard 1 0 2) preflight, .requestDrain (guard 2 0 3),
    .acceptDrain (guard 3 0 4) drain, .beginActivation (guard 4 0 5),
    .acceptActivation (guard 5 0 6) activation, .beginPanelReconciliation (guard 6 0 7),
    .acceptPanelCertificate (guard 7 0 8) (panel firstProcess 8),
    .certifyLive (guard 8 0 9) (gateway firstProcess 9) 10]

def lost : RecoverLiveRequestV1 :=
  { expectedRevision := counter 9, expectedRuntimeGeneration := .first, expectedProcessInstanceId := firstProcess
    kind := .servingLeaseExpired, evidenceAt := 11, recoveredAt := 12 }

/-- The first Live is lost, and a second process takes over. -/
def goLiveAgain : List Call :=
  [.recoverLive lost, lease 10 1 13, .beginPanelReconciliation (guard 11 1 14),
    .acceptPanelCertificate (guard 12 1 15) (panel secondProcess 15),
    .certifyLive (guard 13 1 16) (gateway secondProcess 16) 17]

/-- A Live snapshot whose gateway came up at `readyAt`; its panels were reconciled at 8. -/
def savedLive (readyAt : DateTime) : RuntimeDeploymentSnapshotV1 :=
  { (final Call.attempt start goLive).snapshot with
    gatewayReady := some (gateway firstProcess readyAt)
    live := some
      { target, runtimeGeneration := .first, processInstanceId := firstProcess, activation
        panelCertificate := panel firstProcess 8, gatewayReady := gateway firstProcess readyAt
        certifiedAt := 10 } }

end Scenario

theorem scenario_restores :
    request Scenario.identity Scenario.target .first none 0 = .ok Scenario.start ∧
      (final Call.attempt Scenario.start (Scenario.goLive ++ Scenario.goLiveAgain)).phase = .live ∧
      restore
          (final Call.attempt Scenario.start (Scenario.goLive ++ Scenario.goLiveAgain)).snapshot =
        .ok (final Call.attempt Scenario.start (Scenario.goLive ++ Scenario.goLiveAgain)) :=
  ⟨rfl, by decide +kernel, reached_restores Scenario.identity Scenario.target .first none 0 Scenario.start _ rfl⟩

/-- The evidence a Live snapshot should hold: one timeline, one target and generation, one process. -/
structure CompleteTimeline (saved : RuntimeDeploymentSnapshotV1) (preflight : PreflightAttestationV1)
    (drain : DrainAttestationV1) (activation : ActivationAttestationV1) (panel : PanelCertificateV1)
    (gateway : GatewayReadyAttestationV1) (live : LiveAttestationV1) : Prop where
  evidence : saved.preflight = some preflight ∧ saved.drain = some drain ∧ saved.activation = some activation ∧
    saved.panelCertificate = some panel ∧ saved.gatewayReady = some gateway ∧ saved.live = some live
  requested : saved.requestedAt ≤ preflight.checkedAt
  checked : preflight.checkedAt ≤ drain.drainedAt
  drained : drain.drainedAt ≤ activation.activatedAt
  activated : activation.activatedAt ≤ panel.reconciledAt
  reconciled : panel.reconciledAt ≤ gateway.readyAt
  ready : gateway.readyAt ≤ live.certifiedAt
  target : panel.target = saved.target ∧ gateway.target = saved.target ∧ live.target = saved.target
  generation : panel.runtimeGeneration = saved.runtimeGeneration ∧
    gateway.runtimeGeneration = saved.runtimeGeneration ∧ live.runtimeGeneration = saved.runtimeGeneration
  process : panel.processInstanceId = live.processInstanceId ∧
    gateway.processInstanceId = live.processInstanceId

/-- Whatever `recoverLive` makes of the deployment can be restored again. -/
def RuntimeDeployment.RecoversRestorable (deployment : RuntimeDeployment) : Prop :=
  ∀ request outcome recovered, (recoverLive request).apply deployment = (.ok outcome, recovered) →
    restore recovered.snapshot = .ok recovered

namespace RuntimeDeployment
variable {self : RuntimeDeployment}

/-- A valid Live deployment holds a complete timeline if its gateway came up after its panels. -/
theorem Valid.completeTimeline (valid : self.Valid) (phase : self.phase = .live) (ordered : self.LiveOrdered) :
    ∃ preflight drain activation panel gateway live,
      CompleteTimeline self.snapshot preflight drain activation panel gateway live := by
  have shape := valid.evidence_eq
  simp only [phase, evidence, Prod.mk.injEq] at shape
  obtain ⟨live, found⟩ := isSome_iff_exists.mp shape.2.2.2.2.2
  have liveValid := valid.live live found
  have panelValid := valid.panel _ liveValid.panel
  have gatewayValid := valid.gateway _ liveValid.gateway
  have activationValid := valid.activation _ liveValid.activation
  obtain ⟨drain, drained, drainedBefore⟩ := activationValid.drained
  obtain ⟨preflight, checked, checkedBefore⟩ := (valid.drain drain drained).checked
  obtain ⟨_, activated, reconciled⟩ := panelValid.activated
  obtain rfl := Option.some.inj (activated.symm.trans liveValid.activation)
  obtain ⟨_, certificated, process⟩ := gatewayValid.process
  obtain rfl := Option.some.inj (certificated.symm.trans liveValid.panel)
  exact ⟨preflight, drain, live.activation, live.panelCertificate, live.gatewayReady, live,
    ⟨checked, drained, activated, certificated, liveValid.gateway, found⟩,
    (valid.preflight preflight checked).requested, checkedBefore, drainedBefore, reconciled, ordered live found,
    liveValid.certified, ⟨panelValid.target, gatewayValid.target, liveValid.target⟩,
    ⟨panelValid.generation, gatewayValid.generation, liveValid.generation⟩,
    ⟨process.symm.trans liveValid.process.symm, liveValid.process.symm⟩⟩

theorem Sound.recoversRestorable (sound : self.Sound) : self.RecoversRestorable := by
  intro request outcome recovered applied
  have outcomes : Outcome self (.recoverLive request) ((recoverLive request).apply self) :=
    transition_outcome self rfl
  rw [applied] at outcomes
  cases outcomes with
  | replayed => exact restore_snapshot.mpr sound.valid
  | applied written revision effect next => exact restore_snapshot.mpr (effect.sound sound revision).valid

end RuntimeDeployment

/-- A restored Live deployment has its full timeline, and loses nothing by a recovery, exactly when
its snapshot's gateway came up no earlier than its panels were reconciled. -/
theorem live_timeline_iff (saved : RuntimeDeploymentSnapshotV1) (deployment : RuntimeDeployment)
    (restored : restore saved = .ok deployment) (phase : saved.phase = .live) :
    ((∃ preflight drain activation panel gateway live,
        CompleteTimeline saved preflight drain activation panel gateway live) ∧
      deployment.RecoversRestorable) ↔
      ∀ panel gateway, saved.panelCertificate = some panel → saved.gatewayReady = some gateway →
        panel.reconciledAt ≤ gateway.readyAt := by
  obtain ⟨rfl, valid⟩ := (restore_eq_ok _ _).mp restored
  constructor
  · rintro ⟨⟨_, _, _, panel, gateway, _, timeline⟩, -⟩ otherPanel otherGateway foundPanel foundGateway
    obtain ⟨-, -, -, panelFound, gatewayFound, -⟩ := timeline.evidence
    obtain rfl := Option.some.inj (panelFound.symm.trans foundPanel)
    obtain rfl := Option.some.inj (gatewayFound.symm.trans foundGateway)
    exact timeline.reconciled
  · intro inOrder
    have ordered : (ofSnapshot saved).LiveOrdered := fun live found =>
      inOrder _ _ (valid.live live found).panel (valid.live live found).gateway
    exact ⟨valid.completeTimeline phase ordered, Sound.recoversRestorable ⟨valid, ordered⟩⟩

theorem live_timeline_in_order :
    ((∃ preflight drain activation panel gateway live,
        CompleteTimeline (Scenario.savedLive 9) preflight drain activation panel gateway live) ∧
      (ofSnapshot (Scenario.savedLive 9)).RecoversRestorable) ↔
      ∀ panel gateway, (Scenario.savedLive 9).panelCertificate = some panel →
        (Scenario.savedLive 9).gatewayReady = some gateway → panel.reconciledAt ≤ gateway.readyAt :=
  live_timeline_iff (Scenario.savedLive 9) _ (by decide +kernel) (by decide +kernel)

/-- A gateway that is ready before its panels: `restore` accepts the Live snapshot, `recoverLive` accepts
the loss of it, and what it leaves behind cannot be restored any more. -/
theorem live_timeline_broken :
    restore (Scenario.savedLive 7) = .ok (ofSnapshot (Scenario.savedLive 7)) ∧
      (Scenario.savedLive 7).phase = .live ∧
      (Scenario.savedLive 7).gatewayReady = some (Scenario.gateway Scenario.firstProcess 7) ∧
      (Scenario.savedLive 7).panelCertificate = some (Scenario.panel Scenario.firstProcess 8) ∧
      ((recoverLive Scenario.lost).apply
        (ofSnapshot (Scenario.savedLive 7))).1 = .ok (.applied (Scenario.counter 10)) ∧
      restore ((recoverLive Scenario.lost).apply
        (ofSnapshot (Scenario.savedLive 7))).2.snapshot = .error .invalidSnapshot := by
  decide +kernel

end Starring.Convergence
