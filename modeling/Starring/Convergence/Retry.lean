import Starring.Convergence.Lifecycle

/-! A retry of a call that has been applied. Its revision is the old one by now, but the call is recognised
by what it has written, and answered without a change. -/

namespace Starring.Convergence
open Foundation Scenario RuntimeDeployment

theorem Effect.recognised {self written : RuntimeDeployment} {call : Call} {transition : Transition}
    (effect : Effect self call written) (valid : self.Valid) (found : call.transition = some transition)
    (revision : DeploymentRevision) : transition.replays { written with revision } = true := by
  cases effect with
  | acquireLease request =>
    cases found
    simp [RuntimeDeployment.acquireLease, RuntimeDeployment.installLease, RuntimeDeployment.leaseMatches]
  | recoverBlocked request failure recorded _ _ _ onRecord named =>
    cases found
    have onRecord : self.exactFailure request.expectedFailureId = true :=
      (exactFailure_iff _).mpr ⟨recorded, onRecord, named⟩
    refine Bool.and_eq_true_iff.mpr ⟨Bool.and_eq_true_iff.mpr ⟨onRecord, ?_⟩, ?_⟩
    · simp
    · simp [RuntimeDeployment.installLease, RuntimeDeployment.leaseMatches, RecoverBlockedRequestV1.lease]
  | acceptPreflight | acceptDrain | acceptActivation | acceptPanelCertificate =>
    -- The evidence is on record, and the phase is the one it leads to.
    cases found
    exact Bool.and_eq_true_iff.mpr ⟨decide_eq_true rfl, rfl⟩
  | requestDrain | beginActivation | beginPanelReconciliation =>
    cases found
    rfl
  | recordRetryableFailure | recordBlockedFailure | supersede | cancel =>
    cases found
    exact decide_eq_true rfl
  | resumeRuntimePending =>
    cases found
    simp [RuntimeDeployment.resumeRuntimePending]
  | certifyLive =>
    cases found
    exact decide_eq_true ⟨rfl, rfl⟩
  | recoverLive request priorLive _ _ generation live process =>
    cases found
    -- The deployment that was lost is of the generation that the request names.
    have sameGeneration : priorLive.runtimeGeneration = request.expectedRuntimeGeneration :=
      (valid.live priorLive live).generation.trans generation.symm
    simp [RuntimeDeployment.recoverLive, sameGeneration, process]
  | supersedeAwaiting | supersedeLive | cancelDrain => cases found

/-- A retryable call that has been applied to a restored deployment is answered as a replay when it is made again. -/
theorem exact_retry_is_idempotent (saved : RuntimeDeploymentSnapshotV1) (deployment after : RuntimeDeployment)
    (restored : RuntimeDeployment.restore saved = .ok deployment) (call : Call) (transition : Transition)
    (retryable : call.transition = some transition) (revision : DeploymentRevision)
    (applied : call.exec deployment = (.ok (.applied revision), after)) :
    call.exec after = (.ok (.replayed after.revision), after) := by
  have valid := ((restore_eq_ok _ _).mp restored).2
  have outcome := call.exec_outcome deployment
  rw [applied] at outcome
  cases outcome with
  | applied written _ effect next =>
    have recognised := effect.recognised valid retryable revision
    rw [call.exec_transition _ retryable]
    exact if_pos recognised

/-- The first lease of a deployment. -/
theorem first_lease_is_replayed :
    let after := ((lease 0 0 1).exec start).2
    (lease 0 0 1).exec after = (.ok (.replayed after.revision), after) :=
  exact_retry_is_idempotent start.snapshot start _ (by decide +kernel) (lease 0 0 1) _ rfl
    (counter 1) (by decide +kernel)

end Starring.Convergence
