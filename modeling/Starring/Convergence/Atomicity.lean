import Starring.Convergence.Lifecycle

/-! A refused call leaves the deployment alone, with one exception: a retryable
command writes its fields before it bumps the revision, so a bump refused at the
largest revision leaves them written. -/

namespace Starring.Convergence
open Foundation Scenario RuntimeDeployment

theorem Effect.moves {self written : RuntimeDeployment} {call : Call} {transition : Transition}
    (effect : Effect self call written) (found : call.transition = some transition)
    (fresh : transition.replays self = false) : written ≠ self := by
  intro same
  have samePhase := congrArg phase same
  cases effect with
  | acquireLease request _ admissible =>
    have above := admissible.fenced request.fencingToken (congrArg lastFencingToken same).symm
    exact Nat.lt_irrefl _ above
  | recoverBlocked _ _ _ blocked => simp [blocked] at samePhase
  | resumeRuntimePending =>
    cases found
    simp only [RuntimeDeployment.resumeRuntimePending, decide_eq_false_iff_not] at fresh
    exact fresh samePhase.symm
  | recordRetryableFailure _ _ _ _ _ phase | recordBlockedFailure _ _ _ phase =>
    rcases phase with phase | phase | phase <;> simp [phase] at samePhase
  | supersede _ _ _ _ _ running => simp [← samePhase, RuntimeDeploymentPhaseV1.isTerminal] at running
  | cancel _ _ _ _ early =>
    simp [← samePhase, isCancellable, RuntimeDeploymentPhaseV1.kind] at early
  | supersedeAwaiting | supersedeLive | cancelDrain => cases found
  | acceptPreflight _ _ _ phase | requestDrain _ _ phase | acceptDrain _ _ _ phase | beginActivation _ _ phase
  | acceptActivation _ _ _ phase | beginPanelReconciliation _ _ phase | acceptPanelCertificate _ _ _ phase
  | certifyLive _ _ _ _ _ _ phase | recoverLive _ _ _ phase => simp [phase] at samePhase

/-- The call has passed its checks, and only the bump of the revision is left to do. -/
def Call.ReachesBump (call : Call) (self : RuntimeDeployment) : Prop :=
  ∃ transition written, call.transition = some transition ∧ transition.replays self = false ∧
    transition.write self = .ok written

theorem exec_overflow {call : Call} {self : RuntimeDeployment} (reaches : call.ReachesBump self)
    (full : ¬self.revision.get + 1 < 2 ^ 64) :
    (call.exec self).1 = .error .revisionOverflow ∧ (call.exec self).2 ≠ self := by
  obtain ⟨transition, written, found, fresh, wrote⟩ := reaches
  have effect := effect_of_write found wrote
  have refused : ∃ error, written.revision.next = .error error := by
    rcases ok_or_error written.revision.next with advanced | refused
    · rw [effect.frame.2.2.2.2.2] at advanced
      exact absurd ((Counter.next_ok_iff _).mp advanced) full
    · exact refused
  obtain ⟨error, refused⟩ := refused
  have ran : call.exec self = (.error .revisionOverflow, written) := by
    rw [call.exec_transition self found]
    simp [Transition.apply, Rule.run, fresh, wrote, bumpRevision, refused]
  rw [ran]
  exact ⟨rfl, effect.moves found fresh⟩

namespace Scenario

/-- The requested deployment at the largest revision. -/
def exhausted : RuntimeDeployment := { start with revision := ⟨2 ^ 64 - 1, by decide, by decide⟩ }

def exhaustedLease : LeaseRequestV1 :=
  { expectedRevision := exhausted.revision, controllerId := controller, fencingToken := .first, now := 1
    expiresAt := 51 }

end Scenario

end Starring.Convergence
