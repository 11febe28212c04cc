import Starring.Convergence.Lifecycle

/-! Fencing of controllers. Runs here are raw: a call leaves the deployment as the
code leaves it, whatever it answers. Leases are granted with ever larger tokens, and
a guarded call gets through only under the lease granted last. -/

namespace Starring.Convergence
open Foundation Scenario RuntimeDeployment List RuntimeDeployment

def LeaseRequestV1.grant (request : LeaseRequestV1) : ControllerLeaseV1 :=
  { controllerId := request.controllerId, fencingToken := request.fencingToken, acquiredAt := request.now,
    expiresAt := request.expiresAt }

def Call.leaseRequest : Call → Option LeaseRequestV1
  | acquireLease request => some request
  | recoverBlocked request => some request.lease
  | _ => none

abbrev DeploymentEvent := Event RuntimeDeployment Call (Except RuntimeDeploymentError TransitionOutcomeV1)

/-- The lease an event put in place of what was there before. -/
def installed (entry : DeploymentEvent) : Option ControllerLeaseV1 :=
  if entry.after.controllerLease = entry.before.controllerLease then none else entry.after.controllerLease

variable {self written : RuntimeDeployment} {call : Call}

/-- What a write does to the lease: grant the one asked for, or keep or drop the one there is. -/
theorem Effect.lease (effect : Effect self call written) :
    (∃ request, call.leaseRequest = some request ∧ self.LeaseAdmissible request ∧
      written.controllerLease = some request.grant ∧ written.lastFencingToken = some request.fencingToken) ∨
    ((written.controllerLease = self.controllerLease ∨ written.controllerLease = none) ∧
      written.lastFencingToken = self.lastFencingToken) := by
  cases effect with
  | acquireLease request _ admissible => exact .inl ⟨request, rfl, admissible, rfl, rfl⟩
  | recoverBlocked request _ _ _ _ _ _ _ admissible => exact .inl ⟨request.lease, rfl, admissible, rfl, rfl⟩
  | recordRetryableFailure | recordBlockedFailure | certifyLive | supersede | cancel | supersedeAwaiting
  | supersedeLive => exact .inr ⟨.inr rfl, rfl⟩
  | _ => exact .inr ⟨.inl rfl, rfl⟩

variable {guard : CommandGuardV1}

theorem Effect.guarded (effect : Effect self call written) (under : call.guard = some guard) : self.Guarded guard := by
  cases effect with
  | acquireLease | recoverBlocked | recoverLive | supersedeAwaiting | supersedeLive | cancelDrain => cases under
  | acceptPreflight _ _ guarded | requestDrain _ guarded | acceptDrain _ _ guarded | beginActivation _ guarded
  | acceptActivation _ _ guarded | recordRetryableFailure _ _ _ _ guarded | recordBlockedFailure _ _ guarded
  | resumeRuntimePending _ _ guarded | beginPanelReconciliation _ guarded | acceptPanelCertificate _ _ guarded
  | certifyLive _ _ _ _ _ guarded | supersede _ _ _ _ guarded | cancel _ _ _ guarded =>
    cases under
    exact guarded

theorem Call.exec_lease (call : Call) (self : RuntimeDeployment) :
    (∃ request, call.leaseRequest = some request ∧ self.LeaseAdmissible request ∧
      (call.exec self).2.controllerLease = some request.grant ∧
      (call.exec self).2.lastFencingToken = some request.fencingToken) ∨
    (((call.exec self).2.controllerLease = self.controllerLease ∨ (call.exec self).2.controllerLease = none) ∧
      (call.exec self).2.lastFencingToken = self.lastFencingToken) := by
  have outcome := call.exec_outcome self
  generalize call.exec self = answer at outcome
  cases outcome with
  | replayed | refused error => exact .inr ⟨.inl rfl, rfl⟩
  | applied written revision effect next => exact effect.lease
  | overflowed transition written retryable fresh effect full => exact effect.lease

theorem Call.exec_guarded (self : RuntimeDeployment) (under : call.guard = some guard) :
    (call.exec self).2 = self ∨ self.Guarded guard := by
  have outcome := call.exec_outcome self
  generalize call.exec self = answer at outcome
  cases outcome with
  | replayed => exact .inl rfl
  | refused error => exact .inl rfl
  | applied written revision effect next | overflowed transition written retryable fresh effect full =>
    exact .inr (effect.guarded under)

/-- The leases granted so far, and how the deployment remembers them. -/
structure Tracks (past : List DeploymentEvent) (deployment : RuntimeDeployment) : Prop where
  increasing : (past.filterMap installed).Pairwise fun earlier later => earlier.fencingToken < later.fencingToken
  last : ∀ lease, deployment.controllerLease = some lease → (past.filterMap installed).getLast? = some lease
  token : ∀ lease, deployment.controllerLease = some lease → deployment.lastFencingToken = some lease.fencingToken
  bound : ∀ lease ∈ past.filterMap installed, ∃ token,
    deployment.lastFencingToken = some token ∧ lease.fencingToken ≤ token

theorem installed_eq_none (entry : DeploymentEvent)
    (kept : entry.after.controllerLease = entry.before.controllerLease ∨ entry.after.controllerLease = none) :
    installed entry = none := by
  unfold installed
  rcases kept with same | dropped
  · rw [if_pos same]
  · split
    · rfl
    · exact dropped

variable {past : List DeploymentEvent}

theorem Tracks.fresh (tracks : Tracks past self) {request : LeaseRequestV1} (admissible : self.LeaseAdmissible request) :
    self.controllerLease ≠ some request.grant := by
  intro held
  have above := admissible.fenced _ (tracks.token _ held)
  exact Nat.lt_irrefl _ above

theorem Tracks.step (tracks : Tracks past self) (call : Call) :
    Tracks (past ++ [event Call.exec self call]) (call.exec self).2 := by
  rcases call.exec_lease self with ⟨request, -, admissible, leased, token⟩ | ⟨kept, token⟩
  · have grants : installed (event Call.exec self call) = some request.grant := by
      unfold installed event
      rw [if_neg, leased]
      simpa only [leased] using fun same => tracks.fresh admissible same.symm
    have log : (past ++ [event Call.exec self call]).filterMap installed =
        past.filterMap installed ++ [request.grant] := by
      simp [filterMap_append, grants]
    have above : ∀ lease ∈ past.filterMap installed, lease.fencingToken < request.fencingToken := by
      intro lease member
      obtain ⟨last, found, bound⟩ := tracks.bound lease member
      exact Nat.lt_of_le_of_lt bound (admissible.fenced last found)
    refine ⟨?_, ?_, ?_, ?_⟩
    · rw [log, pairwise_append]
      exact ⟨tracks.increasing, pairwise_singleton _ _, by simpa [LeaseRequestV1.grant] using above⟩
    · intro lease found
      rw [log, getLast?_append, getLast?_singleton, ← found, leased]
      rfl
    · intro lease found
      obtain rfl := Option.some.inj (leased.symm.trans found)
      exact token
    · intro lease member
      refine ⟨request.fencingToken, token, ?_⟩
      rw [log, mem_append, mem_singleton] at member
      rcases member with earlier | rfl
      · exact Nat.le_of_lt (above lease earlier)
      · exact Nat.le_refl _
  · have log : (past ++ [event Call.exec self call]).filterMap installed = past.filterMap installed := by
      simp [filterMap_append, installed_eq_none (event Call.exec self call) kept]
    have held : ∀ lease, (call.exec self).2.controllerLease = some lease → self.controllerLease = some lease := by
      rcases kept with same | dropped
      · intro lease found
        rw [← same, found]
      · simp [dropped]
    refine ⟨?_, ?_, ?_, ?_⟩
    · rw [log]
      exact tracks.increasing
    · intro lease found
      rw [log]
      exact tracks.last lease (held lease found)
    · intro lease found
      rw [token]
      exact tracks.token lease (held lease found)
    · rw [log, token]
      exact tracks.bound

theorem run_tracks {identity : RuntimeDeploymentIdentityV1} {target : RuntimeDeploymentTargetV1}
    {runtimeGeneration : RuntimeGeneration} {previousRuntime : Option RuntimeProcessIdentityV1}
    {requestedAt : DateTime} {start : RuntimeDeployment}
    (requested : request identity target runtimeGeneration previousRuntime requestedAt =
      .ok start) (calls : List Call) :
    Tracks (history Call.exec start calls) (final Call.exec start calls) := by
  refine history_invariant Call.exec Tracks start calls ?_ fun past self call tracks => tracks.step call
  obtain ⟨-, rfl⟩ := request_eq_ok.mp requested
  exact ⟨by simp, by simp, by simp, by simp⟩

/-- What fencing promises of the calls of one run, made by any controllers in any order. -/
structure Fenced (log : List DeploymentEvent) : Prop where
  increasing : (log.filterMap installed).Pairwise fun earlier later => earlier.fencingToken < later.fencingToken
  exclusive : ∀ entry ∈ log, ∀ lease, installed entry = some lease →
    ∃ request, entry.call.leaseRequest = some request ∧ lease = request.grant ∧
      ∀ held, entry.before.controllerLease = some held → held.controllerId ≠ lease.controllerId →
        held.expiresAt ≤ request.now
  guarded : ∀ earlier entry later, log = earlier ++ entry :: later → ∀ guard revision,
    entry.call.guard = some guard → entry.answer = .ok (.applied revision) →
    guard.expectedRevision = entry.before.revision ∧
      ∃ lease, (earlier.filterMap installed).getLast? = some lease ∧ guard.controllerId = lease.controllerId ∧
        guard.fencingToken = lease.fencingToken ∧ guard.now < lease.expiresAt
  fenced : ∀ earlier entry later, log = earlier ++ entry :: later → ∀ lease, installed entry = some lease →
    ∀ stale ∈ later, ∀ guard, stale.call.guard = some guard → guard.fencingToken < lease.fencingToken →
      stale.after = stale.before
  applied : ∀ entry ∈ log, ∀ revision, entry.answer = .ok (.applied revision) →
    entry.after.revision = revision ∧ revision.get = entry.before.revision.get + 1
  replayed : ∀ entry ∈ log, ∀ revision, entry.answer = .ok (.replayed revision) → entry.after = entry.before

variable {revision : DeploymentRevision}

/-- An answer `Applied` or `Replayed`, read off the outcome of the call. -/
theorem Call.exec_applied (answer : (call.exec self).1 = .ok (.applied revision)) :
    ∃ written, Effect self call written ∧ self.revision.next = .ok revision ∧
      (call.exec self).2 = { written with revision } := by
  have outcome := call.exec_outcome self
  generalize call.exec self = result at outcome answer
  cases outcome with
  | applied written bumped effect next =>
    cases answer
    exact ⟨written, effect, next, rfl⟩
  | _ => cases answer

theorem Call.exec_replayed (answer : (call.exec self).1 = .ok (.replayed revision)) : (call.exec self).2 = self := by
  have outcome := call.exec_outcome self
  generalize call.exec self = result at outcome answer
  cases outcome with
  | replayed => rfl
  | _ => cases answer

theorem Tracks.exclusive (tracks : Tracks past self) (call : Call) (lease : ControllerLeaseV1)
    (grants : installed (event Call.exec self call) = some lease) :
    ∃ request, call.leaseRequest = some request ∧ lease = request.grant ∧
      ∀ held, self.controllerLease = some held → held.controllerId ≠ lease.controllerId →
        held.expiresAt ≤ request.now := by
  rcases call.exec_lease self with ⟨request, asked, admissible, leased, -⟩ | ⟨kept, -⟩
  · have granted : lease = request.grant := by
      have moved : (call.exec self).2.controllerLease ≠ self.controllerLease := by
        rw [leased]
        exact (tracks.fresh admissible).symm
      unfold installed event at grants
      rw [if_neg moved, leased] at grants
      exact (Option.some.inj grants).symm
    refine ⟨request, asked, granted, fun held found different => ?_⟩
    by_contra running
    have same := (admissible.held held found (not_le.mp running)).1
    exact different (by rw [granted, same]; rfl)
  · rw [installed_eq_none (event Call.exec self call) kept] at grants
    cases grants

theorem Tracks.guarded (tracks : Tracks past self) (under : call.guard = some guard)
    (answer : (call.exec self).1 = .ok (.applied revision)) : guard.expectedRevision = self.revision ∧
      ∃ lease, (past.filterMap installed).getLast? = some lease ∧ guard.controllerId = lease.controllerId ∧
        guard.fencingToken = lease.fencingToken ∧ guard.now < lease.expiresAt := by
  obtain ⟨written, effect, -, -⟩ := Call.exec_applied answer
  have guarded := effect.guarded under
  obtain ⟨lease, held, running, controller, token⟩ := guarded.lease
  exact ⟨guarded.revision, lease, tracks.last lease held, controller.symm, token.symm, running⟩

/-- A guarded call whose token is behind a lease granted before changes nothing. -/
theorem Tracks.fenced (tracks : Tracks past self) (under : call.guard = some guard) {lease : ControllerLeaseV1}
    (granted : lease ∈ past.filterMap installed) (stale : guard.fencingToken < lease.fencingToken) :
    (call.exec self).2 = self := by
  refine (call.exec_guarded self under).resolve_right fun guarded => ?_
  obtain ⟨held, found, -, -, token⟩ := guarded.lease
  obtain ⟨last, remembered, bound⟩ := tracks.bound lease granted
  obtain rfl := Option.some.inj (remembered.symm.trans (tracks.token held found))
  have below : guard.fencingToken.get < lease.fencingToken.get := stale
  have above : lease.fencingToken.get ≤ held.fencingToken.get := bound
  rw [token] at above
  exact absurd above (Nat.not_le.mpr below)

/-- Every run from a request is fenced, under any interleaving of calls by any controllers. -/
theorem run_fenced (identity : RuntimeDeploymentIdentityV1) (target : RuntimeDeploymentTargetV1)
    (runtimeGeneration : RuntimeGeneration) (previousRuntime : Option RuntimeProcessIdentityV1)
    (requestedAt : DateTime) (start : RuntimeDeployment) (calls : List Call)
    (requested : request identity target runtimeGeneration previousRuntime requestedAt =
      .ok start) : Fenced (history Call.exec start calls) where
  increasing := (run_tracks requested calls).increasing
  exclusive entry member lease grants := by
    obtain ⟨earlier, later, split⟩ := append_of_mem member
    obtain ⟨first, call, rest, -, -, rfl, -⟩ := history_split _ _ _ _ _ _ split
    exact (run_tracks requested first).exclusive call lease grants
  guarded earlier entry later split guard revision under answer := by
    obtain ⟨first, call, rest, -, rfl, rfl, -⟩ := history_split _ _ _ _ _ _ split
    exact (run_tracks requested first).guarded under answer
  fenced earlier entry later split lease grants stale member guard under behind := by
    obtain ⟨between, after, rfl⟩ := append_of_mem member
    have reassociated : history Call.exec start calls = (earlier ++ entry :: between) ++ stale :: after := by
      simpa using split
    obtain ⟨first, call, rest, -, past, rfl, -⟩ := history_split _ _ _ _ _ _ reassociated
    have granted : lease ∈ (history Call.exec start first).filterMap installed := by
      rw [← past]
      exact mem_filterMap.mpr ⟨entry, by simp, grants⟩
    exact (run_tracks requested first).fenced under granted behind
  applied entry member revision answer := by
    obtain ⟨earlier, later, split⟩ := append_of_mem member
    obtain ⟨first, call, rest, -, -, rfl, -⟩ := history_split _ _ _ _ _ _ split
    obtain ⟨written, -, next, after⟩ := Call.exec_applied answer
    exact ⟨by rw [event, after], Counter.next_eq_ok next⟩
  replayed entry member revision answer := by
    obtain ⟨earlier, later, split⟩ := append_of_mem member
    obtain ⟨first, call, rest, -, -, rfl, -⟩ := history_split _ _ _ _ _ _ split
    exact Call.exec_replayed answer

theorem scenario_fenced :
    request Scenario.identity Scenario.target .first none 0 = .ok Scenario.start ∧
      Fenced (history Call.exec Scenario.start (goLive ++ goLiveAgain)) :=
  ⟨rfl, run_fenced Scenario.identity Scenario.target .first none 0 Scenario.start _ rfl⟩

/-- A deployment that waits on a blocked failure has no lease. -/
def RuntimeDeployment.BlockedUnleased (deployment : RuntimeDeployment) : Prop :=
  ∀ failure, deployment.phase = .runtimePending (.blocked failure) → deployment.controllerLease = none

theorem Effect.blockedUnleased (effect : Effect self call written) (before : self.BlockedUnleased) :
    written.BlockedUnleased := by
  cases effect with
  | acquireLease request waiting _ => exact fun failure blocked => absurd blocked (waiting.unblocked failure)
  | recordBlockedFailure => exact fun _ _ => rfl
  | cancelDrain => exact before
  | _ => rintro _ ⟨⟩

theorem Call.exec_blockedUnleased (call : Call) (self : RuntimeDeployment) (before : self.BlockedUnleased) :
    (call.exec self).2.BlockedUnleased := by
  have outcome := call.exec_outcome self
  generalize call.exec self = answer at outcome
  cases outcome with
  | replayed => exact before
  | refused error => exact before
  | applied written revision effect next | overflowed transition written retryable fresh effect full =>
    exact effect.blockedUnleased before

/-- Without a lease, a blocked deployment is moved only by the recovery that names its failure. -/
theorem Effect.ofBlocked {failure : RuntimeFailureV1} (effect : Effect self call written)
    (blocked : self.phase = .runtimePending (.blocked failure)) (unleased : self.controllerLease = none) :
    ∃ request, call = .recoverBlocked request ∧ request.expectedFailureId = failure.failureId ∧
      request.expectedRevision = self.revision := by
  have unguarded : ∀ guard, call.guard ≠ some guard := by
    intro guard under
    obtain ⟨lease, held, -⟩ := (effect.guarded under).lease
    simp [unleased] at held
  cases effect with
  | acquireLease request waiting _ => exact absurd blocked (waiting.unblocked failure)
  | recoverBlocked request other recorded otherwise named _ _ _ admissible =>
    rw [blocked] at otherwise
    cases otherwise
    exact ⟨request, rfl, named.symm, admissible.revision⟩
  | recoverLive _ _ _ phase | supersedeAwaiting _ _ _ _ _ phase | supersedeLive _ _ _ _ _ _ phase =>
    simp [blocked] at phase
  | cancelDrain _ _ _ phase => simp [blocked] at phase
  | _ => exact absurd rfl (unguarded _)

theorem Effect.ne_ended (effect : Effect self call written) :
    self.phase.kind ≠ .superseded ∧ self.phase.kind ≠ .cancelled := by
  cases effect with
  | acquireLease _ _ admissible | recoverBlocked _ _ _ _ _ _ _ _ admissible =>
    have running := admissible.running
    cases phase : self.phase <;>
      simp_all [RuntimeDeploymentPhaseV1.isTerminal, RuntimeDeploymentPhaseV1.kind]
  | supersede _ _ _ _ _ running =>
    cases phase : self.phase <;>
      simp_all [RuntimeDeploymentPhaseV1.isTerminal, RuntimeDeploymentPhaseV1.kind]
  | cancel _ _ _ _ early =>
    cases phase : self.phase <;>
      simp_all [isCancellable, RuntimeDeploymentPhaseV1.kind]
  | recordRetryableFailure _ _ _ _ _ phase | recordBlockedFailure _ _ _ phase =>
    rcases phase with phase | phase | phase <;> simp [phase, RuntimeDeploymentPhaseV1.kind]
  | cancelDrain _ _ _ phase => rcases phase with phase | phase <;> simp [phase, RuntimeDeploymentPhaseV1.kind]
  | acceptPreflight _ _ _ phase | requestDrain _ _ phase | acceptDrain _ _ _ phase | beginActivation _ _ phase
  | acceptActivation _ _ _ phase | resumeRuntimePending _ _ _ phase | beginPanelReconciliation _ _ phase
  | acceptPanelCertificate _ _ _ phase | certifyLive _ _ _ _ _ _ phase | recoverLive _ _ _ phase
  | supersedeAwaiting _ _ _ _ _ phase | supersedeLive _ _ _ _ _ _ phase =>
    simp [phase, RuntimeDeploymentPhaseV1.kind]

/-- A blocked failure is left by its own recovery only, and the end of a deployment not at all. -/
theorem blocked_failure_sticky (identity : RuntimeDeploymentIdentityV1) (target : RuntimeDeploymentTargetV1)
    (runtimeGeneration : RuntimeGeneration) (previousRuntime : Option RuntimeProcessIdentityV1)
    (requestedAt : DateTime) (start : RuntimeDeployment) (calls : List Call)
    (requested : request identity target runtimeGeneration previousRuntime requestedAt =
      .ok start) :
    (∀ failure, (final Call.exec start calls).phase = .runtimePending (.blocked failure) →
      (final Call.exec start calls).controllerLease = none ∧
      ∀ (call : Call) (revision : DeploymentRevision),
        (call.exec (final Call.exec start calls)).1 = .ok (.applied revision) →
        ∃ request, call = .recoverBlocked request ∧ request.expectedFailureId = failure.failureId ∧
          request.expectedRevision = (final Call.exec start calls).revision) ∧
    ∀ deployment : RuntimeDeployment, deployment.phase.kind = .superseded ∨ deployment.phase.kind = .cancelled →
      ∀ (call : Call) (revision : DeploymentRevision), (call.exec deployment).1 ≠ .ok (.applied revision) := by
  constructor
  · intro failure blocked
    have fresh : start.BlockedUnleased := by
      obtain ⟨-, rfl⟩ := request_eq_ok.mp requested
      rintro _ ⟨⟩
    have unleased := final_invariant Call.exec BlockedUnleased start calls fresh
      Call.exec_blockedUnleased failure blocked
    refine ⟨unleased, fun call revision answer => ?_⟩
    obtain ⟨written, effect, -, -⟩ := Call.exec_applied answer
    exact effect.ofBlocked blocked unleased
  · intro deployment ended call revision answer
    obtain ⟨written, effect, -, -⟩ := Call.exec_applied answer
    exact ended.elim effect.ne_ended.1 effect.ne_ended.2

namespace Scenario

def failure : RuntimeFailureV1 :=
  { failureId := ⟨"failure-1", by decide⟩, kind := .invariantViolation, code := "panel_drift"
    message := "panels drifted", recordedAt := 7 }

/-- The runtime is pending, and the controller records a blocked failure. -/
def getBlocked : List Call := goLive.take 6 ++ [.recordBlockedFailure (Scenario.guard 6 0 7) failure]

end Scenario

theorem scenario_sticky :
    (final Call.exec Scenario.start Scenario.getBlocked).phase = .runtimePending (.blocked Scenario.failure) ∧
      (final Call.exec Scenario.start Scenario.getBlocked).controllerLease = none ∧
      ∀ (call : Call) (revision : DeploymentRevision),
        (call.exec (final Call.exec Scenario.start Scenario.getBlocked)).1 = .ok (.applied revision) →
        ∃ request, call = .recoverBlocked request ∧ request.expectedFailureId = failure.failureId ∧
          request.expectedRevision = (final Call.exec Scenario.start Scenario.getBlocked).revision :=
  ⟨by decide +kernel, (blocked_failure_sticky Scenario.identity Scenario.target .first none 0 Scenario.start
    Scenario.getBlocked rfl).1 Scenario.failure (by decide +kernel)⟩

end Starring.Convergence
