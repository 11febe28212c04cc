import Starring.Convergence.Fencing

/-! The Live attestations of one run. Between two of them lies exactly one
recovery, and the later one is built from a new process, new panels and a new
gateway, on the preflight, drain and activation accepted at the start. -/

namespace Starring.Convergence
open Foundation Scenario List

/-- The evidence that is accepted once and for all. -/
structure AcceptedEvidence where
  preflight : Option PreflightAttestationV1
  drain : Option DrainAttestationV1
  activation : Option ActivationAttestationV1
  deriving DecidableEq

def RuntimeDeployment.acceptedEvidence (self : RuntimeDeployment) : AcceptedEvidence :=
  { preflight := self.preflight, drain := self.drain, activation := self.activation }

/-- What a run says about Live: an attestation certified, or the loss of one recorded. -/
inductive LiveEntry where
  | certified (live : LiveAttestationV1) (accepted : AcceptedEvidence)
  | recovered (recovery : LiveRecoveryAttestationV1) (accepted : AcceptedEvidence)
  deriving DecidableEq

def LiveEntry.isCertified : LiveEntry → Bool
  | certified _ _ => true
  | recovered _ _ => false

def liveEntry (entry : DeploymentEvent) : Option LiveEntry :=
  match entry.call, entry.answer with
  | .certifyLive _ _ _, .ok (.applied _) =>
    entry.after.live.map fun live => .certified live entry.after.acceptedEvidence
  | .recoverLive _, .ok (.applied _) =>
    entry.after.lastLiveRecovery.map fun recovery => .recovered recovery entry.after.acceptedEvidence
  | _, _ => none

def Follows : LiveEntry → LiveEntry → Prop
  | .certified live accepted, .recovered recovery kept =>
    recovery.priorLive = live ∧ live.certifiedAt ≤ recovery.evidenceAt ∧
      recovery.evidenceAt ≤ recovery.recoveredAt ∧ kept = accepted
  | .recovered recovery accepted, .certified live kept =>
    recovery.recoveredAt ≤ live.panelCertificate.reconciledAt ∧
      live.panelCertificate.reconciledAt ≤ live.gatewayReady.readyAt ∧
      live.gatewayReady.readyAt ≤ live.certifiedAt ∧
      live.processInstanceId ≠ recovery.priorLive.processInstanceId ∧
      live.panelCertificate ≠ recovery.priorLive.panelCertificate ∧
      live.gatewayReady ≠ recovery.priorLive.gatewayReady ∧ kept = accepted
  | _, _ => False

section
variable {self written : RuntimeDeployment} {call : Call}
open RuntimeDeployment

theorem Effect.keepsEvidence (effect : Effect self call written) (valid : self.Valid) :
    (∀ attestation, self.preflight = some attestation → written.preflight = some attestation) ∧
      (∀ attestation, self.drain = some attestation → written.drain = some attestation) ∧
      ∀ attestation, self.activation = some attestation → written.activation = some attestation := by
  have shape := valid.evidence_eq
  cases effect with
  | acceptPreflight _ _ _ phase | acceptDrain _ _ _ phase | acceptActivation _ _ _ phase =>
    simp only [phase, evidence, Prod.mk.injEq, Option.isSome_eq_false_iff, Option.isNone_iff_eq_none] at shape
    simp [shape]
  | _ => exact ⟨fun _ => id, fun _ => id, fun _ => id⟩

theorem Effect.keepsAccepted (effect : Effect self call written) (valid : self.Valid)
    (activated : self.activation ≠ none) : written.acceptedEvidence = self.acceptedEvidence := by
  obtain ⟨activation, found⟩ := Option.ne_none_iff_exists'.mp activated
  obtain ⟨drain, drained, -⟩ := (valid.activation activation found).drained
  obtain ⟨preflight, checked, -⟩ := (valid.drain drain drained).checked
  obtain ⟨keepsPreflight, keepsDrain, keepsActivation⟩ := effect.keepsEvidence valid
  simp only [acceptedEvidence, keepsPreflight _ checked, keepsDrain _ drained, keepsActivation _ found, checked,
    drained, found]

/-- A raw run keeps its deployment sound: a refused bump leaves a sound deployment, too. -/
theorem Call.exec_sound (call : Call) (self : RuntimeDeployment) (before : self.Sound) :
    (call.exec self).2.Sound := by
  have outcome := call.exec_outcome self
  generalize call.exec self = answer at outcome
  cases outcome with
  | replayed => exact before
  | refused error => exact before
  | applied written revision effect next => exact effect.sound before revision
  | overflowed transition written retryable fresh effect full => exact effect.sound before written.revision

/-- What the deployment still knows of the last entry. -/
def Recalls (self : RuntimeDeployment) : LiveEntry → Prop
  | .certified live accepted =>
    (self.phase = .live ∧ self.live = some live ∧ self.acceptedEvidence = accepted) ∨
      self.phase.kind = .superseded
  | .recovered recovery accepted =>
    self.phase ≠ .live ∧ self.lastLiveRecovery = some recovery ∧ self.acceptedEvidence = accepted

theorem Effect.ofLive (effect : Effect self call written) (phase : self.phase = .live) :
    (∃ request, call = .recoverLive request) ∨ written.phase.kind = .superseded ∨ written = self := by
  cases effect with
  | recoverLive request => exact .inl ⟨request, rfl⟩
  | supersedeLive => exact .inr (.inl rfl)
  | cancelDrain => exact .inr (.inr rfl)
  | acquireLease _ _ admissible =>
    have running := admissible.running
    simp [phase, RuntimeDeploymentPhaseV1.isTerminal] at running
  | supersede _ _ _ _ _ running => simp [phase, RuntimeDeploymentPhaseV1.isTerminal] at running
  | cancel _ _ _ _ early => simp [phase, isCancellable, RuntimeDeploymentPhaseV1.kind] at early
  | recordRetryableFailure _ _ _ _ _ other | recordBlockedFailure _ _ _ other => simp [BringingUp, phase] at other
  | recoverBlocked _ _ _ other | acceptPreflight _ _ _ other | requestDrain _ _ other | acceptDrain _ _ _ other
  | beginActivation _ _ other | acceptActivation _ _ _ other | resumeRuntimePending _ _ _ other
  | beginPanelReconciliation _ _ other | acceptPanelCertificate _ _ _ other | certifyLive _ _ _ _ _ _ other
  | supersedeAwaiting _ _ _ _ _ other => simp [phase] at other

/-- What the deployment knows of the last entry survives every write that makes no entry. -/
theorem Effect.recalls (effect : Effect self call written) (valid : self.Valid) (entry : LiveEntry)
    (recalled : Recalls self entry) (notRecovery : ∀ request, call ≠ .recoverLive request)
    (notCertification : ∀ guard gatewayReady certifiedAt, call ≠ .certifyLive guard gatewayReady certifiedAt) :
    Recalls written entry := by
  cases entry with
  | certified live accepted =>
    rcases recalled with ⟨phase, found, kept⟩ | ended
    · rcases effect.ofLive phase with ⟨request, same⟩ | superseded | rfl
      · exact absurd same (notRecovery request)
      · exact .inr superseded
      · exact .inl ⟨phase, found, kept⟩
    · exact absurd ended effect.ne_ended.1
  | recovered recovery accepted =>
    obtain ⟨phase, found, kept⟩ := recalled
    have activated : self.activation ≠ none := by simp [(valid.recovery recovery found).activation]
    have same := (effect.keepsAccepted valid activated).trans kept
    cases effect with
    | certifyLive => exact absurd rfl (notCertification _ _ _)
    | recoverLive _ _ _ other | supersedeLive _ _ _ _ _ _ other => exact absurd other phase
    | acquireLease | cancelDrain => exact ⟨phase, found, same⟩
    | _ => exact ⟨by simp, found, same⟩

/-- A new certification follows a recovery, and nothing of the lost Live is in it. -/
theorem certified_follows (valid : self.Valid) (phase : self.phase = .awaitingGatewayReady)
    {live : LiveAttestationV1} (panel : self.panelCertificate = some live.panelCertificate)
    (gateway : self.GatewayValid live.gatewayReady)
    (process : live.processInstanceId = live.gatewayReady.processInstanceId)
    (ready : live.panelCertificate.reconciledAt ≤ live.gatewayReady.readyAt)
    (certified : live.gatewayReady.readyAt ≤ live.certifiedAt) (entry : LiveEntry)
    (recalled : Recalls self entry) : Follows entry (.certified live self.acceptedEvidence) := by
  cases entry with
  | certified => simp [Recalls, phase, RuntimeDeploymentPhaseV1.kind] at recalled
  | recovered recovery accepted =>
    obtain ⟨-, found, kept⟩ := recalled
    obtain ⟨recovered, otherProcess⟩ := (valid.panel _ panel).recovered recovery found
    have prior := valid.recovery recovery found
    obtain ⟨_, certificated, samePanel⟩ := gateway.process
    obtain rfl := Option.some.inj (certificated.symm.trans panel)
    have different : live.gatewayReady.processInstanceId ≠ recovery.priorLive.processInstanceId :=
      samePanel ▸ otherProcess
    refine ⟨recovered, ready, certified, process ▸ different, fun same => ?_, fun same => ?_, kept⟩
    · exact otherProcess (by rw [same, prior.panelProcess])
    · exact different (by rw [same, prior.gatewayProcess])

theorem recovered_follows {recovery : LiveRecoveryAttestationV1} (phase : self.phase = .live)
    (found : self.live = some recovery.priorLive) (lost : recovery.priorLive.certifiedAt ≤ recovery.evidenceAt)
    (recovered : recovery.evidenceAt ≤ recovery.recoveredAt) (entry : LiveEntry)
    (recalled : Recalls self entry) : Follows entry (.recovered recovery self.acceptedEvidence) := by
  cases entry with
  | certified live accepted =>
    rcases recalled with ⟨-, certified, kept⟩ | ended
    · obtain rfl := Option.some.inj (found.symm.trans certified)
      exact ⟨rfl, lost, recovered, kept⟩
    · simp [phase, RuntimeDeploymentPhaseV1.kind] at ended
  | recovered => exact absurd phase recalled.1

end

/-- The Live entries of a run so far, and what the deployment knows of the last of them. At the
largest revision no further entry is made. -/
structure Chronicle (past : List DeploymentEvent) (deployment : RuntimeDeployment) : Prop where
  sound : deployment.Sound
  chain : (past.filterMap liveEntry).IsChain Follows
  recalled : deployment.revision.get + 1 < 2 ^ 64 →
    ∀ entry, (past.filterMap liveEntry).getLast? = some entry → Recalls deployment entry

section
variable {past : List DeploymentEvent} {self : RuntimeDeployment} {call : Call}

theorem Chronicle.quiet (chronicle : Chronicle past self)
    (silent : liveEntry (event Call.exec self call) = none)
    (recalled : (call.exec self).2.revision.get + 1 < 2 ^ 64 →
      ∀ entry, (past.filterMap liveEntry).getLast? = some entry → Recalls (call.exec self).2 entry) :
    Chronicle (past ++ [event Call.exec self call]) (call.exec self).2 := by
  have log : (past ++ [event Call.exec self call]).filterMap liveEntry = past.filterMap liveEntry := by
    simp [filterMap_append, silent]
  exact ⟨call.exec_sound self chronicle.sound, log ▸ chronicle.chain, log ▸ recalled⟩

theorem Chronicle.extend (chronicle : Chronicle past self) (entry : LiveEntry)
    (entered : liveEntry (event Call.exec self call) = some entry) (room : self.revision.get + 1 < 2 ^ 64)
    (follows : ∀ last, Recalls self last → Follows last entry) (recalls : Recalls (call.exec self).2 entry) :
    Chronicle (past ++ [event Call.exec self call]) (call.exec self).2 := by
  have log : (past ++ [event Call.exec self call]).filterMap liveEntry = past.filterMap liveEntry ++ [entry] := by
    simp [filterMap_append, entered]
  refine ⟨call.exec_sound self chronicle.sound, ?_, ?_⟩
  · rw [log, isChain_append]
    refine ⟨chronicle.chain, isChain_singleton _, fun last found next here => ?_⟩
    obtain rfl : entry = next := by simpa using here
    exact follows last (chronicle.recalled room last found)
  · intro _ last found
    rw [log, getLast?_append, getLast?_singleton] at found
    obtain rfl : entry = last := by simpa using found
    exact recalls

theorem liveEntry_eq_none (entry : DeploymentEvent)
    (unapplied : (∀ revision, entry.answer ≠ .ok (.applied revision)) ∨
      (∀ request, entry.call ≠ .recoverLive request) ∧
        ∀ guard gatewayReady certifiedAt, entry.call ≠ .certifyLive guard gatewayReady certifiedAt) :
    liveEntry entry = none := by
  unfold liveEntry
  split
  · next certification applied =>
    exact unapplied.elim (fun never => absurd applied (never _)) (fun other => absurd certification (other.2 _ _ _))
  · next recovery applied =>
    exact unapplied.elim (fun never => absurd applied (never _)) (fun other => absurd recovery (other.1 _))
  · rfl

theorem Chronicle.applied {written : RuntimeDeployment} {revision : DeploymentRevision}
    (chronicle : Chronicle past self) (effect : Effect self call written)
    (next : self.revision.next = .ok revision)
    (ran : call.exec self = (.ok (.applied revision), { written with revision })) :
    Chronicle (past ++ [event Call.exec self call]) (call.exec self).2 := by
  have room := (Counter.next_ok_iff _).mp ⟨_, next⟩
  by_cases recovery : ∃ request, call = .recoverLive request
  · obtain ⟨request, rfl⟩ := recovery
    cases effect with
    | recoverLive _ priorLive _ phase _ found _ lost recovered =>
      refine chronicle.extend (.recovered ⟨priorLive, request.kind, request.evidenceAt, request.recoveredAt⟩
        self.acceptedEvidence) ?_ room (recovered_follows phase found lost recovered) ?_
      · simp only [liveEntry, event, ran]
        rfl
      · rw [ran]
        exact ⟨by simp, rfl, rfl⟩
  by_cases certification : ∃ guard gatewayReady certifiedAt, call = .certifyLive guard gatewayReady certifiedAt
  · obtain ⟨guard, gatewayReady, certifiedAt, rfl⟩ := certification
    cases effect with
    | certifyLive _ _ _ activation panel _ phase accepted activated certificated ready certified =>
      refine chronicle.extend (.certified ⟨self.target, self.runtimeGeneration, gatewayReady.processInstanceId,
        activation, panel, gatewayReady, certifiedAt⟩ self.acceptedEvidence) ?_ room
        (certified_follows chronicle.sound.valid phase certificated accepted rfl ready certified) ?_
      · simp only [liveEntry, event, ran]
        rfl
      · rw [ran]
        exact .inl ⟨rfl, rfl, rfl⟩
  simp only [not_exists] at recovery certification
  refine chronicle.quiet (liveEntry_eq_none _ (.inr ⟨recovery, certification⟩)) fun _ entry found => ?_
  have recalls := effect.recalls chronicle.sound.valid entry (chronicle.recalled room entry found) recovery
    certification
  rw [ran]
  cases entry <;> exact recalls

theorem Chronicle.step (chronicle : Chronicle past self) (call : Call) :
    Chronicle (past ++ [event Call.exec self call]) (call.exec self).2 := by
  have outcome := call.exec_outcome self
  generalize ran : call.exec self = result at outcome
  cases outcome with
  | applied written revision effect next =>
    rw [← congrArg Prod.snd ran]
    exact chronicle.applied effect next ran
  | overflowed transition written retryable fresh effect full =>
    rw [← congrArg Prod.snd ran]
    refine chronicle.quiet (liveEntry_eq_none _ (.inl ?_)) fun room => ?_
    · simp [event, ran]
    · rw [ran, effect.frame.2.2.2.2.2] at room
      exact absurd room full
  | replayed | refused error =>
    rw [← congrArg Prod.snd ran]
    refine chronicle.quiet (liveEntry_eq_none _ (.inl ?_)) ?_
    · simp [event, ran]
    · rw [ran]
      exact chronicle.recalled

end

/-- Two Live attestations with one recovery between them. -/
structure Succeeds (first second : LiveAttestationV1) (firstAccepted secondAccepted : AcceptedEvidence)
    (recovery : LiveRecoveryAttestationV1) : Prop where
  prior : recovery.priorLive = first
  lost : first.certifiedAt ≤ recovery.evidenceAt
  recovered : recovery.evidenceAt ≤ recovery.recoveredAt
  reconciled : recovery.recoveredAt ≤ second.panelCertificate.reconciledAt
  ready : second.panelCertificate.reconciledAt ≤ second.gatewayReady.readyAt
  certified : second.gatewayReady.readyAt ≤ second.certifiedAt
  process : second.processInstanceId ≠ first.processInstanceId
  panel : second.panelCertificate ≠ first.panelCertificate
  gateway : second.gatewayReady ≠ first.gatewayReady
  accepted : secondAccepted = firstAccepted

/-- In a chain of entries, one certification is followed by one recovery and then the next. -/
theorem succeeds_of_chain {first second : LiveAttestationV1} {firstAccepted secondAccepted : AcceptedEvidence}
    {between later : List LiveEntry} (consecutive : ∀ entry ∈ between, entry.isCertified = false)
    (chain : (LiveEntry.certified first firstAccepted :: (between ++ .certified second secondAccepted :: later)).IsChain
      Follows) :
    ∃ recovery accepted, between = [.recovered recovery accepted] ∧
      Succeeds first second firstAccepted secondAccepted recovery := by
  match between with
  | [] => exact absurd (isChain_cons_cons.mp chain).1 id
  | .certified _ _ :: _ => simp [LiveEntry.isCertified] at consecutive
  | .recovered _ _ :: .certified _ _ :: _ => simp [LiveEntry.isCertified] at consecutive
  | .recovered _ _ :: .recovered _ _ :: _ =>
    exact absurd (isChain_cons_cons.mp (isChain_cons_cons.mp chain).2).1 id
  | [.recovered recovery accepted] =>
    obtain ⟨⟨rfl, lost, recovered, rfl⟩, rest⟩ := isChain_cons_cons.mp chain
    obtain ⟨reconciled, ready, certified, process, panel, gateway, kept⟩ := (isChain_cons_cons.mp rest).1
    exact ⟨recovery, _, rfl, rfl, lost, recovered, reconciled, ready, certified, process, panel, gateway, kept⟩

theorem Call.exec_keepsEvidence (call : Call) (self : RuntimeDeployment) (sound : self.Sound) :
    (∀ attestation, self.preflight = some attestation → (call.exec self).2.preflight = some attestation) ∧
      (∀ attestation, self.drain = some attestation → (call.exec self).2.drain = some attestation) ∧
      ∀ attestation, self.activation = some attestation → (call.exec self).2.activation = some attestation := by
  have outcome := call.exec_outcome self
  generalize call.exec self = answer at outcome
  cases outcome with
  | replayed | refused error => exact ⟨fun _ => id, fun _ => id, fun _ => id⟩
  | applied written revision effect next | overflowed transition written retryable fresh effect full =>
    exact effect.keepsEvidence sound.valid

/-- Consecutive Live attestations of a run are separated by one recovery and share nothing but the
evidence accepted before the runtime came up, which never changes once it is accepted. -/
theorem live_succession (identity : RuntimeDeploymentIdentityV1) (target : RuntimeDeploymentTargetV1)
    (runtimeGeneration : RuntimeGeneration) (previousRuntime : Option RuntimeProcessIdentityV1)
    (requestedAt : DateTime) (start : RuntimeDeployment) (calls : List Call)
    (requested : RuntimeDeployment.request identity target runtimeGeneration previousRuntime requestedAt =
      .ok start) :
    (∀ earlier first firstAccepted between second secondAccepted later,
      (history Call.exec start calls).filterMap liveEntry =
        earlier ++ .certified first firstAccepted :: (between ++ .certified second secondAccepted :: later) →
      (∀ entry ∈ between, entry.isCertified = false) →
      ∃ recovery accepted, between = [.recovered recovery accepted] ∧
        Succeeds first second firstAccepted secondAccepted recovery) ∧
    ∀ entry ∈ history Call.exec start calls,
      (∀ attestation, entry.before.preflight = some attestation → entry.after.preflight = some attestation) ∧
      (∀ attestation, entry.before.drain = some attestation → entry.after.drain = some attestation) ∧
      ∀ attestation, entry.before.activation = some attestation → entry.after.activation = some attestation := by
  have sound := RuntimeDeployment.request_sound requested
  constructor
  · intro earlier first firstAccepted between second secondAccepted later log consecutive
    have chronicle := history_invariant Call.exec Chronicle start calls ⟨sound, .nil, by simp⟩
      fun past self call chronicle => chronicle.step call
    have chain := chronicle.chain
    rw [log] at chain
    exact succeeds_of_chain consecutive chain.right_of_append
  · intro entry member
    obtain ⟨before, after, split⟩ := append_of_mem member
    obtain ⟨made, call, rest, -, -, rfl, -⟩ := history_split _ _ _ _ _ _ split
    exact call.exec_keepsEvidence _ (final_invariant Call.exec _ start made sound Call.exec_sound)

namespace Scenario

def accepted : AcceptedEvidence :=
  { preflight := some preflight, drain := some drain, activation := some activation }

def liveOf (processInstanceId : ProcessInstanceId) (reconciledAt readyAt certifiedAt : DateTime) :
    LiveAttestationV1 :=
  { target, runtimeGeneration := .first, processInstanceId, activation
    panelCertificate := panel processInstanceId reconciledAt
    gatewayReady := gateway processInstanceId readyAt, certifiedAt }

def recovery : LiveRecoveryAttestationV1 :=
  { priorLive := liveOf firstProcess 8 9 10, kind := .servingLeaseExpired, evidenceAt := 11, recoveredAt := 12 }

end Scenario

theorem scenario_succession :
    (history Call.exec Scenario.start (Scenario.goLive ++ Scenario.goLiveAgain)).filterMap liveEntry =
        [.certified (liveOf firstProcess 8 9 10) Scenario.accepted,
          .recovered Scenario.recovery Scenario.accepted,
          .certified (liveOf secondProcess 15 16 17) Scenario.accepted] ∧
      ∃ recovery accepted,
        [LiveEntry.recovered Scenario.recovery Scenario.accepted] = [.recovered recovery accepted] ∧
        Succeeds (liveOf firstProcess 8 9 10) (liveOf secondProcess 15 16 17)
          Scenario.accepted Scenario.accepted recovery :=
  ⟨by decide +kernel,
    (live_succession Scenario.identity Scenario.target .first none 0 Scenario.start
      (Scenario.goLive ++ Scenario.goLiveAgain) rfl).1 [] _ _ [.recovered Scenario.recovery Scenario.accepted] _ _ []
      (by decide +kernel) (by decide)⟩

end Starring.Convergence
