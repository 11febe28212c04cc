import Starring.Activation.Changes

/-! How a call of the store can end. Every call leaves the store as it was, adds a
request, lets one lapse, or makes one change; the calls that change a request in place
may leave a change behind that they refuse. -/

namespace Starring.Activation
open Foundation ActivationRequest

def Answer.claims : Answer → Bool
  | claim (.ok (.claimed _)) => true
  | _ => false

/-- The calls that change the stored request itself and validate it afterwards. -/
def Call.changesInPlace : Call → Bool
  | linkProduct _ _ _ | approve _ _ _ | approveBound _ _ _ _ | reject _ _ _ _ | claimResume _ _ _ _ _ => true
  | _ => false

structure Fresh (call : Call) (request : ActivationRequest) : Prop where
  valid : request.validate = .ok ()
  reads : request.createdAt ∈ call.readings
  pending : request.state = .pending
  bare : request.approvals = []
  unlinked : request.linkState.isLinked = false

inductive Outcome (store : ActivationRequestStore) (call : Call) : Answer × ActivationRequestStore → Prop where
  | idle (answer : Answer) (unclaimed : answer.claims = false) : Outcome store call (answer, store)
  | created (answer : Answer) (request : ActivationRequest) (unclaimed : answer.claims = false)
      (passed : answer.isError = false) (free : store.get request.id = none) (fresh : Fresh call request) :
      Outcome store call (answer, store.insert request)
  | lapsed (answer : Answer) (self : ActivationRequest) (now : DateTime) (unclaimed : answer.claims = false)
      (found : store.get self.id = some self) (due : self.isDue now = true) (reads : now ∈ call.readings) :
      Outcome store call (answer, store.insert self.expired)
  | moved (answer : Answer) (self changed : ActivationRequest) (passed : answer.isError = false)
      (claims : answer.claims = call.claim.isSome) (found : store.get self.id = some self)
      (change : Change self call changed) (valid : changed.validate = .ok ())
      (unblocked : self.state = .approved → changed.state = .applying → store.blocking changed = none) :
      Outcome store call (answer, store.insert changed)
  | spoiled (answer : Answer) (self changed : ActivationRequest) (failed : answer.isError = true)
      (unclaimed : answer.claims = false) (inPlace : call.changesInPlace = true)
      (found : store.get self.id = some self) (change : Change self call changed)
      (invalid : changed.validate ≠ .ok ()) :
      Outcome store call (answer, store.insert changed)

section
variable (store : ActivationRequestStore) (call : Call)

/-- How the result of an operation becomes the answer of its call. -/
structure Wraps {ε α : Type} (claimed : α → Bool) (wrap : Except ε α → Answer) : Prop where
  failed (error : ε) : (wrap (.error error)).isError = true
  silent (error : ε) : (wrap (.error error)).claims = false
  passed (value : α) : (wrap (.ok value)).isError = false
  claims (value : α) : (wrap (.ok value)).claims = claimed value

variable {store call}

theorem Outcome.same {self : ActivationRequest} (answer : Answer) (unclaimed : answer.claims = false)
    (found : store.get self.id = some self) : Outcome store call (answer, store.insert self) := by
  rw [ActivationRequestStore.insert_same found]
  exact .idle answer unclaimed

/-- Only a claim of an approved request makes it one that is being applied. -/
theorem Change.ne_applying {self changed : ActivationRequest} (inPlace : call.changesInPlace = true)
    (change : Change self call changed) (approved : self.state = .approved) : changed.state ≠ .applying := by
  cases change <;> simp_all [Call.changesInPlace]

variable (requestId : ActivationRequestId)

theorem changeInPlace_outcome {ε ε' α : Type} (ofStore : ActivationStoreError → ε) (ofDecision : ε' → ε)
    (decision : ActivationRequest → Except ε' α × ActivationRequest) (claimed : Except ε' α → Bool)
    (wrap : Except ε (α × ActivationRequest) → Answer) (wraps : Wraps (fun answered => claimed (.ok answered.1)) wrap)
    (inPlace : call.changesInPlace = true) (decides : ∀ self : ActivationRequest, self.id = requestId →
      Decision self call accepts claimed (decision self)) :
    Outcome store call ((store.changeInPlace requestId ofStore fun request =>
      ActivationRequestStore.convert ofDecision (decision request)).map wrap id) := by
  unfold ActivationRequestStore.changeInPlace
  cases found : store.get requestId with
  | none => exact .idle _ (wraps.silent _)
  | some self =>
    obtain rfl := ActivationRequestStore.id_of_get found
    have decided := decides self rfl
    simp only [ActivationRequestStore.convert]
    generalize decision self = result at decided
    cases decided with
    | kept answer unclaimed =>
      cases answer with
      | error error => exact .same _ (wraps.silent _) found
      | ok value =>
        cases check : self.validate with
        | error message =>
          simp only [Except.mapError, check]
          exact .same _ (wraps.silent _) found
        | ok u =>
          simp only [Except.mapError, check]
          exact .same _ ((wraps.claims (value, _)).trans unclaimed) found
    | lapsed answer unclaimed now due reads =>
      cases answer with
      | error error => exact .lapsed _ self now (wraps.silent _) found due reads
      | ok value =>
        cases check : self.expired.validate with
        | error message =>
          simp only [Except.mapError, check]
          exact .lapsed _ self now (wraps.silent _) found due reads
        | ok u =>
          simp only [Except.mapError, check]
          exact .lapsed _ self now ((wraps.claims (value, _)).trans unclaimed) found due reads
    | moved answer changed yes claims change =>
      cases answer with
      | error error => cases yes
      | ok value =>
        cases check : changed.validate with
        | error message =>
          simp only [Except.mapError, check]
          exact .spoiled _ self changed (wraps.failed _) (wraps.silent _) inPlace found change
            (by simp [check])
        | ok u =>
          simp only [Except.mapError, check]
          exact .moved _ self changed (wraps.passed _) ((wraps.claims (value, _)).trans claims) found change check
            fun approved applying => absurd applying (change.ne_applying inPlace approved)

theorem changeCopy_outcome (decision : ActivationRequest → Bool × ActivationRequest)
    (unclaiming : call.claim.isSome = false)
    (keeps : ∀ self changed : ActivationRequest, Change self call changed → changed.state = .applying →
      self.state = .applying) (decides : ∀ self : ActivationRequest, self.id = requestId →
      Decision self call id claimsNothing (decision self)) :
    Outcome store call ((store.changeCopy requestId decision).map .changed id) := by
  unfold ActivationRequestStore.changeCopy
  cases found : store.get requestId with
  | none => exact .idle _ rfl
  | some self =>
    obtain rfl := ActivationRequestStore.id_of_get found
    have decided := decides self rfl
    dsimp only
    generalize decision self = result at decided
    obtain ⟨answer, changed⟩ := result
    cases answer with
    | false => exact .idle _ rfl
    | true =>
      cases check : changed.validate with
      | error message =>
        simp only [check]
        exact .idle _ rfl
      | ok u =>
        simp only [check]
        cases decided with
        | kept _ _ => exact .same _ rfl found
        | lapsed _ _ now due reads => exact .lapsed _ self now rfl found due reads
        | moved _ _ _ _ change =>
          refine .moved _ self changed rfl unclaiming.symm found change check ?_
          intro approved applying
          have was := keeps self changed change applying
          rw [approved] at was
          cases was

theorem addNew_outcome (made : Except String ActivationRequest)
    (fresh : ∀ request, made = .ok request → request.id = requestId ∧ Fresh call request) :
    Outcome store call ((store.addNew requestId made).map .created id) := by
  unfold ActivationRequestStore.addNew
  split_ifs with taken
  · exact .idle _ rfl
  · cases made with
    | error message => exact .idle _ rfl
    | ok request =>
      obtain ⟨same, fresh⟩ := fresh request rfl
      exact .created _ request rfl rfl (by simpa [same] using taken) fresh

theorem create_fresh {input : CreateActivationRequest} {now : DateTime} {request : ActivationRequest}
    (made : create input now = .ok request) :
    request.id = input.id ∧ Fresh (.create now input) request := by
  simp only [create, check_bind_eq_ok, orReject_bind_eq_ok, pure_eq_ok] at made
  obtain ⟨-, -, expiresAt, -, valid, rfl⟩ := made
  exact ⟨rfl, valid, by simp [Call.readings, pendingRequest], rfl, rfl, rfl⟩

theorem createProduct_fresh {input : CreateProductActivationRequest} {now : DateTime}
    {request : ActivationRequest} (made : createProduct input now = .ok request) :
    request.id = input.id ∧ Fresh (.createProduct now input) request := by
  simp only [createProduct, check_bind_eq_ok, orReject_bind_eq_ok, pure_eq_ok] at made
  obtain ⟨-, ttl, -, expiresAt, -, valid, rfl⟩ := made
  exact ⟨rfl, valid, by simp [Call.readings, pendingRequest], rfl, rfl, rfl⟩

theorem fetch_outcome (now : DateTime) :
    Outcome store (.get now requestId) ((store.fetch requestId now).map .found id) := by
  unfold ActivationRequestStore.fetch
  cases found : store.get requestId with
  | none => exact .idle _ rfl
  | some self =>
    obtain rfl := ActivationRequestStore.id_of_get found
    have decided := expireIfDue_decision self (.get now self.id) now (by simp [Call.readings])
    dsimp only
    generalize self.expireIfDue now = result at decided
    -- Whatever the validator says, what has lapsed is stored.
    cases decided with
    | kept answer _ => cases check : self.validate <;> exact .same _ rfl found
    | lapsed answer _ time due reads =>
      cases check : self.expired.validate <;> exact .lapsed _ self time rfl found due reads
    | moved answer changed _ _ change => cases change

theorem withdraw_outcome (withdrawnBy : UserId) (reason : String) (now : DateTime) :
    Outcome store (.withdraw now requestId withdrawnBy reason)
      ((store.withdraw requestId withdrawnBy reason now).map .withdrawn id) := by
  unfold ActivationRequestStore.withdraw
  cases found : store.get requestId with
  | none => exact .idle _ rfl
  | some self =>
    obtain rfl := ActivationRequestStore.id_of_get found
    have decided := withdrawAt_decision self now withdrawnBy reason
    dsimp only
    generalize self.withdrawAt withdrawnBy reason now = result at decided
    obtain ⟨answer, changed⟩ := result
    cases answer with
    | error error => exact .idle _ rfl
    | ok u =>
      cases check : changed.validate with
      | error message =>
        simp only [check]
        exact .idle _ rfl
      | ok u =>
        simp only [check]
        cases decided with
        | kept _ _ => exact .same _ rfl found
        | lapsed _ _ time due reads => exact .lapsed _ self time rfl found due reads
        | moved _ _ _ _ change =>
          refine .moved _ self changed rfl rfl found change check ?_
          cases change
          exact fun _ applying => by cases applying

theorem fromDecision_claims (decision : ClaimDecision) (request : ActivationRequest) :
    (Answer.claim (.ok (.fromDecision decision request))).claims = isClaimed (.ok decision) := by
  cases decision <;> rfl

theorem claimApply_outcome (attemptId : ApplyAttemptId) (now leaseNow leaseUntil : DateTime) (leaseSeconds : Int) :
    Outcome store (.claimApply now leaseNow requestId attemptId leaseSeconds)
      ((store.claimApply requestId attemptId now leaseUntil).map .claim id) := by
  unfold ActivationRequestStore.claimApply
  cases found : store.get requestId with
  | none => exact .idle _ rfl
  | some self =>
    obtain rfl := ActivationRequestStore.id_of_get found
    have decided := claimApplyAt_decision self now leaseNow attemptId leaseSeconds leaseUntil
    dsimp only
    generalize self.claimApplyAt attemptId now leaseUntil = result at decided
    obtain ⟨answer, changed⟩ := result
    cases answer with
    | error error => exact .idle _ rfl
    | ok decision =>
      dsimp only
      cases held : (if decision = .claimed then store.blocking changed else none) with
      | some blocking => exact .idle _ rfl
      | none =>
        cases check : changed.validate with
        | error message => exact .idle _ rfl
        | ok u =>
          cases decided with
          | kept _ unclaimed => exact .same _ ((fromDecision_claims _ _).trans unclaimed) found
          | lapsed _ unclaimed time due reads =>
            exact .lapsed _ self time ((fromDecision_claims _ _).trans unclaimed) found due reads
          | moved _ _ _ claims change =>
            refine .moved _ self changed rfl ((fromDecision_claims _ _).trans claims) found change check ?_
            intro _ _
            have claimed : decision = .claimed := by
              cases decision <;> simp_all [isClaimed, Call.claim]
            rwa [if_pos claimed] at held

theorem withLease_outcome (leaseNow : DateTime) (leaseSeconds : Int) (answer : ActivationStoreError → Answer)
    (go : DateTime → Answer × ActivationRequestStore) (silent : ∀ error, (answer error).claims = false)
    (goes : ∀ leaseUntil, Outcome store call (go leaseUntil)) :
    Outcome store call (Call.withLease leaseNow leaseSeconds store answer go) := by
  unfold Call.withLease
  cases leaseUntil leaseNow leaseSeconds with
  | time until_ => exact goes until_
  | overflow => exact .idle _ (silent _)
  | panics => exact .idle _ rfl

theorem answerRequest_outcome {ε ε' α : Type} (store : ActivationRequestStore) (call : Call) (requestId : ActivationRequestId)
    (ofStore : ActivationStoreError → ε) (ofDecision : ε' → ε)
    (decision : ActivationRequest → Except ε' α × ActivationRequest) (wrap : Except ε ActivationRequest → Answer)
    (wraps : Wraps claimsNothing wrap) (inPlace : call.changesInPlace = true)
    (decides : ∀ self : ActivationRequest, self.id = requestId →
      Decision self call accepts claimsNothing (decision self)) :
    Outcome store call ((ActivationRequestStore.answerRequest (store.changeInPlace requestId ofStore fun request =>
      ActivationRequestStore.convert ofDecision (decision request))).map wrap id) :=
  changeInPlace_outcome requestId ofStore ofDecision decision claimsNothing
    (fun result => wrap (result.map Prod.snd))
    ⟨fun _ => wraps.failed _, fun _ => wraps.silent _, fun _ => wraps.passed _, fun _ => wraps.claims _⟩
    inPlace decides

end

theorem Call.exec_outcome (call : Call) (store : ActivationRequestStore) :
    Outcome store call (call.exec store) := by
  unfold Call.exec
  cases call with
  | create now input => exact addNew_outcome _ _ fun _ made => create_fresh made
  | createProduct now input => exact addNew_outcome _ _ fun _ made => createProduct_fresh made
  | linkProduct now requestId link =>
    refine answerRequest_outcome store (.linkProduct now requestId link) requestId .store .ofDecision (fun request => request.linkProductAt
        link.promotionId link.promotionRequestDigest link.approvalContextDigest now) .linked
      ⟨fun _ => rfl, fun _ => rfl, fun _ => rfl, fun _ => rfl⟩ rfl ?_
    rintro self rfl
    exact linkProductAt_decision self now link
  | get now requestId => exact fetch_outcome requestId now
  | approve now requestId approver =>
    refine answerRequest_outcome store (.approve now requestId approver) requestId .store .ofDecision (fun request => request.approveAt approver now) .approved
      ⟨fun _ => rfl, fun _ => rfl, fun _ => rfl, fun _ => rfl⟩ rfl ?_
    rintro self rfl
    exact approveAt_decision self now approver
  | approveBound now requestId approver digest =>
    refine answerRequest_outcome store (.approveBound now requestId approver digest) requestId .store .ofDecision (fun request =>
        request.approveBoundAt approver digest now) .approved
      ⟨fun _ => rfl, fun _ => rfl, fun _ => rfl, fun _ => rfl⟩ rfl ?_
    rintro self rfl
    exact approveBoundAt_decision self now approver digest
  | reject now requestId rejectedBy reason =>
    refine answerRequest_outcome store (.reject now requestId rejectedBy reason) requestId .store .ofDecision (fun request =>
        request.rejectAt rejectedBy reason now) .rejected
      ⟨fun _ => rfl, fun _ => rfl, fun _ => rfl, fun _ => rfl⟩ rfl ?_
    rintro self rfl
    exact rejectAt_decision self now rejectedBy reason
  | withdraw now requestId withdrawnBy reason => exact withdraw_outcome requestId withdrawnBy reason now
  | claimApply now leaseNow requestId attemptId leaseSeconds =>
    exact withLease_outcome _ _ _ _ (fun _ => rfl) fun leaseUntil =>
      claimApply_outcome requestId attemptId now leaseNow leaseUntil leaseSeconds
  | claimResume now leaseNow requestId attemptId leaseSeconds =>
    refine withLease_outcome _ _ _ _ (fun _ => rfl) fun leaseUntil => ?_
    refine changeInPlace_outcome requestId id _ _ isClaimed
      (fun result => .claim (result.map fun (answered : ClaimDecision × ActivationRequest) =>
        .fromDecision answered.1 answered.2))
      ⟨fun _ => rfl, fun _ => rfl, fun _ => rfl, fun answered => fromDecision_claims answered.1 answered.2⟩ rfl ?_
    rintro self rfl
    exact claimResumeAt_decision self now leaseNow attemptId leaseSeconds leaseUntil
  | renewLease leaseNow requestId attemptId leaseSeconds =>
    refine withLease_outcome _ _ _ _ (fun _ => rfl) fun leaseUntil => ?_
    refine changeCopy_outcome requestId _ rfl ?_ ?_
    · intro self changed change applying
      cases change
      exact applying
    · rintro self rfl
      exact renewLeaseAt_decision self leaseNow attemptId leaseSeconds leaseUntil
  | completeApplied now requestId attemptId appliedBy kind notices =>
    refine changeCopy_outcome requestId _ rfl ?_ ?_
    · intro self changed change applying
      cases change
      cases applying
    · rintro self rfl
      exact completeAt_decision self now attemptId appliedBy kind notices
  | releaseToApproved requestId attemptId error =>
    refine changeCopy_outcome requestId _ rfl ?_ ?_
    · intro self changed change applying
      cases change
      cases applying
    · rintro self rfl
      exact releaseAt_decision self attemptId error
  | supersedeApplying now requestId attemptId reason =>
    refine changeCopy_outcome requestId _ rfl ?_ ?_
    · intro self changed change applying
      cases change
      cases applying
    · rintro self rfl
      exact supersedeAt_decision self now attemptId reason
  | markExpired now requestId =>
    refine changeCopy_outcome requestId _ rfl (fun _ _ change => by cases change) ?_
    rintro self rfl
    exact expireIfDue_decision self _ now (by simp [Call.readings])
  | listApplying guildId => exact .idle _ rfl
  | bookkeepApplied now requestId appliedBy =>
    refine changeCopy_outcome requestId _ rfl ?_ ?_
    · intro self changed change applying
      cases change
      cases applying
    · rintro self rfl
      exact bookkeepAt_decision self now appliedBy

end Starring.Activation
