import Starring.Activation.Store

/-! What a call can do to a request, and how a call of the store can end. -/

namespace Starring.Activation
open Foundation ActivationRequest ActivationRequest

/-- The changes of a request that a call makes after its decision, with what the decision checked. -/
inductive Change (self : ActivationRequest) : Call → ActivationRequest → Prop where
  | linked (now : DateTime) (link : LinkProductActivation)
      (context : ProductApprovalContextV1) (product : self.approvalContext = .productAuthoring context)
      (agrees : context.promotionId = link.promotionId ∧
        context.promotionRequestDigest = link.promotionRequestDigest ∧
        context.approvalContextDigest = link.approvalContextDigest)
      (unlinked : self.linkState = .unlinked) (timely : self.isDue now = false)
      (pending : self.state = .pending) (bare : self.approvals = []) :
      Change self (.linkProduct now self.id link) { self with linkState := .linked now }
  | approved (now : DateTime) (approver : UserId)
      (legacy : self.approvalContext = .legacyManual) (timely : self.isDue now = false)
      (pending : self.state = .pending) (fresh : ∀ approval ∈ self.approvals, approval.approver ≠ approver) :
      Change self (.approve now self.id approver)
        (self.approvedWith { approver, approvedAt := now, approvalPayloadDigest := none })
  | approvedBound (now : DateTime) (approver : UserId)
      (digest : ActivationDigest) (context : ProductApprovalContextV1) (linkedAt : DateTime)
      (product : self.approvalContext = .productAuthoring context) (linked : self.linkState = .linked linkedAt)
      (payload : context.approvalPayloadDigest = digest) (timely : self.isDue now = false)
      (pending : self.state = .pending) (fresh : ∀ approval ∈ self.approvals, approval.approver ≠ approver) :
      Change self (.approveBound now self.id approver digest)
        (self.approvedWith { approver, approvedAt := now, approvalPayloadDigest := some digest })
  | rejected (now : DateTime) (rejectedBy : UserId) (reason : String)
      (timely : self.isDue now = false) (active : self.isUnlinkedProduct = false)
      (pending : self.state = .pending) :
      Change self (.reject now self.id rejectedBy reason)
        { self with state := .rejected, rejection := some { rejectedAt := now, rejectedBy, reason } }
  | withdrawn (now : DateTime) (withdrawnBy : UserId) (reason : String)
      (timely : self.isDue now = false) (active : self.isUnlinkedProduct = false)
      (standing : self.state = .pending ∨ self.state = .approved) :
      Change self (.withdraw now self.id withdrawnBy reason)
        { self with
          state := .withdrawn, lastApplyError := none, termination := some (.withdrawn now withdrawnBy reason) }
  | claimed (now leaseNow : DateTime) (attemptId : ApplyAttemptId)
      (leaseSeconds : Int) (leaseUntil : DateTime) (begun : ActivationRequest)
      (active : self.isUnlinkedProduct = false) (approved : self.state = .approved)
      (begins : self.beginAttempt attemptId leaseUntil = .ok begun) :
      Change self (.claimApply now leaseNow self.id attemptId leaseSeconds) begun
  | resumed (now leaseNow : DateTime) (attemptId : ApplyAttemptId)
      (leaseSeconds : Int) (leaseUntil : DateTime) (begun : ActivationRequest)
      (active : self.isUnlinkedProduct = false) (applying : self.state = .applying)
      (lapsed : ∀ lease, self.applyLeaseUntil = some lease → lease ≤ now)
      (begins : self.beginAttempt attemptId leaseUntil = .ok begun) :
      Change self (.claimResume now leaseNow self.id attemptId leaseSeconds) begun
  | renewed (leaseNow : DateTime) (attemptId : ApplyAttemptId)
      (leaseSeconds : Int) (leaseUntil : DateTime) (current : self.isAppliedBy attemptId = true) :
      Change self (.renewLease leaseNow self.id attemptId leaseSeconds)
        { self with applyLeaseUntil := some leaseUntil }
  | completed (now : DateTime) (attemptId : ApplyAttemptId)
      (appliedBy : UserId) (kind : CompletionKind) (notices : Option (List String))
      (current : self.isAppliedBy attemptId = true) :
      Change self (.completeApplied now self.id attemptId appliedBy kind notices)
        (self.completedWith { appliedAt := now, appliedBy, kind, notices })
  | released (attemptId : ApplyAttemptId) (error : ApplyErrorRecord)
      (current : self.isAppliedBy attemptId = true) :
      Change self (.releaseToApproved self.id attemptId error)
        { self with
          state := .approved, applyAttemptId := none, applyLeaseUntil := none, lastApplyError := some error }
  | superseded (now : DateTime) (attemptId : ApplyAttemptId)
      (reason : SupersessionReasonV1) (current : self.isAppliedBy attemptId = true)
      (product : self.approvalContext.isProduct = true) (linked : self.linkState.isLinked = true) :
      Change self (.supersedeApplying now self.id attemptId reason)
        { self with
          state := .superseded, applyAttemptId := none, applyLeaseUntil := none, lastApplyError := none
          termination := some (.superseded now reason) }
  | bookkept (now : DateTime) (appliedBy : UserId)
      (applying : self.state = .applying) :
      Change self (.bookkeepApplied now self.id appliedBy)
        (self.completedWith { appliedAt := now, appliedBy, kind := .crashRecovered, notices := none })

/-- How a decision of a call can end: the request kept, found due, or changed. Only a change is
accepted for sure, and only a change by a claim is answered as one. -/
inductive Decision {ρ : Type} (self : ActivationRequest) (call : Call) (accepted claimed : ρ → Bool) :
    ρ × ActivationRequest → Prop where
  | kept (answer : ρ) (unclaimed : claimed answer = false) : Decision self call accepted claimed (answer, self)
  | lapsed (answer : ρ) (unclaimed : claimed answer = false) (now : DateTime) (due : self.isDue now = true)
      (reads : now ∈ call.readings) : Decision self call accepted claimed (answer, self.expired)
  | moved (answer : ρ) (changed : ActivationRequest) (yes : accepted answer = true)
      (claims : claimed answer = call.claim.isSome) (change : Change self call changed) :
      Decision self call accepted claimed (answer, changed)

def claimsNothing {ρ : Type} (_ : ρ) : Bool := false

/-- A claim succeeds exactly when its decision is that the request is claimed. -/
def isClaimed : Except TransitionError ClaimDecision → Bool
  | .ok .claimed => true
  | _ => false

section
variable (self : ActivationRequest)

variable (now : DateTime)

theorem linkProductAt_decision (link : LinkProductActivation) :
    Decision self (.linkProduct now self.id link) accepts claimsNothing
      (self.linkProductAt link.promotionId link.promotionRequestDigest link.approvalContextDigest now) := by
  unfold linkProductAt
  cases product : self.approvalContext with
  | legacyManual => exact .kept _ rfl
  | productAuthoring context =>
    dsimp only
    split_ifs with conflict linked due unrequired settled
    · exact .kept _ rfl
    · unfold expireIfDue
      split_ifs with due
      · exact .lapsed _ rfl now due (by simp [Call.readings])
      · exact .kept _ rfl
    · exact .lapsed _ rfl now due (by simp [Call.readings])
    · exact .kept _ rfl
    · exact .kept _ rfl
    · have unlinked : self.linkState = .unlinked := by
        cases state : self.linkState <;> simp_all [ActivationLinkStateV1.isLinked]
      obtain ⟨pending, bare⟩ := not_or.mp settled
      rw [← product]
      exact .moved _ _ rfl rfl (.linked now link context product (by simpa [not_or] using conflict) unlinked
        (by simpa using due) (not_not.mp pending) (not_not.mp bare))

theorem approveWithDigestAt_decision (call : Call) (approver : UserId) (digest : Option ActivationDigest)
    (now : DateTime) (reads : now ∈ call.readings)
    (unclaiming : call.claim.isSome = false)
    (change : self.isDue now = false → self.state = .pending →
      (∀ approval ∈ self.approvals, approval.approver ≠ approver) →
      Change self call (self.approvedWith { approver, approvedAt := now, approvalPayloadDigest := digest })) :
    Decision self call accepts claimsNothing (self.approveWithDigestAt approver digest now) := by
  unfold approveWithDigestAt
  split_ifs with due settled again
  · exact .lapsed _ rfl now due reads
  · exact .kept _ rfl
  · exact .kept _ rfl
  · refine .moved _ _ rfl unclaiming.symm (change (by simpa using due) (not_not.mp settled) ?_)
    simpa using again

theorem approveAt_decision (approver : UserId) :
    Decision self (.approve now self.id approver) accepts claimsNothing (self.approveAt approver now) := by
  unfold approveAt
  split_ifs with due product
  · exact .lapsed _ rfl now due (by simp [Call.readings])
  · exact .kept _ rfl
  · have legacy : self.approvalContext = .legacyManual := by
      cases context : self.approvalContext <;> simp_all [ActivationApprovalContextV1.isProduct]
    exact approveWithDigestAt_decision self _ approver none now (by simp [Call.readings]) rfl
      (.approved now approver legacy)

theorem approveBoundAt_decision (approver : UserId) (digest : ActivationDigest) :
    Decision self (.approveBound now self.id approver digest) accepts claimsNothing
      (self.approveBoundAt approver digest now) := by
  unfold approveBoundAt
  by_cases due : self.isDue now = true
  · rw [if_pos due]
    exact .lapsed _ rfl now due (by simp [Call.readings])
  · rw [if_neg due]
    cases product : self.approvalContext with
    | legacyManual => exact .kept _ rfl
    | productAuthoring context =>
      dsimp only
      split_ifs with unlinked mismatch
      · exact .kept _ rfl
      · exact .kept _ rfl
      · obtain ⟨linkedAt, linked⟩ := (ActivationLinkStateV1.isLinked_iff _).mp (by simpa using unlinked)
        exact approveWithDigestAt_decision self _ approver (some digest) now (by simp [Call.readings]) rfl
          (.approvedBound now approver digest context linkedAt product linked (not_not.mp mismatch))

theorem rejectAt_decision (rejectedBy : UserId) (reason : String) :
    Decision self (.reject now self.id rejectedBy reason) accepts claimsNothing (self.rejectAt rejectedBy reason now) := by
  unfold rejectAt
  split_ifs with due inert settled
  · exact .lapsed _ rfl now due (by simp [Call.readings])
  · exact .kept _ rfl
  · exact .kept _ rfl
  · exact .moved _ _ rfl rfl (.rejected now rejectedBy reason (by simpa using due) (by simpa using inert)
      (not_not.mp settled))

theorem withdrawAt_decision (withdrawnBy : UserId) (reason : String) :
    Decision self (.withdraw now self.id withdrawnBy reason) accepts claimsNothing
      (self.withdrawAt withdrawnBy reason now) := by
  unfold withdrawAt
  split_ifs with due inert standing
  · exact .lapsed _ rfl now due (by simp [Call.readings])
  · exact .kept _ rfl
  · exact .moved _ _ rfl rfl (.withdrawn now withdrawnBy reason (by simpa using due) (by simpa using inert)
      standing)
  · exact .kept _ rfl

theorem claimApplyAt_decision (leaseNow : DateTime) (attemptId : ApplyAttemptId) (leaseSeconds : Int)
    (leaseUntil : DateTime) : Decision self (.claimApply now leaseNow self.id attemptId leaseSeconds) accepts isClaimed
      (self.claimApplyAt attemptId now leaseUntil) := by
  unfold claimApplyAt
  split_ifs with due inert
  · exact .lapsed _ rfl now due (by simp [Call.readings])
  · exact .kept _ rfl
  · cases state : self.state with
    | approved =>
      unfold claim
      cases begins : self.beginAttempt attemptId leaseUntil with
      | ok begun =>
        exact .moved _ _ rfl rfl (.claimed now leaseNow attemptId leaseSeconds leaseUntil begun
          (by simpa using inert) state begins)
      | error error => exact .kept _ rfl
    | _ => exact .kept _ rfl

theorem claimResumeAt_decision (leaseNow : DateTime) (attemptId : ApplyAttemptId) (leaseSeconds : Int)
    (leaseUntil : DateTime) : Decision self (.claimResume now leaseNow self.id attemptId leaseSeconds) accepts isClaimed
      (self.claimResumeAt attemptId now leaseUntil) := by
  unfold claimResumeAt
  by_cases inert : self.isUnlinkedProduct = true
  · rw [if_pos inert]
    exact .kept _ rfl
  · rw [if_neg inert]
    cases state : self.state with
    | applying =>
      dsimp only
      split_ifs with held
      · exact .kept _ rfl
      · unfold claim
        cases begins : self.beginAttempt attemptId leaseUntil with
        | ok begun =>
          refine .moved _ _ rfl rfl (.resumed now leaseNow attemptId leaseSeconds leaseUntil begun
            (by simpa using inert) state ?_ begins)
          intro lease recorded
          simpa [recorded] using held
        | error error => exact .kept _ rfl
    | _ => exact .kept _ rfl

theorem expireIfDue_decision (call : Call) (now : DateTime) (reads : now ∈ call.readings) :
    Decision self call id claimsNothing (self.expireIfDue now) := by
  unfold expireIfDue
  split_ifs with due
  · exact .lapsed _ rfl now due reads
  · exact .kept _ rfl

theorem renewLeaseAt_decision (leaseNow : DateTime) (attemptId : ApplyAttemptId) (leaseSeconds : Int)
    (leaseUntil : DateTime) :
    Decision self (.renewLease leaseNow self.id attemptId leaseSeconds) id claimsNothing
      (self.renewLeaseAt attemptId leaseUntil) := by
  unfold renewLeaseAt
  split_ifs with other
  · exact .kept _ rfl
  · exact .moved _ _ rfl rfl (.renewed leaseNow attemptId leaseSeconds leaseUntil (by simpa using other))

theorem completeAt_decision (attemptId : ApplyAttemptId) (appliedBy : UserId) (kind : CompletionKind)
    (notices : Option (List String)) :
    Decision self (.completeApplied now self.id attemptId appliedBy kind notices) id claimsNothing
      (self.completeAt attemptId { appliedAt := now, appliedBy, kind, notices }) := by
  unfold completeAt
  split_ifs with other
  · exact .kept _ rfl
  · exact .moved _ _ rfl rfl (.completed now attemptId appliedBy kind notices (by simpa using other))

theorem releaseAt_decision (attemptId : ApplyAttemptId) (error : ApplyErrorRecord) :
    Decision self (.releaseToApproved self.id attemptId error) id claimsNothing
      (self.releaseAt attemptId error) := by
  unfold releaseAt
  split_ifs with other
  · exact .kept _ rfl
  · exact .moved _ _ rfl rfl (.released attemptId error (by simpa using other))

theorem supersedeAt_decision (attemptId : ApplyAttemptId) (reason : SupersessionReasonV1) :
    Decision self (.supersedeApplying now self.id attemptId reason) id claimsNothing
      (self.supersedeAt attemptId reason now) := by
  unfold supersedeAt
  split_ifs with other
  · exact .kept _ rfl
  · simp only [not_or, Bool.not_eq_false] at other
    obtain ⟨current, product, linked⟩ := other
    exact .moved _ _ rfl rfl (.superseded now attemptId reason current product linked)

theorem bookkeepAt_decision (appliedBy : UserId) :
    Decision self (.bookkeepApplied now self.id appliedBy) id claimsNothing
      (self.bookkeepAt { appliedAt := now, appliedBy, kind := .crashRecovered, notices := none }) := by
  unfold bookkeepAt
  split_ifs with idle
  · exact .kept _ rfl
  · exact .moved _ _ rfl rfl (.bookkept now appliedBy (not_not.mp idle))

end

namespace ActivationRequest

theorem beginAttempt_eq {self begun : ActivationRequest} {attemptId : ApplyAttemptId} {leaseUntil : DateTime}
    (begins : self.beginAttempt attemptId leaseUntil = .ok begun) :
    begun =
      { self with
        applyAttemptNo := self.applyAttemptNo + 1, state := .applying, applyAttemptId := some attemptId
        applyLeaseUntil := some leaseUntil } := by
  unfold beginAttempt at begins
  split_ifs at begins
  cases begins
  rfl

section
variable (self : ActivationRequest) (approval : Approval)

theorem mem_withApproval (other : Approval) :
    other ∈ self.withApproval approval ↔ other ∈ self.approvals ∨ other = approval := by
  simp [withApproval, List.mem_insertionSort]

theorem length_withApproval : (self.withApproval approval).length = self.approvals.length + 1 := by
  simp [withApproval, List.length_insertionSort]

theorem approvedWith_eq :
    self.approvedWith approval =
      { self with
        approvals := self.withApproval approval
        state := if self.requiredApprovals.toNat ≤ min (self.approvals.length + 1) (2 ^ 32 - 1) then .approved
          else self.state } := by
  simp only [approvedWith, approvalCount, length_withApproval]
  split <;> rfl

end

/-- The states that a request does not leave. -/
def Settled (self : ActivationRequest) : Prop :=
  self.state = .rejected ∨ self.state = .withdrawn ∨ self.state = .superseded ∨ self.state = .applied ∨
    self.state = .expired

theorem not_settled_of_due {self : ActivationRequest} {now : DateTime} (due : self.isDue now = true) :
    ¬self.Settled := by
  simp only [isDue, Bool.decide_and, Bool.and_eq_true, decide_eq_true_eq] at due
  obtain ⟨pending | approved, -⟩ := due <;> simp [Settled, *]

end ActivationRequest

/-- The approval that a call offers, and the request it is for. -/
def Call.approval : Call → Option (ActivationRequestId × Approval)
  | approve now requestId approver =>
    some (requestId, { approver, approvedAt := now, approvalPayloadDigest := none })
  | approveBound now requestId approver digest =>
    some (requestId, { approver, approvedAt := now, approvalPayloadDigest := some digest })
  | _ => none

namespace Change
variable {self changed : ActivationRequest} {call : Call} (change : Change self call changed)
include change

theorem frame : changed.id = self.id ∧ changed.target = self.target ∧ changed.createdAt = self.createdAt := by
  cases change with
  | approved now approver | approvedBound now approver digest =>
    rw [approvedWith_eq]
    exact ⟨rfl, rfl, rfl⟩
  | claimed _ _ _ _ _ _ _ _ begins | resumed _ _ _ _ _ _ _ _ _ begins =>
    rw [beginAttempt_eq begins]
    exact ⟨rfl, rfl, rfl⟩
  | _ => exact ⟨rfl, rfl, rfl⟩

theorem not_settled : ¬self.Settled := by
  cases change <;> simp_all [Settled, isAppliedBy]
  next standing => cases standing <;> simp_all

theorem link : changed.linkState = self.linkState ∨ ∃ now ∈ call.readings, changed.linkState = .linked now := by
  cases change with
  | linked now link => exact .inr ⟨now, by simp [Call.readings], rfl⟩
  | approved now approver | approvedBound now approver digest =>
    rw [approvedWith_eq]
    exact .inl rfl
  | claimed _ _ _ _ _ _ _ _ begins | resumed _ _ _ _ _ _ _ _ _ begins =>
    rw [beginAttempt_eq begins]
    exact .inl rfl
  | _ => exact .inl rfl

theorem mem_approvals {approval : Approval} (mem : approval ∈ changed.approvals) :
    approval ∈ self.approvals ∨ self.state = .pending ∧ call.approval = some (self.id, approval) := by
  cases change with
  | approved now approver legacy timely pending
  | approvedBound now approver digest context linkedAt product linked payload timely pending =>
    rw [approvedWith_eq] at mem
    exact ((self.mem_withApproval _ approval).mp mem).imp id fun same => ⟨pending, by rw [same]; rfl⟩
  | claimed _ _ _ _ _ _ _ _ begins | resumed _ _ _ _ _ _ _ _ _ begins =>
    rw [beginAttempt_eq begins] at mem
    exact .inl mem
  | _ => exact .inl mem

end Change

end Starring.Activation
