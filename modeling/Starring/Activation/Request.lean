import Starring.Activation.Approval
import Starring.Foundation.Checks

/-! An activation request: its data, its validator, and the decisions that move it.
A decision answers and leaves a request behind, changed or not. -/

namespace Starring.Activation
open Foundation

structure Approval where
  approver : UserId
  approvedAt : DateTime
  approvalPayloadDigest : Option ActivationDigest
  deriving DecidableEq

structure Rejection where
  rejectedAt : DateTime
  rejectedBy : UserId
  reason : String
  deriving DecidableEq

inductive CompletionKind where
  | activated
  | alreadyActive
  | crashRecovered
  deriving DecidableEq

structure Completion where
  appliedAt : DateTime
  appliedBy : UserId
  kind : CompletionKind
  notices : Option (List String)
  deriving DecidableEq

inductive ApplyFailureKind where
  | targetMissing
  | targetCorrupt
  | environment
  | notReady
  | activation
  deriving DecidableEq

structure ApplyErrorRecord where
  kind : ApplyFailureKind
  message : String
  deriving DecidableEq

inductive ActivationRequestState where
  | pending
  | approved
  | applying
  | applied
  | rejected
  | expired
  | superseded
  | withdrawn
  deriving DecidableEq

inductive SupersessionReasonV1 where
  | activeBaselineDrift (expected observed : ExpectedActiveBaselineV1)
  | bindingDrift (expectedRevision observedRevision : NonZeroU64)
      (expectedFingerprint : ApprovalBindingFingerprint) (observedFingerprint : Option ApprovalBindingFingerprint)
  | policyDrift (expectedRevision observedRevision : NonZeroU64)
      (expectedRequiredApprovals observedRequiredApprovals : NonZeroU32)
      (expectedTtlSeconds observedTtlSeconds : NonZeroU64)
  deriving DecidableEq

inductive ActivationTerminationV1 where
  | superseded (at_ : DateTime) (reason : SupersessionReasonV1)
  | withdrawn (at_ : DateTime) (by_ : UserId) (reason : String)
  deriving DecidableEq

def ActivationTerminationV1.time : ActivationTerminationV1 → DateTime
  | superseded at_ _ => at_
  | withdrawn at_ _ _ => at_

def ActivationTerminationV1.isSuperseded : ActivationTerminationV1 → Bool
  | superseded _ _ => true
  | withdrawn _ _ _ => false

def ActivationApprovalContextV1.isProduct : ActivationApprovalContextV1 → Bool
  | legacyManual => false
  | productAuthoring _ => true

def ActivationLinkStateV1.isLinked : ActivationLinkStateV1 → Bool
  | linked _ => true
  | _ => false

theorem ActivationLinkStateV1.isLinked_iff (state : ActivationLinkStateV1) :
    state.isLinked = true ↔ ∃ linkedAt, state = .linked linkedAt := by
  cases state <;> simp [isLinked]

structure ActivationRequest where
  id : ActivationRequestId
  target : ActivationTarget
  requester : UserId
  requiredApprovals : UInt32
  approvalContext : ActivationApprovalContextV1
  linkState : ActivationLinkStateV1
  approvals : List Approval
  state : ActivationRequestState
  rejection : Option Rejection
  applyAttemptId : Option ApplyAttemptId
  applyAttemptNo : UInt64
  applyLeaseUntil : Option DateTime
  lastApplyError : Option ApplyErrorRecord
  observedActive : Option ObservedActive
  completion : Option Completion
  termination : Option ActivationTerminationV1
  createdAt : DateTime
  expiresAt : DateTime
  deriving DecidableEq

structure CreateActivationRequest where
  id : ActivationRequestId
  target : ActivationTarget
  requester : UserId
  requiredApprovals : UInt32
  ttl : Duration
  observedActive : Option ObservedActive
  deriving DecidableEq

structure CreateProductActivationRequest where
  id : ActivationRequestId
  target : ActivationTarget
  requester : UserId
  context : ProductApprovalContextV1
  deriving DecidableEq

inductive ClaimDecision where
  | claimed
  | inProgress (blockingRequestId : ActivationRequestId) (leaseUntil : DateTime) (leaseExpired : Bool)
  | alreadyApplied
  | notApproved
  | unlinked
  | expired
  deriving DecidableEq

inductive ApprovalDecisionError where
  | duplicateApproval
  | boundApprovalRequired
  | unlinked
  | payloadMismatch
  | notPending
  | expired
  deriving DecidableEq

inductive RejectionDecisionError where
  | notPending
  | unlinked
  | expired
  deriving DecidableEq

inductive WithdrawDecisionError where
  | unlinked
  | invalidState
  | expired
  deriving DecidableEq

inductive TransitionError where
  | attemptOverflow
  deriving DecidableEq

def TransitionError.message : TransitionError → String
  | attemptOverflow => "apply attempt number overflow"

inductive LinkDecision where
  | linked
  | exactReplay
  deriving DecidableEq

inductive LinkDecisionError where
  | notProduct
  | conflict
  | notPending
  | expired
  deriving DecidableEq

namespace ActivationRequest
variable (self : ActivationRequest)

/-- The number of approvals, capped at the largest `u32`. -/
def approvalCount : Nat := min self.approvals.length (2 ^ 32 - 1)

def validatePolicy : Except String Unit :=
  rejectIf (self.requiredApprovals = 0 ∨ self.expiresAt ≤ self.createdAt)
    "activation request policy or expiry is invalid"

def validateApprovals : Except String Unit :=
  rejectIf
    (adjacent (fun first second => first.approver.value < second.approver.value) self.approvals = false ∨
      (self.approvals.any fun approval =>
        approval.approvedAt < self.createdAt || self.expiresAt ≤ approval.approvedAt) = true)
    "activation approvals are invalid"

def validateTimestamps : Except String Unit :=
  rejectIf
    ((self.rejection.any fun rejection =>
        rejection.rejectedAt < self.createdAt || self.expiresAt ≤ rejection.rejectedAt) = true ∨
      (self.completion.any fun completion => completion.appliedAt < self.createdAt) = true ∨
      (self.termination.any fun termination => termination.time < self.createdAt) = true)
    "activation decision timestamps are invalid"

def validateLink (linkState : ActivationLinkStateV1) : Except String Unit :=
  match linkState with
  | .notRequired => .error "product activation link state is invalid"
  | .unlinked =>
    rejectIf (¬(self.state = .pending ∨ self.state = .expired) ∨ self.approvals ≠ [] ∨ self.applyAttemptNo ≠ 0)
      "unlinked product activation is not inert"
  | .linked linkedAt => do
    rejectIf (linkedAt < self.createdAt ∨ self.expiresAt ≤ linkedAt)
      "product activation link timestamp is invalid"
    rejectIf ((self.approvals.any fun approval => approval.approvedAt < linkedAt) = true)
      "product activation approval predates its link"

/-- `i64::try_from` followed by `Duration::try_seconds`. -/
def ttlOf (seconds : NonZeroU64) : Option Duration :=
  if seconds.get < 2 ^ 63 then Duration.trySeconds seconds.get else none

def validateContext : Except String Unit :=
  match self.approvalContext with
  | .legacyManual =>
    rejectIf
      (self.linkState ≠ .notRequired ∨
        (self.approvals.any fun approval => approval.approvalPayloadDigest.isSome) = true)
      "legacy activation context is invalid"
  | .productAuthoring context => do
    rejectIf
      (context.policy.validate = false ∨ context.binding.validate self.target.guildId = false ∨
        context.policy.requiredApprovals.get ≠ self.requiredApprovals.toNat ∨
        context.baseline.asObserved ≠ self.observedActive ∨
        productApprovalContextDigestV1 self.id self.target self.requester context ≠
          context.approvalContextDigest)
      "product activation context is invalid"
    let ttl ← orReject (ttlOf context.policy.ttlSeconds) "product activation ttl is invalid"
    rejectIf
      (self.expiresAt - self.createdAt ≠ ttl ∨
        (self.approvals.any fun approval =>
          approval.approvalPayloadDigest ≠ some context.approvalPayloadDigest) = true)
      "product activation approval evidence is invalid"
    self.validateLink self.linkState

def validateApplyFields : Except String Unit :=
  let applyingFields := self.applyAttemptId.isSome && self.applyLeaseUntil.isSome
  rejectIf
    (decide (self.state = .applying) ≠ applyingFields ∨
      (self.state ≠ .applying ∧ (self.applyAttemptId.isSome || self.applyLeaseUntil.isSome) = true))
    "activation apply fields are invalid"

def validateState : Except String Unit :=
  match self.state with
  | .pending =>
    rejectIf
      (self.requiredApprovals.toNat ≤ self.approvalCount ∨ self.rejection.isSome = true ∨
        self.completion.isSome = true ∨ self.termination.isSome = true)
      "pending activation state is invalid"
  | .approved =>
    rejectIf
      (self.approvalCount < self.requiredApprovals.toNat ∨ self.rejection.isSome = true ∨
        self.completion.isSome = true ∨ self.termination.isSome = true)
      "approved activation state is invalid"
  | .applying =>
    rejectIf
      (self.approvalCount < self.requiredApprovals.toNat ∨ self.rejection.isSome = true ∨
        self.completion.isSome = true ∨ self.termination.isSome = true)
      "applying activation state is invalid"
  | .applied =>
    rejectIf
      (self.approvalCount < self.requiredApprovals.toNat ∨ self.completion.isNone = true ∨
        self.rejection.isSome = true ∨ self.termination.isSome = true)
      "applied activation state is invalid"
  | .rejected =>
    rejectIf (self.rejection.isNone = true ∨ self.completion.isSome = true ∨ self.termination.isSome = true)
      "rejected activation state is invalid"
  | .expired =>
    rejectIf (self.rejection.isSome = true ∨ self.completion.isSome = true ∨ self.termination.isSome = true)
      "expired activation state is invalid"
  | .superseded =>
    rejectIf
      (self.approvalCount < self.requiredApprovals.toNat ∨ self.rejection.isSome = true ∨
        self.completion.isSome = true ∨ (self.termination.any fun end_ => end_.isSuperseded) = false ∨
        self.approvalContext.isProduct = false ∨ self.linkState.isLinked = false)
      "superseded activation state is invalid"
  | .withdrawn =>
    rejectIf
      (self.rejection.isSome = true ∨ self.completion.isSome = true ∨
        (self.termination.any fun end_ => !end_.isSuperseded) = false)
      "withdrawn activation state is invalid"

def validate : Except String Unit := do
  self.validatePolicy
  self.validateApprovals
  self.validateTimestamps
  self.validateContext
  self.validateApplyFields
  self.validateState

/-- A request as it is created: nothing decided, nothing attempted. -/
def pendingRequest (id : ActivationRequestId) (target : ActivationTarget) (requester : UserId)
    (requiredApprovals : UInt32) (approvalContext : ActivationApprovalContextV1)
    (linkState : ActivationLinkStateV1) (observedActive : Option ObservedActive)
    (createdAt expiresAt : DateTime) : ActivationRequest :=
  { id, target, requester, requiredApprovals, approvalContext, linkState, approvals := [], state := .pending
    rejection := none, applyAttemptId := none, applyAttemptNo := 0, applyLeaseUntil := none
    lastApplyError := none, observedActive, completion := none, termination := none, createdAt, expiresAt }

def create (input : CreateActivationRequest) (now : DateTime) : Except String ActivationRequest := do
  rejectIf (input.requiredApprovals = 0) "required approvals must be at least one"
  rejectIf (input.ttl ≤ 0) "request ttl must be positive"
  let expiresAt ← orReject (now.checkedAddSigned input.ttl) "request expiry overflow"
  let request := pendingRequest input.id input.target input.requester input.requiredApprovals .legacyManual
    .notRequired input.observedActive now expiresAt
  request.validate
  return request

def createProduct (input : CreateProductActivationRequest) (now : DateTime) :
    Except String ActivationRequest := do
  rejectIf
    (input.context.policy.validate = false ∨ input.context.binding.validate input.target.guildId = false ∨
      productApprovalContextDigestV1 input.id input.target input.requester input.context ≠
        input.context.approvalContextDigest)
    "product approval context is invalid"
  let ttl ← orReject (ttlOf input.context.policy.ttlSeconds) "request ttl overflow"
  let expiresAt ← orReject (now.checkedAddSigned ttl) "request expiry overflow"
  let request := pendingRequest input.id input.target input.requester
    (UInt32.ofNat input.context.policy.requiredApprovals.get) (.productAuthoring input.context) .unlinked
    input.context.baseline.asObserved now expiresAt
  request.validate
  return request

/-- The request is still open, and its time is up. -/
def isDue (now : DateTime) : Bool :=
  (self.state = .pending ∨ self.state = .approved) ∧ self.expiresAt ≤ now

def expired : ActivationRequest := { self with state := .expired }

def expireIfDue (now : DateTime) : Bool × ActivationRequest :=
  if self.isDue now then (true, self.expired) else (false, self)

/-- A product request that is not linked takes part in nothing but linking. -/
def isUnlinkedProduct : Bool := self.approvalContext.isProduct && !self.linkState.isLinked

def linkProductAt (promotionId : ActivationPromotionId)
    (promotionRequestDigest approvalContextDigest : ActivationDigest) (now : DateTime) :
    Except LinkDecisionError LinkDecision × ActivationRequest :=
  match self.approvalContext with
  | .legacyManual => (.error .notProduct, self)
  | .productAuthoring context =>
    if context.promotionId ≠ promotionId ∨ context.promotionRequestDigest ≠ promotionRequestDigest ∨
        context.approvalContextDigest ≠ approvalContextDigest then (.error .conflict, self)
    else if self.linkState.isLinked then (.ok .exactReplay, (self.expireIfDue now).2)
    else if self.isDue now then (.error .expired, self.expired)
    else if self.linkState = .notRequired then (.error .notProduct, self)
    else if self.state ≠ .pending ∨ self.approvals ≠ [] then (.error .notPending, self)
    else (.ok .linked, { self with linkState := .linked now })

/-- The approvals with one more, in the order of their approvers. -/
def withApproval (approval : Approval) : List Approval :=
  (self.approvals ++ [approval]).insertionSort fun first second => first.approver.value ≤ second.approver.value

/-- The request with one more approval, approved once there are enough of them. -/
def approvedWith (approval : Approval) : ActivationRequest :=
  let approved := { self with approvals := self.withApproval approval }
  if self.requiredApprovals.toNat ≤ approved.approvalCount then { approved with state := .approved } else approved

def approveWithDigestAt (approver : UserId) (approvalPayloadDigest : Option ActivationDigest) (now : DateTime) :
    Except ApprovalDecisionError Unit × ActivationRequest :=
  if self.isDue now then (.error .expired, self.expired)
  else if self.state ≠ .pending then (.error .notPending, self)
  else if (self.approvals.any fun approval => approval.approver = approver) = true then
    (.error .duplicateApproval, self)
  else (.ok (), self.approvedWith { approver, approvedAt := now, approvalPayloadDigest })

def approveAt (approver : UserId) (now : DateTime) : Except ApprovalDecisionError Unit × ActivationRequest :=
  if self.isDue now then (.error .expired, self.expired)
  else if self.approvalContext.isProduct then (.error .boundApprovalRequired, self)
  else self.approveWithDigestAt approver none now

def approveBoundAt (approver : UserId) (approvalPayloadDigest : ActivationDigest) (now : DateTime) :
    Except ApprovalDecisionError Unit × ActivationRequest :=
  if self.isDue now then (.error .expired, self.expired)
  else
    match self.approvalContext with
    | .legacyManual => (.error .payloadMismatch, self)
    | .productAuthoring context =>
      if self.linkState.isLinked = false then (.error .unlinked, self)
      else if context.approvalPayloadDigest ≠ approvalPayloadDigest then (.error .payloadMismatch, self)
      else self.approveWithDigestAt approver (some approvalPayloadDigest) now

def rejectAt (rejectedBy : UserId) (reason : String) (now : DateTime) :
    Except RejectionDecisionError Unit × ActivationRequest :=
  if self.isDue now then (.error .expired, self.expired)
  else if self.isUnlinkedProduct then (.error .unlinked, self)
  else if self.state ≠ .pending then (.error .notPending, self)
  else
    (.ok (), { self with state := .rejected, rejection := some { rejectedAt := now, rejectedBy, reason } })

def beginAttempt (attemptId : ApplyAttemptId) (leaseUntil : DateTime) : Except TransitionError ActivationRequest :=
  if self.applyAttemptNo.toNat + 1 < 2 ^ 64 then
    .ok { self with
      applyAttemptNo := self.applyAttemptNo + 1, state := .applying, applyAttemptId := some attemptId
      applyLeaseUntil := some leaseUntil }
  else .error .attemptOverflow

def inProgress (now : DateTime) : ClaimDecision :=
  let leaseUntil := self.applyLeaseUntil.getD now
  .inProgress self.id leaseUntil (leaseUntil ≤ now)

/-- A claim that begins an attempt, or overflows. -/
def claim (attemptId : ApplyAttemptId) (leaseUntil : DateTime) :
    Except TransitionError ClaimDecision × ActivationRequest :=
  match self.beginAttempt attemptId leaseUntil with
  | .ok begun => (.ok .claimed, begun)
  | .error error => (.error error, self)

def claimApplyAt (attemptId : ApplyAttemptId) (now leaseUntil : DateTime) :
    Except TransitionError ClaimDecision × ActivationRequest :=
  if self.isDue now then (.ok .expired, self.expired)
  else if self.isUnlinkedProduct then (.ok .unlinked, self)
  else
    match self.state with
    | .approved => self.claim attemptId leaseUntil
    | .applying => (.ok (self.inProgress now), self)
    | .applied => (.ok .alreadyApplied, self)
    | .expired => (.ok .expired, self)
    | .pending | .rejected | .superseded | .withdrawn => (.ok .notApproved, self)

def claimResumeAt (attemptId : ApplyAttemptId) (now leaseUntil : DateTime) :
    Except TransitionError ClaimDecision × ActivationRequest :=
  if self.isUnlinkedProduct then (.ok .unlinked, self)
  else
    match self.state with
    | .applying =>
      if (self.applyLeaseUntil.any fun lease => now < lease) = true then (.ok (self.inProgress now), self)
      else self.claim attemptId leaseUntil
    | .applied => (.ok .alreadyApplied, self)
    | .expired => (.ok .expired, self)
    | .pending | .approved | .rejected | .superseded | .withdrawn => (.ok .notApproved, self)

def withdrawAt (by_ : UserId) (reason : String) (now : DateTime) :
    Except WithdrawDecisionError Unit × ActivationRequest :=
  if self.isDue now then (.error .expired, self.expired)
  else if self.isUnlinkedProduct then (.error .unlinked, self)
  else if ¬(self.state = .pending ∨ self.state = .approved) then (.error .invalidState, self)
  else
    (.ok (), { self with
      state := .withdrawn, lastApplyError := none, termination := some (.withdrawn now by_ reason) })

/-- The attempt named is the one that is applying the request. -/
def isAppliedBy (attemptId : ApplyAttemptId) : Bool :=
  self.state = .applying ∧ self.applyAttemptId = some attemptId

def supersedeAt (attemptId : ApplyAttemptId) (reason : SupersessionReasonV1) (now : DateTime) :
    Bool × ActivationRequest :=
  if self.isAppliedBy attemptId = false ∨ self.approvalContext.isProduct = false ∨
      self.linkState.isLinked = false then (false, self)
  else
    (true, { self with
      state := .superseded, applyAttemptId := none, applyLeaseUntil := none, lastApplyError := none
      termination := some (.superseded now reason) })

def renewLeaseAt (attemptId : ApplyAttemptId) (leaseUntil : DateTime) : Bool × ActivationRequest :=
  if self.isAppliedBy attemptId = false then (false, self)
  else (true, { self with applyLeaseUntil := some leaseUntil })

/-- The request as it is once it has been applied. -/
def completedWith (completion : Completion) : ActivationRequest :=
  { self with
    state := .applied, applyAttemptId := none, applyLeaseUntil := none, lastApplyError := none
    completion := some completion }

def completeAt (attemptId : ApplyAttemptId) (completion : Completion) : Bool × ActivationRequest :=
  if self.isAppliedBy attemptId = false then (false, self) else (true, self.completedWith completion)

def releaseAt (attemptId : ApplyAttemptId) (error : ApplyErrorRecord) : Bool × ActivationRequest :=
  if self.isAppliedBy attemptId = false then (false, self)
  else
    (true, { self with
      state := .approved, applyAttemptId := none, applyLeaseUntil := none, lastApplyError := some error })

/-- Bookkeeping asks for no attempt: any request that is applying is completed. -/
def bookkeepAt (completion : Completion) : Bool × ActivationRequest :=
  if self.state ≠ .applying then (false, self) else (true, self.completedWith completion)

end ActivationRequest

end Starring.Activation
