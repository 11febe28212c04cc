import Starring.Activation.Outcomes

/-! What the validator of a request accepts, and which changes keep a request valid.
A change that stamps the request keeps it valid when the clock has not gone back behind
the times the request already carries. -/

namespace Starring.Activation
open Foundation ActivationRequest List ActivationRequest

theorem adjacent_iff_isChain {α : Type} (related : α → α → Bool) (items : List α) :
    adjacent related items = true ↔ items.IsChain fun first second => related first second = true := by
  induction items with
  | nil => simp [adjacent]
  | cons first rest ih =>
    cases rest with
    | nil => simp [adjacent]
    | cons second rest => rw [adjacent, Bool.and_eq_true, ih, isChain_cons_cons]

namespace ActivationRequest
variable (request : ActivationRequest)

def payloadDigest : Option ActivationDigest :=
  match request.approvalContext with
  | .legacyManual => none
  | .productAuthoring context => some context.approvalPayloadDigest

/-- The part of a product context that is fixed when the request is created. -/
def Rooted : Prop :=
  match request.approvalContext with
  | .legacyManual => True
  | .productAuthoring context =>
    context.policy.validate = true ∧ context.binding.validate request.target.guildId = true ∧
      context.policy.requiredApprovals.get = request.requiredApprovals.toNat ∧
      context.baseline.asObserved = request.observedActive ∧
      productApprovalContextDigestV1 request.id request.target request.requester context = context.approvalContextDigest ∧
      ttlOf context.policy.ttlSeconds = some (request.expiresAt - request.createdAt)

def Linkage : Prop :=
  match request.approvalContext, request.linkState with
  | .legacyManual, .notRequired => True
  | .productAuthoring _, .unlinked =>
    (request.state = .pending ∨ request.state = .expired) ∧ request.approvals = [] ∧ request.applyAttemptNo = 0
  | .productAuthoring _, .linked linkedAt =>
    request.createdAt ≤ linkedAt ∧ linkedAt < request.expiresAt ∧ ∀ approval ∈ request.approvals, linkedAt ≤ approval.approvedAt
  | _, _ => False

def Unended : Prop := request.rejection = none ∧ request.completion = none ∧ request.termination = none

def Staged : Prop :=
  match request.state with
  | .pending => request.approvalCount < request.requiredApprovals.toNat ∧ request.Unended
  | .approved | .applying => request.requiredApprovals.toNat ≤ request.approvalCount ∧ request.Unended
  | .applied =>
    request.requiredApprovals.toNat ≤ request.approvalCount ∧ request.completion.isSome = true ∧ request.rejection = none ∧
      request.termination = none
  | .rejected => request.rejection.isSome = true ∧ request.completion = none ∧ request.termination = none
  | .expired => request.Unended
  | .superseded =>
    request.requiredApprovals.toNat ≤ request.approvalCount ∧ request.rejection = none ∧ request.completion = none ∧
      (request.termination.any fun end_ => end_.isSuperseded) = true ∧ request.approvalContext.isProduct = true ∧
      request.linkState.isLinked = true
  | .withdrawn =>
    request.rejection = none ∧ request.completion = none ∧ (request.termination.any fun end_ => !end_.isSuperseded) = true

@[mk_iff]
structure Valid : Prop where
  quorum : request.requiredApprovals ≠ 0
  window : request.createdAt < request.expiresAt
  distinct : request.approvals.Pairwise fun first second => first.approver.value < second.approver.value
  timely : ∀ approval ∈ request.approvals, request.createdAt ≤ approval.approvedAt ∧ approval.approvedAt < request.expiresAt
  rejected : ∀ rejection, request.rejection = some rejection →
    request.createdAt ≤ rejection.rejectedAt ∧ rejection.rejectedAt < request.expiresAt
  completed : ∀ completion, request.completion = some completion → request.createdAt ≤ completion.appliedAt
  terminated : ∀ termination, request.termination = some termination → request.createdAt ≤ termination.time
  rooted : request.Rooted
  payloads : ∀ approval ∈ request.approvals, approval.approvalPayloadDigest = request.payloadDigest
  linkage : request.Linkage
  attempt : request.state = .applying ↔ request.applyAttemptId.isSome = true
  lease : request.state = .applying ↔ request.applyLeaseUntil.isSome = true
  staged : request.Staged

theorem validateApprovals_eq_ok :
    request.validateApprovals = .ok () ↔
      (request.approvals.Pairwise fun first second => first.approver.value < second.approver.value) ∧
        ∀ approval ∈ request.approvals,
          request.createdAt ≤ approval.approvedAt ∧ approval.approvedAt < request.expiresAt := by
  have ordered : adjacent (fun first second => first.approver.value < second.approver.value) request.approvals = true ↔
      request.approvals.Pairwise fun first second => first.approver.value < second.approver.value := by
    have : IsTrans Approval fun first second => first.approver.value < second.approver.value :=
      ⟨fun _ _ _ => UInt64.lt_trans⟩
    rw [adjacent_iff_isChain, ← isChain_iff_pairwise]
    simp only [decide_eq_true_eq]
  simp [validateApprovals, ← ordered]

theorem validateTimestamps_eq_ok :
    request.validateTimestamps = .ok () ↔
      (∀ rejection, request.rejection = some rejection →
        request.createdAt ≤ rejection.rejectedAt ∧ rejection.rejectedAt < request.expiresAt) ∧
      (∀ completion, request.completion = some completion → request.createdAt ≤ completion.appliedAt) ∧
      ∀ termination, request.termination = some termination → request.createdAt ≤ termination.time := by
  simp only [validateTimestamps, rejectIf_eq_ok, not_or]
  refine and_congr ?_ (and_congr ?_ ?_)
  · cases request.rejection <;> simp
  · cases request.completion <;> simp
  · cases request.termination <;> simp

theorem validateContext_eq_ok :
    request.validateContext = .ok () ↔
      request.Rooted ∧ (∀ approval ∈ request.approvals, approval.approvalPayloadDigest = request.payloadDigest) ∧
        request.Linkage := by
  unfold validateContext Rooted payloadDigest Linkage
  cases request.approvalContext with
  | legacyManual =>
    cases request.linkState <;> simp
  | productAuthoring context =>
    cases request.linkState with
    | notRequired => simp [validateLink]
    | unlinked =>
      simp only [validateLink, check_bind_eq_ok, orReject_bind_eq_ok, rejectIf_eq_ok]
      simp only [not_or, Bool.not_eq_false, not_not, any_eq_true, not_exists, not_and, decide_eq_true_eq,
        ne_eq, ← or_iff_not_imp_left]
      constructor
      · rintro ⟨⟨policy, binding, approvals, baseline, digest⟩, ttl, known, ⟨rfl, payloads⟩, inert⟩
        exact ⟨⟨policy, binding, approvals, baseline, digest, known⟩, payloads, inert⟩
      · rintro ⟨⟨policy, binding, approvals, baseline, digest, known⟩, payloads, inert⟩
        exact ⟨⟨policy, binding, approvals, baseline, digest⟩, _, known, ⟨rfl, payloads⟩, inert⟩
    | linked linkedAt =>
      simp only [validateLink, check_bind_eq_ok, orReject_bind_eq_ok, rejectIf_eq_ok]
      simp only [not_or, Bool.not_eq_false, not_not, any_eq_true, not_exists, not_and, decide_eq_true_eq,
        ne_eq, not_lt, not_le]
      constructor
      · rintro ⟨⟨policy, binding, approvals, baseline, digest⟩, ttl, known, ⟨rfl, payloads⟩, ⟨after, before⟩, later⟩
        exact ⟨⟨policy, binding, approvals, baseline, digest, known⟩, payloads, after, before, later⟩
      · rintro ⟨⟨policy, binding, approvals, baseline, digest, known⟩, payloads, after, before, later⟩
        exact ⟨⟨policy, binding, approvals, baseline, digest⟩, _, known, ⟨rfl, payloads⟩, ⟨after, before⟩, later⟩

theorem validateApplyFields_eq_ok :
    request.validateApplyFields = .ok () ↔
      (request.state = .applying ↔ request.applyAttemptId.isSome = true) ∧
        (request.state = .applying ↔ request.applyLeaseUntil.isSome = true) := by
  simp only [validateApplyFields, rejectIf_eq_ok]
  by_cases applying : request.state = .applying <;> cases request.applyAttemptId <;> cases request.applyLeaseUntil <;>
    simp [applying]

theorem validateState_eq_ok : request.validateState = .ok () ↔ request.Staged := by
  unfold validateState Staged Unended
  cases request.state <;>
    simp only [rejectIf_eq_ok, not_or, not_le, not_lt, Bool.not_eq_true, Bool.not_eq_false,
      Option.isSome_eq_false_iff, Option.isNone_iff_eq_none, ← Option.isSome_iff_ne_none, ← ne_eq]

theorem validate_eq_ok : request.validate = .ok () ↔ request.Valid := by
  simp only [validate, check_bind_eq_ok, validateApprovals_eq_ok, validateTimestamps_eq_ok, validateContext_eq_ok,
    validateApplyFields_eq_ok, validateState_eq_ok, validatePolicy, rejectIf_eq_ok, not_or, not_le, valid_iff,
    and_assoc, ne_eq]

/-- The call stamps the request with a time before one that the request carries. -/
def Backdated : Call → Prop
  | .linkProduct now _ _ | .approve now _ _ | .reject now _ _ _ => now < request.createdAt
  | .approveBound now _ _ _ => ∃ linkedAt, request.linkState = .linked linkedAt ∧ now < linkedAt
  | _ => False

variable {request}

variable {now : DateTime}

theorem not_due_iff (pending : request.state = .pending) : request.isDue now = false ↔ now < request.expiresAt := by
  simp [isDue, pending]

theorem Valid.unended_of_due (h : request.Valid) (due : request.isDue now = true) : request.Unended := by
  have staged := h.staged
  simp only [isDue, Bool.decide_and, Bool.and_eq_true, decide_eq_true_eq] at due
  obtain ⟨pending | approved, -⟩ := due
  · rw [Staged, pending] at staged
    exact staged.2
  · rw [Staged, approved] at staged
    exact staged.2

theorem Valid.lapse (h : request.Valid) (due : request.isDue now = true) : request.expired.Valid := by
  have unended := h.unended_of_due due
  simp only [isDue, Bool.decide_and, Bool.and_eq_true, decide_eq_true_eq] at due
  have idle : request.state ≠ .applying := by
    obtain ⟨pending | approved, -⟩ := due <;> simp [*]
  refine { h with linkage := ?_, attempt := ?_, lease := ?_, staged := unended }
  · have linkage := h.linkage
    simp only [Linkage, expired] at linkage ⊢
    split at linkage
    · trivial
    · exact ⟨.inr trivial, linkage.2⟩
    · exact linkage
    · exact linkage
  · simpa [expired, idle] using h.attempt
  · simpa [expired, idle] using h.lease

theorem Linkage.times {linkedAt : DateTime} (linkage : request.Linkage)
    (linked : request.linkState = .linked linkedAt) :
    request.createdAt ≤ linkedAt ∧ linkedAt < request.expiresAt ∧
      ∀ approval ∈ request.approvals, linkedAt ≤ approval.approvedAt := by
  rw [Linkage, linked] at linkage
  cases context : request.approvalContext with
  | legacyManual => simp [context] at linkage
  | productAuthoring product => simpa [context] using linkage

/-- Where the request is not an unlinked product request, its link does not look at its state. -/
theorem Linkage.carry (linkage : request.Linkage) (active : request.isUnlinkedProduct = false)
    (changed : ActivationRequest) (context : changed.approvalContext = request.approvalContext)
    (link : changed.linkState = request.linkState)
    (created : changed.createdAt = request.createdAt) (expires : changed.expiresAt = request.expiresAt)
    (later : ∀ linkedAt, request.linkState = .linked linkedAt →
      ∀ approval ∈ changed.approvals, linkedAt ≤ approval.approvedAt) :
    changed.Linkage := by
  simp only [Linkage, context, link, created, expires] at linkage ⊢
  split at linkage
  · trivial
  · next product unlinked =>
    simp [isUnlinkedProduct, product, unlinked, ActivationApprovalContextV1.isProduct,
      ActivationLinkStateV1.isLinked] at active
  · next linkedAt product linked => exact ⟨linkage.1, linkage.2.1, later linkedAt linked⟩
  · exact linkage

section approvals
variable (approval : Approval)

theorem withApproval_distinct
    (distinct : request.approvals.Pairwise fun first second => first.approver.value < second.approver.value)
    (fresh : ∀ other ∈ request.approvals, other.approver ≠ approval.approver) :
    (request.withApproval approval).Pairwise fun first second => first.approver.value < second.approver.value := by
  have sorted : (request.withApproval approval).Pairwise fun first second =>
      first.approver.value ≤ second.approver.value := by
    have : IsTrans Approval fun first second => first.approver.value ≤ second.approver.value :=
      ⟨fun _ _ _ => UInt64.le_trans⟩
    have : Std.Total fun first second : Approval => first.approver.value ≤ second.approver.value :=
      ⟨fun _ _ => UInt64.le_total _ _⟩
    exact pairwise_insertionSort _ _
  have apart : (request.withApproval approval).Pairwise fun first second => first.approver ≠ second.approver := by
    refine List.Pairwise.perm ?_ (perm_insertionSort _ _).symm fun differ => differ.symm
    refine pairwise_append.mpr ⟨?_, pairwise_singleton _ _, ?_⟩
    · refine distinct.imp ?_
      intro first second less same
      rw [same] at less
      exact UInt64.lt_irrefl _ less
    · intro other mem last isLast
      rw [mem_singleton.mp isLast]
      exact fresh other mem
  refine (sorted.and apart).imp ?_
  rintro first second ⟨atMost, differ⟩
  refine UInt64.lt_of_le_of_ne atMost fun same => differ ?_
  exact congrArg UserId.mk same

/-- One more approval keeps a pending request valid exactly when it comes in time. -/
theorem Valid.approvedWith_valid_iff (h : request.Valid) (pending : request.state = .pending)
    (active : request.isUnlinkedProduct = false)
    (fresh : ∀ other ∈ request.approvals, other.approver ≠ approval.approver)
    (payload : approval.approvalPayloadDigest = request.payloadDigest) :
    (request.approvedWith approval).Valid ↔
      request.createdAt ≤ approval.approvedAt ∧ approval.approvedAt < request.expiresAt ∧
        ∀ linkedAt, request.linkState = .linked linkedAt → linkedAt ≤ approval.approvedAt := by
  have added : approval ∈ request.withApproval approval := (mem_withApproval request approval approval).mpr (.inr rfl)
  rw [approvedWith_eq]
  constructor
  · intro valid
    obtain ⟨after, before⟩ := valid.timely approval added
    exact ⟨after, before, fun linkedAt linked => (valid.linkage.times linked).2.2 approval added⟩
  · rintro ⟨after, before, later⟩
    have unended : request.Unended := by
      have staged := h.staged
      rw [Staged, pending] at staged
      exact staged.2
    have waiting : request.state ≠ .applying := by simp [pending]
    have idle : ¬((if request.requiredApprovals.toNat ≤ min (request.approvals.length + 1) (2 ^ 32 - 1) then
        ActivationRequestState.approved else request.state) = .applying) := by
      rw [pending]
      split <;> simp
    refine { h with distinct := ?_, timely := ?_, payloads := ?_, linkage := ?_, attempt := ?_, lease := ?_, staged := ?_ }
    · exact withApproval_distinct approval h.distinct fresh
    · intro other mem
      obtain old | rfl := (mem_withApproval request approval other).mp mem
      · exact h.timely other old
      · exact ⟨after, before⟩
    · intro other mem
      obtain old | rfl := (mem_withApproval request approval other).mp mem
      · exact h.payloads other old
      · exact payload
    · refine h.linkage.carry active _ rfl rfl rfl rfl ?_
      intro linkedAt linked other mem
      obtain old | rfl := (mem_withApproval request approval other).mp mem
      · exact (h.linkage.times linked).2.2 other old
      · exact later linkedAt linked
    · exact iff_of_false idle fun some => waiting (h.attempt.mpr some)
    · exact iff_of_false idle fun some => waiting (h.lease.mpr some)
    · by_cases enough : request.requiredApprovals.toNat ≤ min (request.approvals.length + 1) (2 ^ 32 - 1)
      · simp only [Staged, if_pos enough, approvalCount, length_withApproval]
        exact ⟨enough, unended⟩
      · simp only [Staged, if_neg enough, pending, approvalCount, length_withApproval]
        exact ⟨Nat.lt_of_not_le enough, unended⟩

end approvals

/-- A link keeps a pending request valid exactly when it is not older than the request. -/
theorem Valid.linked_valid_iff {context : ProductApprovalContextV1} (h : request.Valid)
    (product : request.approvalContext = .productAuthoring context) (pending : request.state = .pending)
    (bare : request.approvals = []) (timely : request.isDue now = false) :
    ({ request with linkState := .linked now } : ActivationRequest).Valid ↔ request.createdAt ≤ now := by
  constructor
  · intro valid
    exact (valid.linkage.times rfl).1
  · intro after
    have staged := h.staged
    rw [Staged, pending] at staged
    refine { h with linkage := ?_, staged := ?_ }
    · simp only [Linkage, product, bare]
      exact ⟨after, (not_due_iff pending).mp timely, by simp⟩
    · simp only [Staged, pending]
      exact staged

/-- A rejection keeps a pending request valid exactly when it is not older than the request. -/
theorem Valid.rejected_valid_iff {rejection : Rejection} (h : request.Valid) (pending : request.state = .pending)
    (active : request.isUnlinkedProduct = false) (timely : request.isDue rejection.rejectedAt = false) :
    ({ request with state := .rejected, rejection := some rejection } : ActivationRequest).Valid ↔
      request.createdAt ≤ rejection.rejectedAt := by
  constructor
  · intro valid
    exact (valid.rejected rejection rfl).1
  · intro after
    have staged := h.staged
    rw [Staged, pending] at staged
    have waiting : request.state ≠ .applying := by simp [pending]
    refine { h with rejected := ?_, linkage := ?_, attempt := ?_, lease := ?_, staged := ?_ }
    · rintro other ⟨⟩
      exact ⟨after, (not_due_iff pending).mp timely⟩
    · exact h.linkage.carry active _ rfl rfl rfl rfl fun _ linked => (h.linkage.times linked).2.2
    · exact iff_of_false (by simp) fun some => waiting (h.attempt.mpr some)
    · exact iff_of_false (by simp) fun some => waiting (h.lease.mpr some)
    · exact ⟨rfl, staged.2.2⟩

theorem Valid.resumed_valid {attemptId : ApplyAttemptId} {leaseUntil : DateTime} {begun : ActivationRequest}
    (h : request.Valid) (active : request.isUnlinkedProduct = false) (applying : request.state = .applying)
    (begins : request.beginAttempt attemptId leaseUntil = .ok begun) : begun.Valid := by
  unfold beginAttempt at begins
  split_ifs at begins
  cases begins
  have staged := h.staged
  rw [Staged, applying] at staged
  refine { h with linkage := ?_, attempt := ?_, lease := ?_, staged := staged }
  · exact h.linkage.carry active _ rfl rfl rfl rfl fun _ linked => (h.linkage.times linked).2.2
  · simp
  · simp

end ActivationRequest

/-- A change made in place leaves the request valid unless its call is backdated. -/
theorem Change.valid_iff {self changed : ActivationRequest} {call : Call} (change : Change self call changed)
    (inPlace : call.changesInPlace = true) (h : self.Valid) : changed.Valid ↔ ¬self.Backdated call := by
  cases change with
  | linked now link context product agrees unlinked timely pending bare =>
    rw [h.linked_valid_iff product pending bare timely, Backdated, not_lt]
  | approved now approver legacy timely pending fresh =>
    have active : self.isUnlinkedProduct = false := by
      simp [isUnlinkedProduct, legacy, ActivationApprovalContextV1.isProduct]
    have unlinked : self.linkState = .notRequired := by
      have linkage := h.linkage
      rw [Linkage, legacy] at linkage
      cases link : self.linkState <;> simp [link] at linkage ⊢
    rw [h.approvedWith_valid_iff _ pending active fresh (by simp [payloadDigest, legacy])]
    simp [Backdated, unlinked, (not_due_iff pending).mp timely]
  | approvedBound now approver digest context linkedAt product linked payload timely pending fresh =>
    have active : self.isUnlinkedProduct = false := by
      simp [isUnlinkedProduct, linked, ActivationLinkStateV1.isLinked]
    have created := (h.linkage.times linked).1
    rw [h.approvedWith_valid_iff _ pending active fresh (by simp [payloadDigest, product, payload])]
    simp only [Backdated, linked, ActivationLinkStateV1.linked.injEq, exists_eq_left', not_lt,
      forall_eq']
    exact ⟨fun inTime => inTime.2.2,
      fun later => ⟨created.trans later, (not_due_iff pending).mp timely, later⟩⟩
  | rejected now rejectedBy reason timely active pending =>
    rw [h.rejected_valid_iff pending active timely, Backdated, not_lt]
  | resumed now leaseNow attemptId leaseSeconds leaseUntil begun active applying lapsed begins =>
    exact iff_of_true (h.resumed_valid active applying begins) not_false
  | _ => simp [Call.changesInPlace] at inPlace

end Starring.Activation
