import Starring.Activation.Validity

/-! No request is applied without its quorum. Along every run of the store whose clock
does not go back, the stored requests stay valid, and every approval goes back to an
accepted call on the request while it was pending. -/

namespace Starring.Activation
open Foundation List ActivationRequest ActivationRequestStore

abbrev StoreEvent := Event ActivationRequestStore Call Answer

/-- The approval was made by an accepted call, and the request was pending at that time. -/
def MadeWhilePending (past : List StoreEvent) (requestId : ActivationRequestId) (approval : Approval) : Prop :=
  ∃ event ∈ past, event.call.approval = some (requestId, approval) ∧ event.answer.isError = false ∧
    ∃ before, event.before.get requestId = some before ∧ before.state = .pending

/-- What is known about a stored request while the clock goes forward: it is valid, the times that
new stamps are compared with are readings of the past, and so are the approvals. -/
structure Known (past : List StoreEvent) (request : ActivationRequest) : Prop where
  valid : request.Valid
  created : request.createdAt ∈ (past.map Event.call).flatMap Call.readings
  linked : ∀ linkedAt, request.linkState = .linked linkedAt →
    linkedAt ∈ (past.map Event.call).flatMap Call.readings
  made : ∀ approval ∈ request.approvals, MadeWhilePending past request.id approval

section
variable {past : List StoreEvent} {request : ActivationRequest} {event : StoreEvent}

theorem MadeWhilePending.later {requestId : ActivationRequestId} {approval : Approval}
    (made : MadeWhilePending past requestId approval) : MadeWhilePending (past ++ [event]) requestId approval := by
  obtain ⟨earlier, mem, rest⟩ := made
  exact ⟨earlier, mem_append_left _ mem, rest⟩

theorem Known.later (known : Known past request) : Known (past ++ [event]) request where
  valid := known.valid
  created := by
    rw [map_append, flatMap_append]
    exact mem_append_left _ known.created
  linked linkedAt linked := by
    rw [map_append, flatMap_append]
    exact mem_append_left _ (known.linked linkedAt linked)
  made approval mem := (known.made approval mem).later

theorem Known.not_backdated (known : Known past request)
    (forward : ((past ++ [event]).map Event.call).flatMap Call.readings |>.Pairwise (· ≤ ·)) :
    ¬request.Backdated event.call := by
  rw [map_append, flatMap_append, pairwise_append] at forward
  obtain ⟨-, -, ordered⟩ := forward
  have later : ∀ now ∈ event.call.readings, request.createdAt ≤ now := fun now reads =>
    ordered _ known.created now (by simpa using reads)
  have bound : ∀ linkedAt, request.linkState = .linked linkedAt → ∀ now ∈ event.call.readings, linkedAt ≤ now :=
    fun linkedAt linked now reads => ordered _ (known.linked linkedAt linked) now (by simpa using reads)
  unfold Backdated
  cases call : event.call with
  | linkProduct now requestId link | approve now requestId approver | reject now requestId rejectedBy reason =>
    exact not_lt.mpr (later now (by simp [call, Call.readings]))
  | approveBound now requestId approver digest =>
    rintro ⟨linkedAt, linked, earlier⟩
    exact absurd earlier (not_lt.mpr (bound linkedAt linked now (by simp [call, Call.readings])))
  | _ => exact not_false

theorem Known.of_fresh (fresh : Fresh event.call request) : Known (past ++ [event]) request where
  valid := request.validate_eq_ok.mp fresh.valid
  created := by
    rw [map_append, flatMap_append]
    exact mem_append_right _ (by simpa using fresh.reads)
  linked linkedAt linked := by
    have unlinked := fresh.unlinked
    simp [linked, ActivationLinkStateV1.isLinked] at unlinked
  made approval mem := by
    rw [fresh.bare] at mem
    cases mem

theorem Known.lapse {now : DateTime} (known : Known past request) (due : request.isDue now = true) :
    Known past request.expired :=
  { known with valid := known.valid.lapse due }

theorem Known.change {changed : ActivationRequest} (known : Known past request)
    (found : event.before.get request.id = some request) (change : Change request event.call changed)
    (passed : event.answer.isError = false) (valid : changed.Valid) : Known (past ++ [event]) changed := by
  obtain ⟨id, -, created⟩ := change.frame
  refine { valid, created := created ▸ (known.later).created, linked := ?_, made := ?_ }
  · intro linkedAt linked
    obtain same | ⟨now, reads, stamped⟩ := change.link
    · exact (known.later).linked linkedAt (same ▸ linked)
    · rw [stamped] at linked
      cases linked
      rw [map_append, flatMap_append]
      exact mem_append_right _ (by simpa using reads)
  · intro approval mem
    rw [id]
    obtain old | ⟨pending, offered⟩ := change.mem_approvals mem
    · exact (known.made approval old).later
    · exact ⟨event, by simp, offered, passed, request, found, pending⟩

end

theorem known_step (past : List StoreEvent) (store : ActivationRequestStore) (call : Call)
    (known : ∀ id request, store.get id = some request → Known past request)
    (forward : ((past ++ [event Call.exec store call]).map Event.call).flatMap Call.readings |>.Pairwise (· ≤ ·))
    (id : ActivationRequestId) (request : ActivationRequest) (found : (call.exec store).2.get id = some request) :
    Known (past ++ [event Call.exec store call]) request := by
  have outcome := call.exec_outcome store
  have answered : (event Call.exec store call).answer = (call.exec store).1 := rfl
  generalize call.exec store = ended at outcome found answered
  cases outcome with
  | idle answer => exact (known id request found).later
  | created answer made _ _ _ fresh =>
    obtain rfl | old := found_insert found
    · exact .of_fresh fresh
    · exact (known id request old).later
  | lapsed answer self now _ stored due reads =>
    obtain rfl | old := found_insert found
    · exact ((known _ self stored).lapse due).later
    · exact (known id request old).later
  | moved answer self changed passed _ stored change valid =>
    obtain rfl | old := found_insert found
    · exact (known _ self stored).change stored change (answered ▸ passed) (request.validate_eq_ok.mp valid)
    · exact (known id request old).later
  | spoiled answer self changed _ _ inPlace stored change invalid =>
    have selfKnown := known _ self stored
    exact absurd (changed.validate_eq_ok.mpr ((change.valid_iff inPlace selfKnown.valid).mpr
      (selfKnown.not_backdated forward))) invalid

theorem run_known (calls : List Call) (forward : (calls.flatMap Call.readings).Pairwise (· ≤ ·))
    (id : ActivationRequestId) (request : ActivationRequest)
    (found : (final Call.exec .empty calls).get id = some request) :
    Known (history Call.exec .empty calls) request := by
  have run := history_invariant Call.exec
    (fun past store => (past.map Event.call).flatMap Call.readings |>.Pairwise (· ≤ ·) →
      ∀ id request, store.get id = some request → Known past request)
    .empty calls
    (fun _ id request found => by simp at found)
    (fun past store call known forward => known_step past store call (known ?_) forward)
  · rw [history_map_call] at run
    exact run forward id request found
  · rw [map_append, flatMap_append] at forward
    exact (pairwise_append.mp forward).1

theorem settled_stays (call : Call) (store : ActivationRequestStore) (id : ActivationRequestId)
    (request : ActivationRequest) (found : store.get id = some request) (settled : request.Settled) :
    (call.exec store).2.get id = some request := by
  -- A call that writes to the same id has found the request there, unsettled.
  have elsewhere : ∀ self written : ActivationRequest, store.get self.id = some self → ¬self.Settled →
      written.id = self.id → (store.insert written).get id = some request := by
    intro self written stored unsettled same
    rw [get_insert, if_neg, found]
    intro here
    rw [← same, here, found] at stored
    cases stored
    exact unsettled settled
  have outcome := call.exec_outcome store
  generalize call.exec store = ended at outcome
  cases outcome with
  | idle answer => exact found
  | created answer made _ _ free fresh =>
    rw [get_insert, if_neg, found]
    intro here
    rw [here, found] at free
    cases free
  | lapsed answer self now _ stored due =>
    exact elsewhere self _ stored (not_settled_of_due due) rfl
  | moved answer self changed _ _ stored change | spoiled answer self changed _ _ _ stored change =>
    exact elsewhere self _ stored change.not_settled change.frame.1

/-- A request has its quorum: enough approvals by different users, each of them in time and made
while the request was pending, and for a product request bound to its payload after its link. -/
structure QuorumMet (past : List StoreEvent) (request : ActivationRequest) : Prop where
  enough : request.requiredApprovals.toNat ≤ request.approvals.length
  distinct : (request.approvals.map Approval.approver).Nodup
  made : ∀ approval ∈ request.approvals, MadeWhilePending past request.id approval
  timely : ∀ approval ∈ request.approvals,
    request.createdAt ≤ approval.approvedAt ∧ approval.approvedAt < request.expiresAt
  bound : ∀ context, request.approvalContext = .productAuthoring context →
    ∃ linkedAt, request.linkState = .linked linkedAt ∧ ∀ approval ∈ request.approvals,
      approval.approvalPayloadDigest = some context.approvalPayloadDigest ∧ linkedAt ≤ approval.approvedAt

/-- The states that only a quorum reaches. -/
def ActivationRequest.NeedsQuorum (self : ActivationRequest) : Prop :=
  self.state = .approved ∨ self.state = .applying ∨ self.state = .applied ∨ self.state = .superseded

structure QuorumSafe (calls : List Call) : Prop where
  valid : ∀ id request, (final Call.exec .empty calls).get id = some request → request.validate = .ok ()
  quorum : ∀ id request, (final Call.exec .empty calls).get id = some request → request.NeedsQuorum →
    QuorumMet (history Call.exec .empty calls) request
  inert : ∀ id request context, (final Call.exec .empty calls).get id = some request →
    request.approvalContext = .productAuthoring context → request.linkState = .unlinked →
    request.approvals = [] ∧ request.applyAttemptNo = 0 ∧ request.applyAttemptId = none
  settled : ∀ event ∈ history Call.exec .empty calls, ∀ id request,
    event.before.get id = some request → request.Settled → event.after.get id = some request

namespace ActivationRequest
variable {request : ActivationRequest}

theorem Valid.enough (h : request.Valid) (needs : request.NeedsQuorum) :
    request.requiredApprovals.toNat ≤ request.approvals.length := by
  have staged := h.staged
  have counted : request.requiredApprovals.toNat ≤ request.approvalCount := by
    obtain state | state | state | state := needs <;> rw [Staged, state] at staged <;> exact staged.1
  exact counted.trans (Nat.min_le_left _ _)

theorem Valid.approvers_nodup (h : request.Valid) : (request.approvals.map Approval.approver).Nodup := by
  refine pairwise_map.mpr (h.distinct.imp ?_)
  intro first second less same
  rw [same] at less
  exact UInt64.lt_irrefl _ less

theorem Valid.linked_of_quorum {context : ProductApprovalContextV1} (h : request.Valid)
    (needs : request.NeedsQuorum) (product : request.approvalContext = .productAuthoring context) :
    ∃ linkedAt, request.linkState = .linked linkedAt := by
  have linkage := h.linkage
  rw [Linkage, product] at linkage
  cases link : request.linkState with
  | notRequired => simp [link] at linkage
  | unlinked =>
    simp only [link] at linkage
    obtain ⟨pending | expired, -⟩ := linkage <;> simp_all [NeedsQuorum]
  | linked linkedAt => exact ⟨linkedAt, rfl⟩

end ActivationRequest

theorem Known.quorumMet {past : List StoreEvent} {request : ActivationRequest} (known : Known past request)
    (needs : request.NeedsQuorum) : QuorumMet past request where
  enough := known.valid.enough needs
  distinct := known.valid.approvers_nodup
  made := known.made
  timely := known.valid.timely
  bound context product := by
    obtain ⟨linkedAt, linked⟩ := known.valid.linked_of_quorum needs product
    refine ⟨linkedAt, linked, fun approval mem => ⟨?_, (known.valid.linkage.times linked).2.2 approval mem⟩⟩
    rw [known.valid.payloads approval mem, payloadDigest, product]

/-- While the clock does not go back, nothing is applied without its quorum. -/
theorem quorum_safety (calls : List Call) (forward : (calls.flatMap Call.readings).Pairwise (· ≤ ·)) :
    QuorumSafe calls where
  valid id request found := request.validate_eq_ok.mpr (run_known calls forward id request found).valid
  quorum id request found needs := (run_known calls forward id request found).quorumMet needs
  inert id request context found product unlinked := by
    have valid := (run_known calls forward id request found).valid
    have linkage := valid.linkage
    simp only [Linkage, product, unlinked] at linkage
    obtain ⟨open_, bare, unattempted⟩ := linkage
    refine ⟨bare, unattempted, ?_⟩
    have idle : request.state ≠ .applying := by
      obtain pending | expired := open_ <;> simp [*]
    simpa using fun some => idle (valid.attempt.mpr some)
  settled event mem id request found settled := by
    rw [mem_history Call.exec _ calls event mem]
    exact settled_stays event.call event.before id request found settled

/-! A request with two approvals whose first attempt loses its lease to a second. -/
namespace Scenario

def requestId : ActivationRequestId := ⟨"request-1", by decide +kernel⟩
def firstAttempt : ApplyAttemptId := ⟨"attempt-1", by decide +kernel⟩
def secondAttempt : ApplyAttemptId := ⟨"attempt-2", by decide +kernel⟩

def second : Duration := 1000000000

def target : ActivationTarget where
  guildId := ⟨7⟩
  rulesetKey := ⟨"rules", by decide +kernel⟩
  version := ⟨⟨1, Nat.one_pos, NonZeroU32.one_bounded⟩⟩
  contentHash := ⟨List.replicate 32 1, by decide⟩

def input : CreateActivationRequest where
  id := requestId
  target := target
  requester := ⟨1⟩
  requiredApprovals := 2
  ttl := 100 * second
  observedActive := none

def approving : List Call :=
  [.create (10 * second) input, .approve (11 * second) requestId ⟨3⟩, .approve (12 * second) requestId ⟨2⟩]

def claiming : Call := .claimApply (13 * second) (13 * second) requestId firstAttempt 5

def resuming : Call := .claimResume (20 * second) (20 * second) requestId secondAttempt 5

def completing : Call := .completeApplied (21 * second) requestId secondAttempt ⟨1⟩ .activated none

def calls : List Call := approving ++ [claiming, resuming, completing]

end Scenario

theorem scenario_quorum :
    (Scenario.calls.flatMap Call.readings).Pairwise (· ≤ ·) ∧ QuorumSafe Scenario.calls ∧
      ((final Call.exec .empty Scenario.calls).get Scenario.requestId).map
          (fun request => (request.state, request.approvals.map Approval.approver)) =
        some (.applied, [⟨2⟩, ⟨3⟩]) :=
  ⟨by decide +kernel, quorum_safety Scenario.calls (by decide +kernel), by decide +kernel⟩

end Starring.Activation
