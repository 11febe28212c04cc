import Starring.Activation.Quorum

/-! What a failed call leaves in the store. A call that fails lets a request lapse at
most, unless it changes a request in place with a clock that has gone back behind the
times of the request: then the change is refused and stays. -/

namespace Starring.Activation
open Foundation Scenario ActivationRequestStore ActivationRequest ActivationRequestStore

/-- Between the stores, requests have only lapsed under the clock of the call. -/
def OnlyLapsed (call : Call) (before after : ActivationRequestStore) : Prop :=
  ∀ id, after.get id = before.get id ∨
    ∃ request now, before.get id = some request ∧ (request.state = .pending ∨ request.state = .approved) ∧
      now ∈ call.readings ∧ request.expiresAt ≤ now ∧ after.get id = some { request with state := .expired }

/-- If the call fails, every stored request is still valid, and has lapsed at most. -/
def FailsCleanly (store : ActivationRequestStore) (call : Call) : Prop :=
  (call.exec store).1.isError = true →
    (∀ id request, (call.exec store).2.get id = some request → request.validate = .ok ()) ∧
      OnlyLapsed call store (call.exec store).2

/-- The call passes every check of its decision, but stamps a stored request with a time before one
that the request carries. -/
def StaleWrite (store : ActivationRequestStore) (call : Call) : Prop :=
  ∃ request changed, store.get request.id = some request ∧ Change request call changed ∧ request.Backdated call

theorem onlyLapsed_expired {call : Call} {store : ActivationRequestStore} {self : ActivationRequest}
    {now : DateTime} (found : store.get self.id = some self) (due : self.isDue now = true)
    (reads : now ∈ call.readings) : OnlyLapsed call store (store.insert self.expired) := by
  simp only [isDue, Bool.decide_and, Bool.and_eq_true, decide_eq_true_eq] at due
  obtain ⟨standing, lapsed⟩ := due
  intro id
  rw [get_insert]
  by_cases here : self.expired.id = id
  · subst here
    exact .inr ⟨self, now, found, standing, reads, lapsed, if_pos rfl⟩
  · exact .inl (if_neg here)

theorem ActivationRequest.Backdated.inPlace {request : ActivationRequest} {call : Call}
    (backdated : request.Backdated call) : call.changesInPlace = true := by
  cases call <;> first | rfl | exact backdated.elim

section
variable {store : ActivationRequestStore} {self changed : ActivationRequest} {message : String}

theorem changeInPlace_spoiled {ε α : Type} {ofStore : ActivationStoreError → ε} {decision : α}
    {change : ActivationRequest → Except ε α × ActivationRequest} (found : store.get self.id = some self)
    (decides : change self = (.ok decision, changed)) (invalid : changed.validate = .error message) :
    store.changeInPlace self.id ofStore change =
      (.error (ofStore (.invalidRequest message)), store.insert changed) := by
  simp only [changeInPlace, found, decides, invalid]

theorem approveWithDigestAt_accepts {approver : UserId} {digest : Option ActivationDigest} {now : DateTime}
    (timely : self.isDue now = false) (pending : self.state = .pending)
    (fresh : ∀ approval ∈ self.approvals, approval.approver ≠ approver) :
    self.approveWithDigestAt approver digest now =
      (.ok (), self.approvedWith { approver, approvedAt := now, approvalPayloadDigest := digest }) := by
  have unused : (self.approvals.any fun approval => approval.approver = approver) = false := by
    simpa using fresh
  simp [approveWithDigestAt, timely, pending, unused]

theorem Change.exec_spoiled {call : Call} (change : Change self call changed)
    (backdated : self.Backdated call) (found : store.get self.id = some self)
    (invalid : changed.validate = .error message) :
    (call.exec store).1.isError = true ∧ (call.exec store).2 = store.insert changed := by
  cases change with
  | linked now link context product agrees unlinked timely pending bare =>
    have decides : self.linkProductAt link.promotionId link.promotionRequestDigest link.approvalContextDigest now =
        (.ok .linked, { self with linkState := .linked now }) := by
      simp [linkProductAt, product, agrees, unlinked, timely, pending, bare,
        ActivationLinkStateV1.isLinked]
    simp only [Call.exec, linkProduct]
    rw [changeInPlace_spoiled found (by rw [decides]; rfl) invalid]
    exact ⟨rfl, rfl⟩
  | approved now approver legacy timely pending fresh =>
    have decides : self.approveAt approver now = (.ok (), self.approvedWith
        { approver, approvedAt := now, approvalPayloadDigest := none }) := by
      simp [approveAt, timely, legacy, ActivationApprovalContextV1.isProduct,
        approveWithDigestAt_accepts timely pending fresh]
    simp only [Call.exec, approve]
    rw [changeInPlace_spoiled found (by rw [decides]; rfl) invalid]
    exact ⟨rfl, rfl⟩
  | approvedBound now approver digest context linkedAt product linked payload timely pending fresh =>
    have decides : self.approveBoundAt approver digest now = (.ok (), self.approvedWith
        { approver, approvedAt := now, approvalPayloadDigest := some digest }) := by
      simp [approveBoundAt, timely, product, linked, payload, ActivationLinkStateV1.isLinked,
        approveWithDigestAt_accepts timely pending fresh]
    simp only [Call.exec, approveBound]
    rw [changeInPlace_spoiled found (by rw [decides]; rfl) invalid]
    exact ⟨rfl, rfl⟩
  | rejected now rejectedBy reason timely active pending =>
    have decides : self.rejectAt rejectedBy reason now = (.ok (), { self with
        state := .rejected, rejection := some { rejectedAt := now, rejectedBy, reason } }) := by
      simp [rejectAt, timely, active, pending]
    simp only [Call.exec, reject]
    rw [changeInPlace_spoiled found (by rw [decides]; rfl) invalid]
    exact ⟨rfl, rfl⟩
  | _ => exact backdated.elim

end

/-- A call that fails leaves valid requests and lets them lapse at most, exactly when it is not a
change in place under a clock that has gone back. -/
theorem fails_cleanly_iff (store : ActivationRequestStore)
    (valid : ∀ id request, store.get id = some request → request.validate = .ok ()) (call : Call) :
    FailsCleanly store call ↔ ¬StaleWrite store call := by
  constructor
  · rintro clean ⟨self, changed, found, change, backdated⟩
    have selfValid := self.validate_eq_ok.mp (valid _ self found)
    have spoiled : ¬changed.Valid := fun kept => (change.valid_iff backdated.inPlace selfValid).mp kept backdated
    cases check : changed.validate with
    | ok u => exact spoiled (changed.validate_eq_ok.mp check)
    | error message =>
      obtain ⟨failed, left⟩ := change.exec_spoiled backdated found check
      have stored : (call.exec store).2.get changed.id = some changed := by
        rw [left, get_insert, if_pos rfl]
      rw [(clean failed).1 changed.id changed stored] at check
      cases check
  · intro current failed
    have outcome := call.exec_outcome store
    generalize call.exec store = ended at outcome failed ⊢
    cases outcome with
    | idle answer => exact ⟨valid, fun id => .inl rfl⟩
    | created answer request _ passed | moved answer self changed passed => simp [passed] at failed
    | lapsed answer self now _ found due reads =>
      refine ⟨fun id request stored => ?_, onlyLapsed_expired found due reads⟩
      obtain rfl | old := found_insert stored
      · exact self.expired.validate_eq_ok.mpr ((self.validate_eq_ok.mp (valid _ self found)).lapse due)
      · exact valid id request old
    | spoiled answer self changed _ _ inPlace found change invalid =>
      have selfValid := self.validate_eq_ok.mp (valid _ self found)
      refine absurd (changed.validate_eq_ok.mpr ((change.valid_iff inPlace selfValid).mpr ?_)) invalid
      exact fun backdated => current ⟨self, changed, found, change, backdated⟩

namespace Scenario

/-- The store once the request has been created, at ten seconds. -/
def created : ActivationRequestStore := final Call.exec .empty [.create (10 * second) input]

theorem created_valid (id : ActivationRequestId) (request : ActivationRequest)
    (found : created.get id = some request) : request.validate = .ok () :=
  request.validate_eq_ok.mpr
    (run_known [.create (10 * second) input] (List.pairwise_singleton _ _) id request found).valid

/-- An approval by a clock that reads nine seconds. -/
def earlyApproval : Call := .approve (9 * second) requestId ⟨3⟩

end Scenario

theorem scenario_fails_cleanly_iff :
    (∀ id request, created.get id = some request → request.validate = .ok ()) ∧
      (FailsCleanly created earlyApproval ↔
        ¬StaleWrite created earlyApproval) :=
  ⟨created_valid, fails_cleanly_iff created created_valid earlyApproval⟩

/-- The early approval is refused as invalid, and the request keeps it. -/
theorem early_approval_kept :
    (∀ id request, created.get id = some request → request.validate = .ok ()) ∧
      ¬FailsCleanly created earlyApproval := by
  refine ⟨created_valid, fun clean => ?_⟩
  have failed : (earlyApproval.exec created).1 =
      .approved (.error (.store (.invalidRequest "activation approvals are invalid"))) := by
    decide +kernel
  have kept : ((earlyApproval.exec created).2.get requestId).map
      (fun request => request.validate) = some (.error "activation approvals are invalid") := by
    decide +kernel
  obtain ⟨request, stored, invalid⟩ := Option.map_eq_some_iff.mp kept
  rw [(clean (by rw [failed]; rfl)).1 requestId request stored] at invalid
  cases invalid

end Starring.Activation
