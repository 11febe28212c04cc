import Starring.Activation.Request
import Starring.Foundation.Runs

/-! The in-memory store of activation requests. Half of its operations change a
stored request in place and validate it afterwards; the other half change a copy and
store it once it has passed. Every call carries the clock readings it makes. -/

namespace Starring.Activation
open Foundation

inductive ActivationStoreError where
  | duplicateRequest
  | notFound
  | invalidRequest (message : String)
  deriving DecidableEq

inductive ApproveError where
  | duplicateApproval
  | boundApprovalRequired
  | unlinked
  | payloadMismatch
  | notPending
  | expired
  | store (error : ActivationStoreError)
  deriving DecidableEq

def ApproveError.ofDecision : ApprovalDecisionError → ApproveError
  | .duplicateApproval => .duplicateApproval
  | .boundApprovalRequired => .boundApprovalRequired
  | .unlinked => .unlinked
  | .payloadMismatch => .payloadMismatch
  | .notPending => .notPending
  | .expired => .expired

inductive RejectError where
  | notPending
  | unlinked
  | expired
  | store (error : ActivationStoreError)
  deriving DecidableEq

def RejectError.ofDecision : RejectionDecisionError → RejectError
  | .notPending => .notPending
  | .unlinked => .unlinked
  | .expired => .expired

inductive WithdrawError where
  | unlinked
  | invalidState
  | expired
  | store (error : ActivationStoreError)
  deriving DecidableEq

def WithdrawError.ofDecision : WithdrawDecisionError → WithdrawError
  | .unlinked => .unlinked
  | .invalidState => .invalidState
  | .expired => .expired

inductive LinkProductError where
  | notProduct
  | conflict
  | notPending
  | expired
  | store (error : ActivationStoreError)
  deriving DecidableEq

def LinkProductError.ofDecision : LinkDecisionError → LinkProductError
  | .notProduct => .notProduct
  | .conflict => .conflict
  | .notPending => .notPending
  | .expired => .expired

inductive ClaimOutcome where
  | claimed (request : ActivationRequest)
  | inProgress (blockingRequestId : ActivationRequestId) (leaseUntil : DateTime) (leaseExpired : Bool)
  | alreadyApplied
  | notApproved
  | unlinked
  | expired
  deriving DecidableEq

def ClaimOutcome.fromDecision (decision : ClaimDecision) (request : ActivationRequest) : ClaimOutcome :=
  match decision with
  | .claimed => .claimed request
  | .inProgress blockingRequestId leaseUntil leaseExpired => .inProgress blockingRequestId leaseUntil leaseExpired
  | .alreadyApplied => .alreadyApplied
  | .notApproved => .notApproved
  | .unlinked => .unlinked
  | .expired => .expired

structure LinkProductActivation where
  promotionId : ActivationPromotionId
  promotionRequestDigest : ActivationDigest
  approvalContextDigest : ActivationDigest
  deriving DecidableEq

structure ActivationRequestStore where
  requests : Std.ExtTreeMap ActivationRequestId ActivationRequest
  keyed : ∀ (id : ActivationRequestId) (request : ActivationRequest), requests[id]? = some request → request.id = id

namespace ActivationRequestStore

def empty : ActivationRequestStore := ⟨∅, by simp⟩

def get (store : ActivationRequestStore) (id : ActivationRequestId) : Option ActivationRequest := store.requests[id]?

def insert (store : ActivationRequestStore) (request : ActivationRequest) : ActivationRequestStore where
  requests := store.requests.insert request.id request
  keyed id other found := by
    rw [Std.ExtTreeMap.getElem?_insert] at found
    split at found
    · next same =>
      cases found
      exact Std.LawfulEqCmp.eq_of_compare same
    · exact store.keyed id other found

def values (store : ActivationRequestStore) : List ActivationRequest := store.requests.toList.map Prod.snd

@[simp] theorem get_empty (id : ActivationRequestId) : empty.get id = none := by
  simp [get, empty]

theorem get_insert (store : ActivationRequestStore) (request : ActivationRequest) (id : ActivationRequestId) :
    (store.insert request).get id = if request.id = id then some request else store.get id := by
  simp only [get, insert, Std.ExtTreeMap.getElem?_insert, Std.compare_eq_iff_eq]

variable {store : ActivationRequestStore} {request : ActivationRequest}

/-- What is found after a request has been stored is that request, or was there before. -/
theorem found_insert {stored : ActivationRequest} {id : ActivationRequestId}
    (found : (store.insert stored).get id = some request) : request = stored ∨ store.get id = some request := by
  rw [get_insert] at found
  split at found
  · exact .inl (Option.some.inj found).symm
  · exact .inr found

theorem id_of_get {id : ActivationRequestId} (found : store.get id = some request) : request.id = id :=
  store.keyed id request found

theorem mem_values (store : ActivationRequestStore) (request : ActivationRequest) :
    request ∈ store.values ↔ store.get request.id = some request := by
  simp only [values, List.mem_map, Prod.exists, exists_eq_right, Std.ExtTreeMap.mem_toList_iff_getElem?_eq_some]
  constructor
  · rintro ⟨id, found⟩
    rwa [store.keyed id request found]
  · exact fun found => ⟨request.id, found⟩

theorem insert_same (found : store.get request.id = some request) : store.insert request = store := by
  have same : store.requests.insert request.id request = store.requests := by
    refine Std.ExtTreeMap.ext_getElem? fun id => ?_
    rw [Std.ExtTreeMap.getElem?_insert]
    split
    · next here =>
      rw [← Std.LawfulEqCmp.eq_of_compare here]
      exact found.symm
    · rfl
  cases store
  simp only [insert, mk.injEq]
  exact same

end ActivationRequestStore

/-- What an answer and the store after it look like. -/
abbrev Answered (ε α : Type) := Except ε α × ActivationRequestStore

namespace ActivationRequestStore
variable (store : ActivationRequestStore)

/-- Change a stored request in place, then validate it; whatever happens, the change stays. -/
def changeInPlace {ε α : Type} (requestId : ActivationRequestId) (ofStore : ActivationStoreError → ε)
    (change : ActivationRequest → Except ε α × ActivationRequest) : Answered ε (α × ActivationRequest) :=
  match store.get requestId with
  | none => (.error (ofStore .notFound), store)
  | some request =>
    match change request with
    | (.error error, left) => (.error error, store.insert left)
    | (.ok decision, changed) =>
      match changed.validate with
      | .error message => (.error (ofStore (.invalidRequest message)), store.insert changed)
      | .ok () => (.ok (decision, changed), store.insert changed)

/-- Change a copy, and store it if it changed and is valid. -/
def changeCopy (requestId : ActivationRequestId) (change : ActivationRequest → Bool × ActivationRequest) :
    Answered ActivationStoreError Bool :=
  match store.get requestId with
  | none => (.ok false, store)
  | some request =>
    match change request with
    | (false, _) => (.ok false, store)
    | (true, candidate) =>
      match candidate.validate with
      | .error message => (.error (.invalidRequest message), store)
      | .ok () => (.ok true, store.insert candidate)

/-- The errors of a decision become errors of the operation. -/
def convert {ε ε' α : Type} (ofDecision : ε → ε') (decided : Except ε α × ActivationRequest) :
    Except ε' α × ActivationRequest :=
  (decided.1.mapError ofDecision, decided.2)

/-- The operation answers with the request it left in the store. -/
def answerRequest {ε α : Type} (answered : Answered ε (α × ActivationRequest)) : Answered ε ActivationRequest :=
  (answered.1.map Prod.snd, answered.2)

/-- Store a new request under an id that is free. -/
def addNew (id : ActivationRequestId) (made : Except String ActivationRequest) :
    Answered ActivationStoreError ActivationRequest :=
  if (store.get id).isSome then (.error .duplicateRequest, store)
  else
    match made with
    | .error message => (.error (.invalidRequest message), store)
    | .ok request => (.ok request, store.insert request)

def create (input : CreateActivationRequest) (now : DateTime) : Answered ActivationStoreError ActivationRequest :=
  store.addNew input.id (ActivationRequest.create input now)

def createProduct (input : CreateProductActivationRequest) (now : DateTime) :
    Answered ActivationStoreError ActivationRequest :=
  store.addNew input.id (ActivationRequest.createProduct input now)

def linkProduct (requestId : ActivationRequestId) (link : LinkProductActivation) (now : DateTime) :
    Answered LinkProductError ActivationRequest :=
  answerRequest (store.changeInPlace requestId .store fun request =>
    convert .ofDecision (request.linkProductAt link.promotionId link.promotionRequestDigest
      link.approvalContextDigest now))

def fetch (requestId : ActivationRequestId) (now : DateTime) :
    Answered ActivationStoreError (Option ActivationRequest) :=
  match store.get requestId with
  | none => (.ok none, store)
  | some request =>
    let seen := (request.expireIfDue now).2
    match seen.validate with
    | .error message => (.error (.invalidRequest message), store.insert seen)
    | .ok () => (.ok (some seen), store.insert seen)

def approve (requestId : ActivationRequestId) (approver : UserId) (now : DateTime) :
    Answered ApproveError ActivationRequest :=
  answerRequest (store.changeInPlace requestId .store fun request =>
    convert .ofDecision (request.approveAt approver now))

def approveBound (requestId : ActivationRequestId) (approver : UserId) (approvalPayloadDigest : ActivationDigest)
    (now : DateTime) : Answered ApproveError ActivationRequest :=
  answerRequest (store.changeInPlace requestId .store fun request =>
    convert .ofDecision (request.approveBoundAt approver approvalPayloadDigest now))

def reject (requestId : ActivationRequestId) (rejectedBy : UserId) (reason : String) (now : DateTime) :
    Answered RejectError ActivationRequest :=
  answerRequest (store.changeInPlace requestId .store fun request =>
    convert .ofDecision (request.rejectAt rejectedBy reason now))

def withdraw (requestId : ActivationRequestId) (withdrawnBy : UserId) (reason : String) (now : DateTime) :
    Answered WithdrawError ActivationRequest :=
  match store.get requestId with
  | none => (.error (.store .notFound), store)
  | some request =>
    match request.withdrawAt withdrawnBy reason now with
    | (.error error, _) => (.error (.ofDecision error), store)
    | (.ok (), candidate) =>
      match candidate.validate with
      | .error message => (.error (.store (.invalidRequest message)), store)
      | .ok () => (.ok candidate, store.insert candidate)

/-- Another request that is applying in the slot of the candidate. -/
def blocking (candidate : ActivationRequest) : Option ActivationRequest :=
  store.values.find? fun request =>
    request.id ≠ candidate.id ∧ request.state = .applying ∧ request.target.guildId = candidate.target.guildId ∧
      request.target.rulesetKey = candidate.target.rulesetKey

def claimApply (requestId : ActivationRequestId) (attemptId : ApplyAttemptId) (now leaseUntil : DateTime) :
    Answered ActivationStoreError ClaimOutcome :=
  match store.get requestId with
  | none => (.error .notFound, store)
  | some request =>
    match request.claimApplyAt attemptId now leaseUntil with
    | (.error error, _) => (.error (.invalidRequest error.message), store)
    | (.ok decision, candidate) =>
      match if decision = .claimed then store.blocking candidate else none with
      | some blocking =>
        let heldUntil := blocking.applyLeaseUntil.getD now
        (.ok (.inProgress blocking.id heldUntil (heldUntil ≤ now)), store)
      | none =>
        match candidate.validate with
        | .error message => (.error (.invalidRequest message), store)
        | .ok () => (.ok (.fromDecision decision candidate), store.insert candidate)

def claimResume (requestId : ActivationRequestId) (attemptId : ApplyAttemptId) (now leaseUntil : DateTime) :
    Answered ActivationStoreError ClaimOutcome :=
  let answered := store.changeInPlace requestId id fun request =>
    convert (fun error => .invalidRequest error.message) (request.claimResumeAt attemptId now leaseUntil)
  (answered.1.map fun (decision, request) => .fromDecision decision request, answered.2)

def renewLease (requestId : ActivationRequestId) (attemptId : ApplyAttemptId) (leaseUntil : DateTime) :
    Answered ActivationStoreError Bool :=
  store.changeCopy requestId fun request => request.renewLeaseAt attemptId leaseUntil

def completeApplied (requestId : ActivationRequestId) (attemptId : ApplyAttemptId) (appliedBy : UserId)
    (kind : CompletionKind) (notices : Option (List String)) (now : DateTime) : Answered ActivationStoreError Bool :=
  store.changeCopy requestId fun request =>
    request.completeAt attemptId { appliedAt := now, appliedBy, kind, notices }

def releaseToApproved (requestId : ActivationRequestId) (attemptId : ApplyAttemptId) (error : ApplyErrorRecord) :
    Answered ActivationStoreError Bool :=
  store.changeCopy requestId fun request => request.releaseAt attemptId error

def supersedeApplying (requestId : ActivationRequestId) (attemptId : ApplyAttemptId)
    (reason : SupersessionReasonV1) (now : DateTime) : Answered ActivationStoreError Bool :=
  store.changeCopy requestId fun request => request.supersedeAt attemptId reason now

def markExpired (requestId : ActivationRequestId) (now : DateTime) : Answered ActivationStoreError Bool :=
  store.changeCopy requestId fun request => request.expireIfDue now

def listApplying (guildId : GuildId) : Except ActivationStoreError (List ActivationRequest) := do
  let applying := store.values.filter fun request => request.target.guildId = guildId ∧ request.state = .applying
  applying.forM fun request => request.validate.mapError .invalidRequest
  return applying

def bookkeepApplied (requestId : ActivationRequestId) (appliedBy : UserId) (now : DateTime) :
    Answered ActivationStoreError Bool :=
  store.changeCopy requestId fun request =>
    request.bookkeepAt { appliedAt := now, appliedBy, kind := .crashRecovered, notices := none }

end ActivationRequestStore

/-- `lease_until` adds the lease to the time it reads. `Duration::seconds` panics out of its range. -/
inductive LeaseUntil where
  | time (at_ : DateTime)
  | overflow
  | panics
  deriving DecidableEq

def leaseUntil (now : DateTime) (seconds : Int) : LeaseUntil :=
  match Duration.trySeconds seconds with
  | none => .panics
  | some duration =>
    match now.checkedAddSigned duration with
    | none => .overflow
    | some at_ => .time at_

/-- The calls of a store with their arguments and the times they read from the clock. A claim reads
the clock once for itself and once for the end of its lease. -/
inductive Call where
  | create (now : DateTime) (input : CreateActivationRequest)
  | createProduct (now : DateTime) (input : CreateProductActivationRequest)
  | linkProduct (now : DateTime) (requestId : ActivationRequestId) (link : LinkProductActivation)
  | get (now : DateTime) (requestId : ActivationRequestId)
  | approve (now : DateTime) (requestId : ActivationRequestId) (approver : UserId)
  | approveBound (now : DateTime) (requestId : ActivationRequestId) (approver : UserId)
      (approvalPayloadDigest : ActivationDigest)
  | reject (now : DateTime) (requestId : ActivationRequestId) (rejectedBy : UserId) (reason : String)
  | withdraw (now : DateTime) (requestId : ActivationRequestId) (withdrawnBy : UserId) (reason : String)
  | claimApply (now leaseNow : DateTime) (requestId : ActivationRequestId) (attemptId : ApplyAttemptId)
      (leaseSeconds : Int)
  | claimResume (now leaseNow : DateTime) (requestId : ActivationRequestId) (attemptId : ApplyAttemptId)
      (leaseSeconds : Int)
  | renewLease (leaseNow : DateTime) (requestId : ActivationRequestId) (attemptId : ApplyAttemptId)
      (leaseSeconds : Int)
  | completeApplied (now : DateTime) (requestId : ActivationRequestId) (attemptId : ApplyAttemptId)
      (appliedBy : UserId) (kind : CompletionKind) (notices : Option (List String))
  | releaseToApproved (requestId : ActivationRequestId) (attemptId : ApplyAttemptId) (error : ApplyErrorRecord)
  | supersedeApplying (now : DateTime) (requestId : ActivationRequestId) (attemptId : ApplyAttemptId)
      (reason : SupersessionReasonV1)
  | markExpired (now : DateTime) (requestId : ActivationRequestId)
  | listApplying (guildId : GuildId)
  | bookkeepApplied (now : DateTime) (requestId : ActivationRequestId) (appliedBy : UserId)

inductive Answer where
  | created (result : Except ActivationStoreError ActivationRequest)
  | linked (result : Except LinkProductError ActivationRequest)
  | found (result : Except ActivationStoreError (Option ActivationRequest))
  | approved (result : Except ApproveError ActivationRequest)
  | rejected (result : Except RejectError ActivationRequest)
  | withdrawn (result : Except WithdrawError ActivationRequest)
  | claim (result : Except ActivationStoreError ClaimOutcome)
  | changed (result : Except ActivationStoreError Bool)
  | listed (result : Except ActivationStoreError (List ActivationRequest))
  | panicked
  deriving DecidableEq

/-- The operation returned an error. A panic returns nothing. -/
def Answer.isError : Answer → Bool
  | created result => !accepts result
  | linked result => !accepts result
  | found result => !accepts result
  | approved result => !accepts result
  | rejected result => !accepts result
  | withdrawn result => !accepts result
  | claim result => !accepts result
  | changed result => !accepts result
  | listed result => !accepts result
  | panicked => false

namespace Call

/-- A lease is computed before the store is looked at. -/
def withLease (leaseNow : DateTime) (leaseSeconds : Int) (store : ActivationRequestStore)
    (answer : ActivationStoreError → Answer) (go : DateTime → Answer × ActivationRequestStore) :
    Answer × ActivationRequestStore :=
  match leaseUntil leaseNow leaseSeconds with
  | .panics => (.panicked, store)
  | .overflow => (answer (.invalidRequest "lease overflow"), store)
  | .time at_ => go at_

def exec (call : Call) (store : ActivationRequestStore) : Answer × ActivationRequestStore :=
  match call with
  | create now input => (store.create input now).map .created id
  | createProduct now input => (store.createProduct input now).map .created id
  | linkProduct now requestId link => (store.linkProduct requestId link now).map .linked id
  | get now requestId => (store.fetch requestId now).map .found id
  | approve now requestId approver => (store.approve requestId approver now).map .approved id
  | approveBound now requestId approver approvalPayloadDigest =>
    (store.approveBound requestId approver approvalPayloadDigest now).map .approved id
  | reject now requestId rejectedBy reason => (store.reject requestId rejectedBy reason now).map .rejected id
  | withdraw now requestId withdrawnBy reason => (store.withdraw requestId withdrawnBy reason now).map .withdrawn id
  | claimApply now leaseNow requestId attemptId leaseSeconds =>
    withLease leaseNow leaseSeconds store (fun error => .claim (.error error)) fun leaseUntil =>
      (store.claimApply requestId attemptId now leaseUntil).map .claim id
  | claimResume now leaseNow requestId attemptId leaseSeconds =>
    withLease leaseNow leaseSeconds store (fun error => .claim (.error error)) fun leaseUntil =>
      (store.claimResume requestId attemptId now leaseUntil).map .claim id
  | renewLease leaseNow requestId attemptId leaseSeconds =>
    withLease leaseNow leaseSeconds store (fun error => .changed (.error error)) fun leaseUntil =>
      (store.renewLease requestId attemptId leaseUntil).map .changed id
  | completeApplied now requestId attemptId appliedBy kind notices =>
    (store.completeApplied requestId attemptId appliedBy kind notices now).map .changed id
  | releaseToApproved requestId attemptId error => (store.releaseToApproved requestId attemptId error).map .changed id
  | supersedeApplying now requestId attemptId reason =>
    (store.supersedeApplying requestId attemptId reason now).map .changed id
  | markExpired now requestId => (store.markExpired requestId now).map .changed id
  | listApplying guildId => (.listed (store.listApplying guildId), store)
  | bookkeepApplied now requestId appliedBy => (store.bookkeepApplied requestId appliedBy now).map .changed id

/-- The clock readings of a call, in the order they are made. -/
def readings : Call → List DateTime
  | create now _ | createProduct now _ | linkProduct now _ _ | get now _ | approve now _ _
  | approveBound now _ _ _ | reject now _ _ _ | withdraw now _ _ _ | completeApplied now _ _ _ _ _
  | supersedeApplying now _ _ _ | markExpired now _ | bookkeepApplied now _ _ => [now]
  | claimApply now leaseNow _ _ _ | claimResume now leaseNow _ _ _ => [now, leaseNow]
  | renewLease leaseNow _ _ _ => [leaseNow]
  | releaseToApproved _ _ _ | listApplying _ => []

def claim : Call → Option (ActivationRequestId × ApplyAttemptId)
  | claimApply _ _ requestId attemptId _ | claimResume _ _ requestId attemptId _ => some (requestId, attemptId)
  | _ => none

end Call

end Starring.Activation
