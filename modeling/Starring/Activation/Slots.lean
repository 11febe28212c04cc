import Starring.Activation.Quorum

/-! One applier per slot, under any clock. A slot is a rule set of a guild; the request
that is being applied in it is held by the last attempt that claimed it, and an attempt
that was displaced changes nothing any more. -/

namespace Starring.Activation
open Foundation ActivationRequest ActivationRequestStore List ActivationRequest

/-- The request and the attempt of a claim that succeeded. -/
def StoreEvent.claimed (event : StoreEvent) : Option (ActivationRequestId × ApplyAttemptId) :=
  if event.answer.claims then event.call.claim else none

def claimsOf (past : List StoreEvent) : List (ActivationRequestId × ApplyAttemptId) :=
  past.filterMap StoreEvent.claimed

/-- The attempt of the last successful claim on a request. -/
def lastClaim (past : List StoreEvent) (requestId : ActivationRequestId) : Option ApplyAttemptId :=
  (((claimsOf past).filter fun claim => claim.1 = requestId).getLast?).map Prod.snd

variable {past : List StoreEvent}

theorem lastClaim_unclaimed {event : StoreEvent} (requestId : ActivationRequestId) (unclaimed : event.claimed = none) :
    lastClaim (past ++ [event]) requestId = lastClaim past requestId := by
  simp [lastClaim, claimsOf, unclaimed]

variable {attempt : ApplyAttemptId}

theorem lastClaim_claimed {event : StoreEvent} {claimedId : ActivationRequestId} (requestId : ActivationRequestId)
    (claimed : event.claimed = some (claimedId, attempt)) : lastClaim (past ++ [event]) requestId =
      if claimedId = requestId then some attempt else lastClaim past requestId := by
  by_cases here : claimedId = requestId <;> simp [lastClaim, claimsOf, claimed, here]

variable {requestId : ActivationRequestId}

theorem mem_of_lastClaim (last : lastClaim past requestId = some attempt) : (requestId, attempt) ∈ claimsOf past := by
  obtain ⟨⟨id, held⟩, isLast, rfl⟩ := Option.map_eq_some_iff.mp last
  have mem := mem_of_getLast? isLast
  obtain ⟨mem, same⟩ := mem_filter.mp mem
  have here : id = requestId := by simpa using same
  exact here ▸ mem

variable {earlier : List StoreEvent}

/-- Once a request has been claimed again, its last claim is not from before. -/
theorem lastClaim_after {later : List StoreEvent} {other : ApplyAttemptId}
    (claimed : (requestId, other) ∈ claimsOf later) (last : lastClaim (earlier ++ later) requestId = some attempt) :
    (requestId, attempt) ∈ claimsOf later := by
  have nonempty : ((claimsOf later).filter fun claim => claim.1 = requestId) ≠ [] :=
    ne_nil_of_mem (mem_filter.mpr ⟨claimed, by simp⟩)
  have same : lastClaim (earlier ++ later) requestId = lastClaim later requestId := by
    have appended : claimsOf (earlier ++ later) = claimsOf earlier ++ claimsOf later := filterMap_append
    rw [lastClaim, appended, filter_append, getLast?_append_of_ne_nil _ nonempty]
    rfl
  exact mem_of_lastClaim (same ▸ last)

/-- The requests that are being applied are valid, each is held by its last claim, and no two
of them are in one slot. -/
structure Held (past : List StoreEvent) (store : ActivationRequestStore) : Prop where
  valid : ∀ id request, store.get id = some request → request.state = .applying → request.Valid
  holder : ∀ id request, store.get id = some request → request.state = .applying →
    request.applyAttemptId = lastClaim past id
  exclusive : ∀ first second : ActivationRequest, store.get first.id = some first →
    store.get second.id = some second → first.state = .applying → second.state = .applying →
    first.target.guildId = second.target.guildId → first.target.rulesetKey = second.target.rulesetKey →
    first = second

theorem Change.applying {self changed : ActivationRequest} {call : Call} (change : Change self call changed)
    (applying : changed.state = .applying) :
    (∃ attempt, call.claim = some (self.id, attempt) ∧ changed.applyAttemptId = some attempt) ∧
        (self.state = .approved ∨ self.state = .applying) ∨
      call.claim = none ∧ self.state = .applying ∧ changed.applyAttemptId = self.applyAttemptId := by
  cases change with
  | approved _ _ _ _ pending | approvedBound _ _ _ _ _ _ _ _ _ pending =>
    rw [approvedWith_eq] at applying
    simp only [pending] at applying
    split at applying <;> cases applying
  | claimed now leaseNow attempt leaseSeconds leaseUntil begun active approved begins =>
    rw [beginAttempt_eq begins]
    exact .inl ⟨⟨attempt, rfl, rfl⟩, .inl approved⟩
  | resumed now leaseNow attempt leaseSeconds leaseUntil begun active was lapsed begins =>
    rw [beginAttempt_eq begins]
    exact .inl ⟨⟨attempt, rfl, rfl⟩, .inr was⟩
  | renewed leaseNow attempt leaseSeconds leaseUntil current => exact .inr ⟨rfl, applying, rfl⟩
  | linked _ _ _ _ _ _ _ pending => simp [pending] at applying
  | _ => cases applying

variable {store : ActivationRequestStore}

theorem blocking_eq_none {candidate : ActivationRequest} (unblocked : store.blocking candidate = none)
    (other : ActivationRequest) (found : store.get other.id = some other) (applying : other.state = .applying)
    (guild : other.target.guildId = candidate.target.guildId)
    (key : other.target.rulesetKey = candidate.target.rulesetKey) : other.id = candidate.id := by
  have clear := find?_eq_none.mp unblocked other ((store.mem_values other).mpr found)
  simpa [applying, guild, key] using clear

section
variable {past : List StoreEvent} {store : ActivationRequestStore} {event : StoreEvent}

theorem Held.insert_idle {written : ActivationRequest} (held : Held past store)
    (unclaimed : event.claimed = none) (idle : written.state ≠ .applying) :
    Held (past ++ [event]) (store.insert written) where
  valid id request found applying := by
    obtain rfl | old := found_insert found
    · exact absurd applying idle
    · exact held.valid id request old applying
  holder id request found applying := by
    rw [lastClaim_unclaimed id unclaimed]
    obtain rfl | old := found_insert found
    · exact absurd applying idle
    · exact held.holder id request old applying
  exclusive first second foundFirst foundSecond applyingFirst applyingSecond guild key := by
    obtain rfl | oldFirst := found_insert foundFirst
    · exact absurd applyingFirst idle
    · obtain rfl | oldSecond := found_insert foundSecond
      · exact absurd applyingSecond idle
      · exact held.exclusive first second oldFirst oldSecond applyingFirst applyingSecond guild key

/-- A request that is being applied may be written back once it is valid, held by the last claim,
and alone in its slot. -/
theorem Held.insert_applying {self changed : ActivationRequest} (held : Held past store) (id : changed.id = self.id)
    (valid : changed.Valid) (holder : changed.applyAttemptId = lastClaim (past ++ [event]) self.id)
    (others : ∀ other, other ≠ self.id → lastClaim (past ++ [event]) other = lastClaim past other)
    (alone : ∀ other : ActivationRequest, store.get other.id = some other → other.state = .applying →
      other.target.guildId = changed.target.guildId → other.target.rulesetKey = changed.target.rulesetKey →
      other.id = self.id) :
    Held (past ++ [event]) (store.insert changed) := by
  -- Below the id of the request is the change, everywhere else what was there before.
  have elsewhere : ∀ other request, (store.insert changed).get other = some request →
      request = changed ∧ other = self.id ∨ other ≠ self.id ∧ store.get other = some request := by
    intro other request stored
    rw [get_insert, id] at stored
    by_cases here : self.id = other
    · rw [if_pos here] at stored
      exact .inl ⟨(Option.some.inj stored).symm, here.symm⟩
    · rw [if_neg here] at stored
      exact .inr ⟨Ne.symm here, stored⟩
  refine ⟨?_, ?_, ?_⟩
  · intro other request stored applying
    obtain ⟨rfl, -⟩ | ⟨-, old⟩ := elsewhere other request stored
    · exact valid
    · exact held.valid other request old applying
  · intro other request stored applying
    obtain ⟨rfl, rfl⟩ | ⟨away, old⟩ := elsewhere other request stored
    · exact holder
    · rw [others other away]
      exact held.holder other request old applying
  · intro first second storedFirst storedSecond applyingFirst applyingSecond guild key
    obtain ⟨rfl, -⟩ | ⟨awayFirst, oldFirst⟩ := elsewhere _ first storedFirst
    · obtain ⟨rfl, -⟩ | ⟨awaySecond, oldSecond⟩ := elsewhere _ second storedSecond
      · rfl
      · exact absurd (alone second oldSecond applyingSecond guild.symm key.symm) awaySecond
    · obtain ⟨rfl, -⟩ | ⟨awaySecond, oldSecond⟩ := elsewhere _ second storedSecond
      · exact absurd (alone first oldFirst applyingFirst guild key) awayFirst
      · exact held.exclusive first second oldFirst oldSecond applyingFirst applyingSecond guild key

theorem Held.later (held : Held past store) (unclaimed : event.claimed = none) : Held (past ++ [event]) store :=
  { held with
    holder := fun id request found applying => by
      rw [lastClaim_unclaimed id unclaimed]
      exact held.holder id request found applying }

end

section
variable {self changed : ActivationRequest} {call : Call}

theorem Change.claim_eq_none (change : Change self call changed) (idle : changed.state ≠ .applying) :
    call.claim = none := by
  cases change with
  | claimed _ _ _ _ _ _ _ _ begins | resumed _ _ _ _ _ _ _ _ _ begins =>
    rw [beginAttempt_eq begins] at idle
    exact absurd rfl idle
  | _ => rfl

/-- In place, a request that is being applied is only taken over, and stays valid. -/
theorem Change.valid_of_applying (change : Change self call changed) (inPlace : call.changesInPlace = true)
    (applying : self.state = .applying) (h : self.Valid) : changed.Valid := by
  cases change with
  | resumed now leaseNow attempt leaseSeconds leaseUntil begun active was lapsed begins =>
    exact h.resumed_valid active was begins
  | linked _ _ _ _ _ _ _ pending | approved _ _ _ _ pending | approvedBound _ _ _ _ _ _ _ _ _ pending
  | rejected _ _ _ _ _ pending =>
    rw [applying] at pending
    cases pending
  | _ => simp [Call.changesInPlace] at inPlace

end

theorem held_step (past : List StoreEvent) (store : ActivationRequestStore) (call : Call)
    (held : Held past store) : Held (past ++ [event Call.exec store call]) (call.exec store).2 := by
  have outcome := call.exec_outcome store
  have claimed : StoreEvent.claimed (event Call.exec store call) =
      if (call.exec store).1.claims then call.claim else none := rfl
  generalize call.exec store = ended at outcome claimed ⊢
  generalize event Call.exec store call = entry at claimed ⊢
  cases outcome with
  | idle answer unclaimed => exact held.later (by simp [claimed, unclaimed])
  | created answer request unclaimed _ _ fresh =>
    exact held.insert_idle (by simp [claimed, unclaimed]) (by simp [fresh.pending])
  | lapsed answer self now unclaimed =>
    exact held.insert_idle (by simp [claimed, unclaimed]) (by simp [expired])
  | spoiled answer self changed _ unclaimed inPlace found change invalid =>
    refine held.insert_idle (by simp [claimed, unclaimed]) fun applying => invalid ?_
    have was : self.state = .applying := by
      obtain ⟨-, approved | was⟩ | ⟨-, was, -⟩ := change.applying applying
      · exact absurd applying (change.ne_applying inPlace approved)
      · exact was
      · exact was
    exact changed.validate_eq_ok.mpr (change.valid_of_applying inPlace was (held.valid _ self found was))
  | moved answer self changed _ claims found change valid unblocked =>
    have changedValid := changed.validate_eq_ok.mp valid
    obtain ⟨id, target, -⟩ := change.frame
    by_cases applying : changed.state = .applying
    · have alone : ∀ other : ActivationRequest, store.get other.id = some other → other.state = .applying →
          other.target.guildId = changed.target.guildId →
          other.target.rulesetKey = changed.target.rulesetKey → other.id = self.id := by
        intro other stored otherApplying guild key
        by_cases approved : self.state = .approved
        · rw [← id]
          exact blocking_eq_none (unblocked approved applying) other stored otherApplying guild key
        · have was : self.state = .applying := by
            obtain ⟨-, now | was⟩ | ⟨-, was, -⟩ := change.applying applying
            · exact absurd now approved
            · exact was
            · exact was
          rw [target] at guild key
          rw [held.exclusive other self stored found otherApplying was guild key]
      obtain ⟨⟨attempt, isClaim, recorded⟩, -⟩ | ⟨noClaim, was, kept⟩ := change.applying applying
      · have claimedHere : StoreEvent.claimed entry = some (self.id, attempt) := by
          simp [claimed, claims, isClaim]
        refine held.insert_applying id changedValid ?_ ?_ alone
        · rw [lastClaim_claimed self.id claimedHere, if_pos rfl, recorded]
        · intro other away
          rw [lastClaim_claimed other claimedHere, if_neg away.symm]
      · have unclaimed : StoreEvent.claimed entry = none := by simp [claimed, noClaim]
        refine held.insert_applying id changedValid ?_ (fun other _ => lastClaim_unclaimed other unclaimed) alone
        rw [lastClaim_unclaimed self.id unclaimed, kept]
        exact held.holder self.id self found was
    · exact held.insert_idle (by simp [claimed, change.claim_eq_none applying]) applying

theorem run_held (calls : List Call) :
    Held (history Call.exec .empty calls) (final Call.exec .empty calls) :=
  history_invariant Call.exec Held .empty calls
    ⟨fun _ _ found => by simp at found, fun _ _ found => by simp at found, fun _ _ found => by simp at found⟩
    fun past store call held => held_step past store call held

/-- The calls by which an attempt goes on with a request or ends it. -/
def Call.finishing : Call → Option (ActivationRequestId × ApplyAttemptId)
  | renewLease _ requestId attemptId _ | completeApplied _ requestId attemptId _ _ _
  | releaseToApproved requestId attemptId _ | supersedeApplying _ requestId attemptId _ =>
    some (requestId, attemptId)
  | _ => none

/-- The answer to an attempt that does not hold the request. A renewal computes the end of its
lease before it looks for the request. -/
def Call.displacedAnswer : Call → Answer
  | renewLease leaseNow _ _ leaseSeconds =>
    match leaseUntil leaseNow leaseSeconds with
    | .time _ => .changed (.ok false)
    | .overflow => .changed (.error (.invalidRequest "lease overflow"))
    | .panics => .panicked
  | _ => .changed (.ok false)

theorem changeCopy_refused {change : ActivationRequest → Bool × ActivationRequest}
    (refuses : ∀ request, store.get requestId = some request → (change request).1 = false) :
    store.changeCopy requestId change = (.ok false, store) := by
  unfold ActivationRequestStore.changeCopy
  cases found : store.get requestId with
  | none => rfl
  | some request =>
    have refused := refuses request found
    dsimp only
    generalize change request = result at refused
    obtain ⟨answer, left⟩ := result
    subst refused
    rfl

theorem exec_displaced (call : Call) (store : ActivationRequestStore) (requestId : ActivationRequestId)
    (attemptId : ApplyAttemptId) (finishing : call.finishing = some (requestId, attemptId))
    (displaced : ∀ request, store.get requestId = some request → request.isAppliedBy attemptId = false) :
    call.exec store = (call.displacedAnswer, store) := by
  cases call with
  | renewLease leaseNow id attempt leaseSeconds =>
    cases finishing
    have refused : ∀ until_, store.renewLease requestId attemptId until_ = (.ok false, store) := fun until_ =>
      changeCopy_refused fun request found => by simp [renewLeaseAt, displaced request found]
    simp only [Call.exec, Call.withLease, Call.displacedAnswer]
    cases leaseUntil leaseNow leaseSeconds with
    | time until_ =>
      dsimp only
      rw [refused until_]
      rfl
    | overflow => rfl
    | panics => rfl
  | completeApplied now id attempt appliedBy kind notices =>
    cases finishing
    have refused : store.completeApplied requestId attemptId appliedBy kind notices now = (.ok false, store) :=
      changeCopy_refused fun request found => by simp [completeAt, displaced request found]
    simp only [Call.exec, refused]
    rfl
  | releaseToApproved id attempt error =>
    cases finishing
    have refused : store.releaseToApproved requestId attemptId error = (.ok false, store) :=
      changeCopy_refused fun request found => by simp [releaseAt, displaced request found]
    simp only [Call.exec, refused]
    rfl
  | supersedeApplying now id attempt reason =>
    cases finishing
    have refused : store.supersedeApplying requestId attemptId reason now = (.ok false, store) :=
      changeCopy_refused fun request found => by simp [supersedeAt, displaced request found]
    simp only [Call.exec, refused]
    rfl
  | _ => cases finishing

theorem resume_claims {now leaseNow : DateTime} {attemptId : ApplyAttemptId} {leaseSeconds : Int}
    (claims : ((Call.claimResume now leaseNow requestId attemptId leaseSeconds).exec store).1.claims = true) :
    ∃ self, store.get requestId = some self ∧ self.state = .applying ∧
      ∀ lease, self.applyLeaseUntil = some lease → lease ≤ now := by
  have outcome := (Call.claimResume now leaseNow requestId attemptId leaseSeconds).exec_outcome store
  generalize (Call.claimResume now leaseNow requestId attemptId leaseSeconds).exec store = ended at outcome claims
  cases outcome with
  | moved answer self changed _ _ found change =>
    cases change with
    | resumed _ _ _ _ _ _ _ applying lapsed => exact ⟨self, found, applying, lapsed⟩
  | idle answer unclaimed | created answer request unclaimed | lapsed answer self now unclaimed
  | spoiled answer self changed _ unclaimed => simp [unclaimed] at claims

theorem claimsOf_sublist (past : List StoreEvent) :
    (claimsOf past).Sublist ((past.map Event.call).filterMap Call.claim) := by
  induction past with
  | nil => exact .slnil
  | cons event past ih =>
    simp only [claimsOf, map_cons, filterMap_cons, StoreEvent.claimed]
    cases event.answer.claims with
    | false =>
      cases event.call.claim with
      | none => exact ih
      | some claim => exact ih.cons claim
    | true =>
      cases event.call.claim with
      | none => exact ih
      | some claim => exact ih.cons_cons claim

theorem claimsOf_append (first second : List StoreEvent) :
    claimsOf (first ++ second) = claimsOf first ++ claimsOf second :=
  filterMap_append

/-- One applier per slot: what holds after the calls, whatever the clock read. -/
structure OneApplier (calls : List Call) : Prop where
  exclusive : ∀ first second : ActivationRequest, (final Call.exec .empty calls).get first.id = some first →
    (final Call.exec .empty calls).get second.id = some second → first.state = .applying →
    second.state = .applying → first.target.guildId = second.target.guildId →
    first.target.rulesetKey = second.target.rulesetKey → first = second
  holder : ∀ id request, (final Call.exec .empty calls).get id = some request → request.state = .applying →
    ∃ attempt, request.applyAttemptId = some attempt ∧
      lastClaim (history Call.exec .empty calls) id = some attempt
  takeover : ∀ event ∈ history Call.exec .empty calls, ∀ now leaseNow id attempt leaseSeconds,
    event.call = .claimResume now leaseNow id attempt leaseSeconds → event.answer.claims = true →
    ∃ self lease, event.before.get id = some self ∧ self.state = .applying ∧
      self.applyLeaseUntil = some lease ∧ lease ≤ now
  displaced : ∀ earlier entry later, history Call.exec .empty calls = earlier ++ entry :: later →
    ∀ now leaseNow id attempt leaseSeconds self old,
      entry.call = .claimResume now leaseNow id attempt leaseSeconds → entry.answer.claims = true →
      entry.before.get id = some self → self.applyAttemptId = some old →
      ∀ event ∈ later, ∀ requestId, event.call.finishing = some (requestId, old) →
        event.answer = event.call.displacedAnswer ∧ event.after = event.before

theorem held_before {calls : List Call} {later : List StoreEvent} {entry : StoreEvent}
    (split : history Call.exec .empty calls = earlier ++ entry :: later) :
    Held earlier entry.before ∧ entry = event Call.exec entry.before entry.call := by
  obtain ⟨first, call, rest, -, rfl, rfl, -⟩ := history_split _ _ _ _ _ _ split
  exact ⟨run_held first, rfl⟩

theorem displaced_holds_nothing {between : List StoreEvent} {entry : StoreEvent} {id : ActivationRequestId}
    {old : ApplyAttemptId} (held : Held (earlier ++ entry :: between) store)
    (distinct : ((claimsOf (earlier ++ entry :: between)).map Prod.snd).Nodup) (was : (id, old) ∈ claimsOf earlier)
    (claimed : entry.claimed = some (id, attempt)) (requestId : ActivationRequestId) (request : ActivationRequest)
    (found : store.get requestId = some request) : request.isAppliedBy old = false := by
  by_contra holds
  simp only [isAppliedBy, Bool.not_eq_false, Bool.decide_and, Bool.and_eq_true,
    decide_eq_true_eq] at holds
  obtain ⟨applying, recorded⟩ := holds
  have last : lastClaim (earlier ++ entry :: between) requestId = some old :=
    (held.holder requestId request found applying).symm.trans recorded
  have wasClaimed : (id, old) ∈ claimsOf (earlier ++ entry :: between) := by
    rw [claimsOf_append]
    exact mem_append_left _ was
  -- Attempts claim once, so the attempt can only hold the request it was displaced from.
  have same : (requestId, old) = (id, old) :=
    inj_on_of_nodup_map distinct (mem_of_lastClaim last) wasClaimed rfl
  obtain rfl : requestId = id := congrArg Prod.fst same
  have again : (requestId, attempt) ∈ claimsOf (entry :: between) :=
    mem_filterMap.mpr ⟨entry, mem_cons_self, claimed⟩
  rw [claimsOf_append, map_append, nodup_append] at distinct
  exact distinct.2.2 old (mem_map_of_mem was) old
    (mem_map_of_mem (lastClaim_after again last)) rfl

/-- At most one request is being applied in a slot, held by its last claim; a resumption takes over
only a lease that is over, and the attempt it displaces changes nothing any more. -/
theorem one_applier (calls : List Call) (distinct : ((calls.filterMap Call.claim).map Prod.snd).Nodup) :
    OneApplier calls where
  exclusive := (run_held calls).exclusive
  holder id request found applying := by
    have held := run_held calls
    obtain ⟨attempt, recorded⟩ :=
      Option.isSome_iff_exists.mp ((held.valid id request found applying).attempt.mp applying)
    exact ⟨attempt, recorded, (held.holder id request found applying).symm.trans recorded⟩
  takeover entry mem now leaseNow id attempt leaseSeconds isResume claims := by
    obtain ⟨earlier, later, split⟩ := append_of_mem mem
    obtain ⟨held, made⟩ := held_before split
    rw [made, isResume] at claims
    obtain ⟨self, found, applying, lapsed⟩ := resume_claims claims
    obtain ⟨lease, recorded⟩ :=
      Option.isSome_iff_exists.mp ((held.valid id self found applying).lease.mp applying)
    exact ⟨self, lease, found, applying, recorded, lapsed lease recorded⟩
  displaced earlier entry later split now leaseNow id attempt leaseSeconds self old isResume claims found
      recorded event mem requestId finishing := by
    obtain ⟨between, rest, rfl⟩ := append_of_mem mem
    have reassociated : history Call.exec .empty calls = (earlier ++ entry :: between) ++ event :: rest := by
      rw [split, append_assoc, cons_append]
    obtain ⟨heldEntry, madeEntry⟩ := held_before split
    obtain ⟨heldEvent, madeEvent⟩ := held_before reassociated
    have claimed : StoreEvent.claimed entry = some (id, attempt) := by
      simp [StoreEvent.claimed, claims, isResume, Call.claim]
    rw [madeEntry, isResume] at claims
    obtain ⟨holder, stored, applying, -⟩ := resume_claims claims
    obtain rfl : self = holder := Option.some.inj (found.symm.trans stored)
    have was : (id, old) ∈ claimsOf earlier :=
      mem_of_lastClaim ((heldEntry.holder id self found applying).symm.trans recorded)
    have once : ((claimsOf (earlier ++ entry :: between)).map Prod.snd).Nodup := by
      have all : ((claimsOf (history Call.exec .empty calls)).map Prod.snd).Nodup := by
        refine List.Sublist.nodup ?_ distinct
        have sublist := claimsOf_sublist (history Call.exec .empty calls)
        rw [history_map_call] at sublist
        exact sublist.map Prod.snd
      rw [reassociated, claimsOf_append, map_append] at all
      exact (nodup_append.mp all).1
    have noop := exec_displaced event.call event.before requestId old finishing
      (displaced_holds_nothing heldEvent once was claimed requestId)
    rw [madeEvent]
    exact ⟨congrArg Prod.fst noop, congrArg Prod.snd noop⟩

theorem scenario_one_applier :
    ((Scenario.calls.filterMap Call.claim).map Prod.snd).Nodup ∧ OneApplier Scenario.calls :=
  ⟨by decide +kernel, one_applier Scenario.calls (by decide +kernel)⟩

/-- The displaced attempt renews with a lease that ends beyond the last year: it is answered with an
error, not with false. -/
theorem displaced_renewal_fails :
    let claimed := final Call.exec .empty (Scenario.approving ++ [Scenario.claiming])
    let renewal := Call.renewLease (21 * Scenario.second) Scenario.requestId Scenario.firstAttempt 9223372036854775
    (claimed.get Scenario.requestId).bind (fun request => request.applyAttemptId) = some Scenario.firstAttempt ∧
      (Scenario.resuming.exec claimed).1.claims = true ∧
      renewal.finishing = some (Scenario.requestId, Scenario.firstAttempt) ∧
      (renewal.exec (Scenario.resuming.exec claimed).2).1 =
        .changed (.error (.invalidRequest "lease overflow")) := by
  decide +kernel

end Starring.Activation
