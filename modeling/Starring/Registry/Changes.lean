import Starring.Registry.Counting

/-! What the operations on routes and interactions leave behind: each one fails with nothing done, finds that there is
nothing to do, or makes its edit in the slot it was called for. -/

namespace Starring.Registry
open Foundation Convergence Calls RegistryState Option SlotCell RouteRecord

/-- The token has the last identity and fence of the slot. -/
def SlotContent.Authorizes (self : SlotContent) (token : SlotMutationTokenV1) : Prop :=
  ∃ highWater, self.highWater = some highWater ∧ highWater.identity = token.identity ∧
    highWater.fencingToken = token.fencingToken

theorem counter_eq_of_not_lt {kind : CounterKind} {first second : Counter kind} (below : ¬first < second)
    (above : ¬second < first) : first = second := by
  have same : first.get = second.get := Nat.le_antisymm (Nat.not_lt.mp above) (Nat.not_lt.mp below)
  cases first
  cases second
  cases same
  rfl

section Checks
variable {slot : SlotCell} {token : SlotMutationTokenV1} {route : RouteRecord} {value : Unit}

theorem RouteRecord.matches_iff : route.matches token = true ↔
    route.incarnation = token.incarnation ∧ route.fencingToken = token.fencingToken ∧ route.route.identity = token.identity := by
  simp [RouteRecord.matches]

theorem ensureHighWater_eq_ok (passed : ensureHighWater (some slot) token = .ok value) : slot.content.Authorizes token := by
  unfold ensureHighWater at passed
  cases found : slot.highWater with
  | none => simp [highWaterOf, found] at passed
  | some highWater =>
    simp only [highWaterOf, bind_some, found, rejectIf_eq_ok, Decidable.not_not] at passed
    exact ⟨highWater, found, passed⟩

theorem highWaterOf_lookup (state : RegistryState) (key : ServingSlotKeyV1) :
    highWaterOf (state.slots.lookup key) = (state.slotAt key).highWater := by
  unfold RegistryState.slotAt
  cases state.slots.lookup key <;> rfl

theorem validateNewFence_eq_ok {found : Option SlotCell} {identity : RuntimeProcessIdentityV1} {fencingToken : FencingToken}
    (passed : validateNewFence found identity fencingToken = .ok value) (content : SlotContent)
    (same : highWaterOf found = content.highWater) : content.Admits identity fencingToken := by
  intro highWater here
  unfold validateNewFence at passed
  simp only [same, here, check_bind_eq_ok, rejectIf_eq_ok] at passed
  obtain ⟨notStale, passed⟩ := passed
  split at passed
  · exact .inl ‹_›
  · rename_i notLater
    simp only [check_bind_eq_ok, rejectIf_eq_ok, ne_eq, Decidable.not_not] at passed
    obtain ⟨sameIdentity, higher⟩ := passed
    exact .inr ⟨counter_eq_of_not_lt notLater notStale, sameIdentity.symm, Counter.not_le.mp higher⟩

end Checks

section Routes
variable {registry : RegistryInner} {state : RegistryState} {key : ServingSlotKeyV1}

theorem onSlot_mutation_settles {slot : SlotCell} (missing : ServingSlotRegistryError)
    (found : state.slots.lookup key = some slot) :
    (onSlot key missing advanceSlotMutation).Settles
      (fun _ last => ∃ observation admissionGeneration observationSequence, state.observation.Next observation ∧
        slot.Renumbered false observationSequence admissionGeneration ∧
        last = state.giveBack key ⟨observation, { slot with admissionGeneration, observationSequence }⟩)
      (fun _ last => state.Failed last) state := by
  refine settles_onSlot fun slot' found' => ?_
  cases found.symm.trans found'
  rw [← bind_pure advanceSlotMutation]
  refine settles_mutation fun observation admission sequence isNext numbered => ?_
  exact settles_pure ⟨observation, admission, sequence, isNext, numbered, rfl⟩

theorem advanceForInstall_settles :
    (advanceForInstall key).Settles
      (fun _ last => state.observation.Next last.observation ∧ last.nextIncarnation = state.nextIncarnation ∧
        (state.slots.lookup key = none ∧ last.slots = state.slots ∨
          ∃ slot admissionGeneration observationSequence, state.slots.lookup key = some slot ∧
            slot.Renumbered false observationSequence admissionGeneration ∧
            last.slots = state.slots.insert key { slot with admissionGeneration, observationSequence }))
      (fun _ last => state.Failed last) state := by
  cases found : state.slots.lookup key with
  | none =>
    unfold Settles advanceForInstall
    obtain ⟨error, observation, advanced, later, -⟩ | ⟨observation, advanced, isNext⟩ :=
      advanceRegistryObservation_cases state.observation
    · simp only [found, advanced]
      exact ⟨later, rfl, rfl, fun _ => .inl rfl⟩
    · simp only [found, advanced]
      exact ⟨isNext, trivial, .inl ⟨trivial, trivial⟩⟩
  | some slot =>
    have settles := onSlot_mutation_settles .staleMutationToken found
    unfold Settles advanceForInstall
    simp only [found]
    refine settles.imp fun _ last done => ?_
    obtain ⟨observation, admission, sequence, isNext, numbered, rfl⟩ := done
    exact ⟨isNext, rfl, .inr ⟨slot, admission, sequence, rfl, numbered, rfl⟩⟩

theorem install_settles {route : ExactServingRouteV1} {fencingToken : FencingToken} :
    (install registry key route fencingToken).Settles
      (fun _ last => (state.slotAt key).sealState = none ∧
        (state.Same last ∨ ∃ incarnation, state.Changed registry key (.install (stagedRecord route fencingToken incarnation)) last))
      (fun _ last => state.Failed last) state := by
  unfold install
  refine settles_check fun _ _ => ?_
  refine settles_examine fun _ _ => ?_
  refine settles_get ?_
  refine settles_check fun _ notFull => ?_
  refine settles_check fun _ isOpen => ?_
  refine settles_check fun _ isUnsealed => ?_
  have unsealed : (state.slotAt key).sealState = none := by
    cases found : state.slots.lookup key with
    | none => rw [slotAt_of_none found]; rfl
    | some slot =>
      rw [slotAt_of_some found]
      rw [found] at isUnsealed
      exact ensureSlotUnsealed_eq_ok isUnsealed
  split
  · refine settles_check fun _ _ => ?_
    exact settles_pure ⟨unsealed, .inl .rfl⟩
  · refine settles_check fun _ isNew => ?_
    refine settles_check fun incarnation next => ?_
    refine Settles.bind (advanceForInstall_settles.imp fun _ last advanced => ?_)
    refine settles_modify (settles_pure ⟨unsealed, .inr ⟨incarnation, ?_⟩⟩)
    obtain ⟨isNext, sameIncarnation, advanced⟩ := advanced
    have numbered : incarnation.get = state.nextIncarnation + 1 := by
      simp only [nextIncarnation, orReject_eq_ok] at next
      exact checkedSuccessor_eq next
    have admits := validateNewFence_eq_ok isNew (state.slotAt key).content (highWaterOf_lookup state key)
    have edited : Edited registry.config.maxActiveInteractionsPerSlot.get (state.slotAt key).content _ _ :=
      .install (stagedRecord route fencingToken incarnation) unsealed ⟨rfl, rfl⟩ admits
    have room (absent : state.slots.lookup key = none) :
        state.slots.entries.length < registry.config.maxSlots.get := by
      exact Nat.not_le.mp fun full => rejectIf_eq_ok.mp notFull ⟨absent, full⟩
    obtain ⟨absent, slots⟩ | ⟨slot, admission, sequence, found, renumbered, slots⟩ := advanced
    · refine .of_insert (by rw [slots, absent]) isNext room ?_ (fun _ found => ((some_ne_none _ (found.symm.trans absent)).elim)) ?_
        ⟨numbered, numbered⟩
      · rw [slotAt_of_none absent] at edited ⊢
        exact edited
      · rw [slotAt_of_none absent]
        rfl
    · refine .of_insert (by rw [slots, AList.lookup_insert, AList.insert_insert]) isNext room ?_ ?_ ?_
        ⟨numbered, numbered⟩
      · rw [slotAt_of_some found] at edited ⊢
        exact edited
      · intro slot' found' _
        cases found.symm.trans found'
        exact renumbered
      · rw [slotAt_of_some found]
        rfl

theorem retireCurrent_eq (slot : SlotCell) :
    slot.retireCurrent = { slot with current := none, retired := slot.content.retire } := by
  cases found : slot.current with
  | none => simp [retireCurrent, SlotContent.retire, content, found]
  | some current => simp [retireCurrent, SlotContent.retire, content, found, drained]

theorem activationRecordV2_some {slot : SlotCell} (isOpen : slot.failedClosed = false) {route : RouteRecord}
    {activationSequence : NonZeroU64} (numbered : route.activationSequence = some activationSequence)
    (outcome : SlotActivationOutcomeV1) : ∃ record, activationRecordV2 slot route outcome = .ok record := by
  simp only [activationRecordV2, numbered, atomicObservationV2_ok isOpen]
  exact ⟨_, rfl⟩

variable {token : SlotMutationTokenV1} {identity : RuntimeProcessIdentityV1}

/-- What the token names is staged and begins to serve, or it serves already. -/
theorem activateWithSequenceV2_settles : (activateWithSequenceV2 registry token identity).Settles
      (fun _ last => (state.slotAt token.key).sealState = none ∧
        (state.Same last ∨ ∃ staged activationSequence, (state.slotAt token.key).staged = some staged ∧
          staged.matches token = true ∧ state.Changed registry token.key (.activate activationSequence) last))
      (fun _ last => state.Failed last) state := by
  unfold activateWithSequenceV2
  refine settles_check fun _ _ => ?_
  refine settles_check fun _ _ => ?_
  refine settles_examine fun _ _ => ?_
  refine settles_onUnsealed fun slot found unsealed => ?_
  rw [slotAt_of_some found]
  split
  · refine settles_check fun _ _ => ?_
    exact settles_last fun _ _ => ⟨unsealed, .inl (giveBack_self found)⟩
  · refine settles_check fun _ isStaged => ?_
    refine settles_check fun _ _ => ?_
    obtain ⟨staged, here, isMatch⟩ : ∃ staged, slot.staged = some staged ∧ staged.matches token = true := by
      simpa [any_eq_true] using rejectIf_eq_ok.mp isStaged
    refine settles_activation fun observation admission sequence activation isNext numbered => ?_
    refine settles_modify (settles_borrowed ?_)
    rw [retireCurrent_eq]
    refine settles_ok (orReject_eq_ok.mpr here) ?_
    refine settles_modify (settles_borrowed ?_)
    refine settles_last_some ?_ fun _ _ => ⟨unsealed, .inr ⟨staged, activation, here, isMatch, ?_⟩⟩
    · exact activationRecordV2_some (by exact numbered.wasOpen) (by rfl) _
    · refine BorrowedSlot.Changed.giveBack ⟨isNext, ?_, fun _ => numbered, rfl⟩ found fun _ => rfl
      exact .activate staged activation unsealed here

theorem activate_settles : (activate registry token identity).Settles
      (fun _ last => (state.slotAt token.key).sealState = none ∧
        (state.Same last ∨ ∃ staged activationSequence, (state.slotAt token.key).staged = some staged ∧
          staged.matches token = true ∧ state.Changed registry token.key (.activate activationSequence) last))
      (fun _ last => state.Failed last) state :=
  Settles.bind (activateWithSequenceV2_settles.imp fun _ _ done => done)

theorem filter_eq_some {found : Option RouteRecord} {route : RouteRecord}
    (kept : found.filter (fun route => route.matches token) = some route) :
    found = some route ∧ route.matches token = true := by
  simpa [filter_eq_some_iff] using kept

/-- The route that serves is drained under the authority of the last fence. -/
theorem beginDrainWithAuthority_settles {authority target : SlotMutationTokenV1} :
    (beginDrainWithAuthority registry authority target).Settles
      (fun _ last => (state.slotAt target.key).sealState = none ∧
        (state.Same last ∨ authority.key = target.key ∧ (state.slotAt target.key).content.Authorizes authority ∧
          state.Changed registry target.key .beginDrain last))
      (fun _ last => state.Failed last) state := by
  unfold beginDrainWithAuthority
  refine settles_check fun _ _ => ?_
  refine settles_check fun _ _ => ?_
  refine settles_check fun _ isSameKey => ?_
  have sameKey : authority.key = target.key := Decidable.not_not.mp (rejectIf_eq_ok.mp isSameKey)
  refine settles_examine fun _ _ => ?_
  refine settles_onUnsealed fun slot found unsealed => ?_
  rw [slotAt_of_some found]
  have unchanged := giveBack_self found
  dsimp only
  generalize (if authority = target then _ else _) = own
  cases own with
  | some retired => exact settles_pure ⟨unsealed, .inl unchanged⟩
  | none =>
    refine settles_check fun _ isHighWater => ?_
    have authorized := ensureHighWater_eq_ok isHighWater
    split
    · rename_i current kept
      obtain ⟨here, -⟩ := filter_eq_some kept
      split
      · rename_i serving
        refine settles_mutation fun observation admission sequence isNext numbered => ?_
        refine settles_modify (settles_pure ⟨unsealed, .inr ⟨sameKey, authorized, ?_⟩⟩)
        refine BorrowedSlot.Changed.giveBack ⟨isNext, ?_, fun _ => numbered, rfl⟩ found fun _ => rfl
        exact .beginDrain current unsealed here serving
      · exact settles_pure ⟨unsealed, .inl unchanged⟩
      · exact BorrowedSlot.Failed.rfl
    · refine settles_check fun _ _ => ?_
      exact settles_pure ⟨unsealed, .inl unchanged⟩

/-- What the removal of a route does, and what it answers. -/
inductive Removal (content : SlotContent) (token : SlotMutationTokenV1) : SlotRemovalOutcomeV1 → SlotEdit → Prop where
  | staged (route : RouteRecord) (found : content.staged = some route) (isMatch : route.matches token = true) :
    Removal content token .removedStaged .removeStaged
  | current (route : RouteRecord) (found : content.current = some route) (isMatch : route.matches token = true)
    (idle : route.activeInteractions = 0) : Removal content token .removedDraining .removeCurrent
  | retired (route : RouteRecord) (found : route ∈ content.retired) (isMatch : route.matches token = true)
    (idle : route.activeInteractions = 0) : Removal content token .removedDraining (.removeRetired token.incarnation)

section Removals
variable {token : SlotMutationTokenV1} {slot : SlotCell}

/-- The removal of a route has been made in the slot. -/
def Removed (registry : RegistryInner) (state : RegistryState) (token : SlotMutationTokenV1) (edit : SlotEdit)
    (outcome : SlotRemovalOutcomeV1) (last : RegistryState) : Prop :=
  Removal (state.slotAt token.key).content token outcome edit ∧ state.Changed registry token.key edit last

theorem validateRemovable_eq_ok {route : RouteRecord} {value : Unit} (passed : validateRemovable route = .ok value) :
    route.lifecycle = .draining ∧ route.activeInteractions = 0 := by
  simpa [validateRemovable] using passed

theorem removeStaged_settles (found : state.slots.lookup token.key = some slot) (unsealed : slot.sealState = none)
    {staged : RouteRecord} (here : slot.staged = some staged) (isMatch : staged.matches token = true) :
    removeStaged.Settles
      (fun outcome borrowed => Removed registry state token .removeStaged outcome (state.giveBack token.key borrowed))
      (fun _ borrowed => (⟨state.observation, slot⟩ : BorrowedSlot).Failed borrowed) ⟨state.observation, slot⟩ := by
  refine settles_mutation fun observation admission sequence isNext numbered => ?_
  refine settles_modify (settles_pure ⟨?_, ?_⟩)
  · rw [slotAt_of_some found]
    exact .staged staged here isMatch
  · refine BorrowedSlot.Changed.giveBack ⟨isNext, ?_, fun _ => numbered, rfl⟩ found fun _ => rfl
    exact .removeStaged staged unsealed here

theorem removeCurrent_settles (found : state.slots.lookup token.key = some slot) (unsealed : slot.sealState = none)
    {current : RouteRecord} (here : slot.current = some current) (isMatch : current.matches token = true) :
    (removeCurrent current).Settles
      (fun outcome borrowed => Removed registry state token .removeCurrent outcome (state.giveBack token.key borrowed))
      (fun _ borrowed => (⟨state.observation, slot⟩ : BorrowedSlot).Failed borrowed) ⟨state.observation, slot⟩ := by
  refine settles_check fun _ removable => ?_
  obtain ⟨draining, idle⟩ := validateRemovable_eq_ok removable
  refine settles_mutation fun observation admission sequence isNext numbered => ?_
  refine settles_modify (settles_pure ⟨?_, ?_⟩)
  · rw [slotAt_of_some found]
    exact .current current here isMatch idle
  · refine BorrowedSlot.Changed.giveBack ⟨isNext, ?_, fun _ => numbered, rfl⟩ found fun _ => rfl
    exact .removeCurrent current unsealed here draining idle

theorem removeRetired_settles (found : state.slots.lookup token.key = some slot) (unsealed : slot.sealState = none) :
    (removeRetired token).Settles
      (fun outcome borrowed =>
        Removed registry state token (.removeRetired token.incarnation) outcome (state.giveBack token.key borrowed))
      (fun _ borrowed => (⟨state.observation, slot⟩ : BorrowedSlot).Failed borrowed) ⟨state.observation, slot⟩ := by
  refine settles_borrowed (settles_check fun retired isRetired => ?_)
  obtain ⟨here, isMatch⟩ := filter_eq_some (orReject_eq_ok.mp isRetired)
  refine settles_check fun _ removable => ?_
  obtain ⟨-, idle⟩ := validateRemovable_eq_ok removable
  have sameIncarnation := (matches_iff.mp isMatch).1
  refine settles_mutation fun observation admission sequence isNext numbered => ?_
  refine settles_modify (settles_pure ⟨?_, ?_⟩)
  · rw [slotAt_of_some found]
    exact .retired retired (List.mem_of_find?_eq_some here) isMatch idle
  · refine BorrowedSlot.Changed.giveBack ⟨isNext, ?_, fun _ => numbered, rfl⟩ found fun _ => rfl
    have edited : Edited registry.config.maxActiveInteractionsPerSlot.get slot.content _ _ :=
      .removeRetired retired unsealed (sameIncarnation ▸ here) idle
    rw [sameIncarnation] at edited
    exact edited

/-- A token that is not the last one removes nothing but its own retired route. -/
theorem remove_settles :
    (remove registry token).Settles
      (fun outcome last => (state.slotAt token.key).sealState = none ∧ ∃ edit, Removed registry state token edit outcome last ∧
        ((state.slotAt token.key).content.Authorizes token ∨ edit = .removeRetired token.incarnation))
      (fun _ last => state.Failed last) state := by
  unfold remove
  refine settles_check fun _ _ => ?_
  refine settles_examine fun _ _ => ?_
  refine settles_onUnsealed fun slot found unsealed => ?_
  rw [slotAt_of_some found]
  split
  · rename_i isStaged
    obtain ⟨staged, here, isMatch⟩ := (any_eq_true _ _).mp isStaged
    refine settles_check fun _ isHighWater => ?_
    exact (removeStaged_settles found unsealed here isMatch).imp
      fun _ _ removed => ⟨unsealed, _, removed, .inl (ensureHighWater_eq_ok isHighWater)⟩
  · split
    · rename_i current kept
      obtain ⟨here, isMatch⟩ := filter_eq_some kept
      refine settles_check fun _ isHighWater => ?_
      exact (removeCurrent_settles found unsealed here isMatch).imp
        fun _ _ removed => ⟨unsealed, _, removed, .inl (ensureHighWater_eq_ok isHighWater)⟩
    · exact (removeRetired_settles found unsealed).imp fun _ _ removed => ⟨unsealed, _, removed, .inr rfl⟩

theorem removeWithAuthority_settles {authority : SlotMutationTokenV1} :
    (removeWithAuthority registry authority token).Settles
      (fun outcome last => (state.slotAt token.key).sealState = none ∧ ∃ edit, Removed registry state token edit outcome last ∧
        authority.key = token.key ∧ (state.slotAt token.key).content.Authorizes authority)
      (fun _ last => state.Failed last) state := by
  unfold removeWithAuthority
  refine settles_check fun _ _ => ?_
  refine settles_check fun _ _ => ?_
  refine settles_check fun _ isSameKey => ?_
  have sameKey : authority.key = token.key := Decidable.not_not.mp (rejectIf_eq_ok.mp isSameKey)
  refine settles_examine fun _ _ => ?_
  refine settles_onUnsealed fun slot found unsealed => ?_
  rw [slotAt_of_some found]
  refine settles_check fun _ isHighWater => ?_
  have authorized := ensureHighWater_eq_ok isHighWater
  split
  · rename_i isStaged
    obtain ⟨staged, here, isMatch⟩ := (any_eq_true _ _).mp isStaged
    exact (removeStaged_settles found unsealed here isMatch).imp fun _ _ removed => ⟨unsealed, _, removed, sameKey, authorized⟩
  · split
    · rename_i current kept
      obtain ⟨here, isMatch⟩ := filter_eq_some kept
      exact (removeCurrent_settles found unsealed here isMatch).imp fun _ _ removed => ⟨unsealed, _, removed, sameKey, authorized⟩
    · exact (removeRetired_settles found unsealed).imp fun _ _ removed => ⟨unsealed, _, removed, sameKey, authorized⟩

end Removals

theorem next_of_mapError {kind : CounterKind} {counter next : Counter kind} {error : ServingSlotRegistryError}
    (passed : counter.next.mapError (fun _ => error) = .ok next) : counter.next = .ok next := by
  simpa using passed

theorem advanceAuthority_settles {nextFencingToken : FencingToken} :
    (advanceAuthority registry token identity nextFencingToken).Settles
      (fun _ last => (state.slotAt token.key).sealState = none ∧ (state.slotAt token.key).content.Authorizes token ∧
        ∃ edit, (edit = .advanceStaged nextFencingToken ∨ edit = .advanceCurrent nextFencingToken) ∧
          state.Changed registry token.key edit last)
      (fun _ last => state.Failed last) state := by
  unfold advanceAuthority
  refine settles_check fun _ _ => ?_
  refine settles_examine fun _ _ => ?_
  refine settles_onUnsealed fun slot found unsealed => ?_
  rw [slotAt_of_some found]
  refine settles_check fun _ isHighWater => ?_
  have authorized := ensureHighWater_eq_ok isHighWater
  have atHighWater (route : RouteRecord) (isMatch : route.matches token = true) : slot.content.AtHighWater route := by
    obtain ⟨highWater, here, identities, fences⟩ := authorized
    obtain ⟨-, fence, identity⟩ := matches_iff.mp isMatch
    exact ⟨highWater, here, identities.trans identity.symm, fences.trans fence.symm⟩
  refine settles_check fun _ matched => ?_
  refine settles_check fun _ _ => ?_
  refine settles_check fun expected isNext => ?_
  refine settles_check fun _ isExpected => ?_
  obtain rfl : nextFencingToken = expected := by simpa using isExpected
  have follows (route : RouteRecord) (isMatch : route.matches token = true) :
      route.fencingToken.next = .ok nextFencingToken := by
    rw [(matches_iff.mp isMatch).2.1]
    exact next_of_mapError isNext
  refine settles_mutation fun observation admission sequence goesOn numbered => ?_
  split
  · rename_i staged kept
    obtain ⟨here, isMatch⟩ := filter_eq_some kept
    refine settles_modify (settles_pure ⟨unsealed, authorized, _, .inl rfl, ?_⟩)
    refine BorrowedSlot.Changed.giveBack ⟨goesOn, ?_, fun _ => numbered, rfl⟩ found fun _ => rfl
    exact .advanceStaged staged nextFencingToken unsealed here (atHighWater staged isMatch) (follows staged isMatch)
  · rename_i notStaged
    obtain ⟨current, kept⟩ : ∃ current, slot.current.filter (fun current => current.matches token) = some current := by
      refine ne_none_iff_exists'.mp fun notCurrent => rejectIf_eq_ok.mp matched ⟨notStaged, notCurrent⟩
    obtain ⟨here, isMatch⟩ := filter_eq_some kept
    refine settles_ok (orReject_eq_ok.mpr kept) ?_
    refine settles_modify (settles_pure ⟨unsealed, authorized, _, .inr rfl, ?_⟩)
    refine BorrowedSlot.Changed.giveBack ⟨goesOn, ?_, fun _ => numbered, rfl⟩ found fun _ => rfl
    exact .advanceCurrent current nextFencingToken unsealed here (atHighWater current isMatch) (follows current isMatch)

end Routes

section Interactions
variable {registry : RegistryInner} {state : RegistryState} {key : ServingSlotKeyV1}

/-- The route that serves the slot gets one more interaction. -/
def Admitted (registry : RegistryInner) (state : RegistryState) (key : ServingSlotKeyV1)
    (parts : AdmittedInteractionPartsV2) (last : RegistryState) : Prop :=
  (state.slotAt key).sealState = none ∧ state.Changed registry key .admitInteraction last ∧
    ∃ current, (state.slotAt key).current = some current ∧ current.lifecycle = .serving ∧ parts.route = current.route ∧
      parts.guard = { registry := registry.lifetime, key, incarnation := current.incarnation }

theorem admitInternalV2_settles {expected : Option NonZeroU64} :
    (admitInternalV2 registry key expected).Settles (Admitted registry state key) (fun _ last => state.Failed last)
      state := by
  unfold admitInternalV2
  refine settles_examine fun _ _ => ?_
  refine settles_onUnsealed fun slot found unsealed => ?_
  unfold Admitted
  rw [slotAt_of_some found]
  refine settles_check fun _ _ => ?_
  refine settles_check fun current isCurrent => ?_
  have here := orReject_eq_ok.mp isCurrent
  refine settles_check fun _ isServing => ?_
  have serving : current.lifecycle = .serving := by simpa using isServing
  refine settles_check fun _ hasRoom => ?_
  have room := Nat.not_le.mp (rejectIf_eq_ok.mp hasRoom)
  refine settles_observation fun observation sequence isNext numbered => ?_
  refine settles_modify (settles_borrowed ?_)
  refine settles_ok (atomicObservationV2_ok (by exact numbered.wasOpen)) ?_
  refine settles_pure ⟨unsealed, ?_, current, here, serving, rfl, rfl⟩
  refine BorrowedSlot.Changed.giveBack ⟨isNext, ?_, fun _ => numbered, rfl⟩ found fun _ => rfl
  exact .admitInteraction current unsealed here serving room

theorem admitInteraction_settles :
    (admitInteraction registry key).Settles (Admitted registry state key) (fun _ last => state.Failed last) state :=
  admitInternalV2_settles

theorem admitAtGenerationV2_settles {generation : NonZeroU64} :
    (admitAtGenerationV2 registry key generation).Settles (Admitted registry state key) (fun _ last => state.Failed last)
      state :=
  admitInternalV2_settles

theorem advanceObservationOrClose_cases (before : BorrowedSlot) :
    (∃ after, advanceObservationOrClose before = (false, after) ∧ before.Failed after ∧
      after.observation.failedClosed = true) ∨
      ∃ observation slot, advanceObservationOrClose before = (true, ⟨observation, slot⟩) ∧
        before.observation.Next observation ∧ slot.content = before.slot.content ∧
        slot.nextSealGeneration = before.slot.nextSealGeneration ∧
        (slot.failedClosed = false →
          before.slot.Renumbered true slot.observationSequence slot.admissionGeneration) := by
  unfold advanceObservationOrClose
  split
  · exact .inl ⟨_, rfl, .rfl, ‹_›⟩
  · obtain ⟨error, observation, advanced, later, closed⟩ | ⟨observation, advanced, isNext⟩ :=
      advanceRegistryObservation_cases before.observation
    · simp only [advanced]
      exact .inl ⟨_, rfl, ⟨.inl rfl, later⟩, closed⟩
    · simp only [advanced]
      split
      · rename_i closed
        exact .inr ⟨_, _, rfl, isNext, rfl, rfl, fun isOpen => (nomatch closed.symm.trans isOpen)⟩
      · rename_i notClosed
        cases numbered : successor before.slot.observationSequence with
        | none => exact .inr ⟨_, _, rfl, isNext, rfl, rfl, nofun⟩
        | some sequence =>
          exact .inr ⟨_, _, rfl, isNext, rfl, rfl, fun _ => ⟨by simpa using notClosed, successor_eq numbered, rfl⟩⟩

/-- A guard that is dropped releases the interaction of its route, or nothing. -/
theorem ActiveInteractionGuardV1.drop_cases (guard : ActiveInteractionGuardV1) (registry : RegistryInner) (state : RegistryState) :
    state.Failed (guard.drop state) ∧
        ((guard.drop state).observation.failedClosed = true ∨
          (∀ current, (state.slotAt guard.key).current = some current → current.incarnation ≠ guard.incarnation) ∧
            ∀ route ∈ (state.slotAt guard.key).retired, route.incarnation ≠ guard.incarnation) ∨
      (∃ current, (state.slotAt guard.key).current = some current ∧ current.incarnation = guard.incarnation ∧
        state.Changed registry guard.key .releaseCurrent (guard.drop state)) ∨
      (∀ current, (state.slotAt guard.key).current = some current → current.incarnation ≠ guard.incarnation) ∧
        state.Changed registry guard.key (.releaseRetired guard.incarnation) (guard.drop state) := by
  unfold ActiveInteractionGuardV1.drop
  cases found : state.slots.lookup guard.key with
  | none =>
    rw [slotAt_of_none found]
    exact .inl ⟨.rfl, .inr ⟨nofun, nofun⟩⟩
  | some slot =>
    rw [slotAt_of_some found]
    simp only
    cases kept : slot.current.filter fun current => current.incarnation = guard.incarnation with
    | some current =>
      simp only
      obtain ⟨here, own⟩ : slot.current = some current ∧ current.incarnation = guard.incarnation := by
        simpa [filter_eq_some_iff] using kept
      obtain ⟨after, advanced, failed, closed⟩ | ⟨observation, next, advanced, isNext, content, seals, numbered⟩ :=
        advanceObservationOrClose_cases ⟨state.observation, slot⟩
      · simp only [advanced]
        exact .inl ⟨failed.giveBack found, .inl closed⟩
      · simp only [advanced]
        refine .inr (.inl ⟨current, here, own, BorrowedSlot.Changed.giveBack ⟨isNext, ?_, numbered, seals⟩ found fun _ => rfl⟩)
        have same : ({ next with current := some current.released } : SlotCell).content =
            { slot.content with current := some current.released } := by
          rw [← content]
          rfl
        rw [same]
        exact .releaseCurrent current here
    | none =>
      simp only
      have other (current : RouteRecord) (here : slot.current = some current) : current.incarnation ≠ guard.incarnation := by
        rw [here] at kept
        simpa using kept
      cases retired : slot.findRetired guard.incarnation with
      | none =>
        refine .inl ⟨.rfl, .inr ⟨other, fun route mem => ?_⟩⟩
        simpa using List.find?_eq_none.mp retired route mem
      | some route =>
        simp only
        obtain ⟨after, advanced, failed, closed⟩ | ⟨observation, next, advanced, isNext, content, seals, numbered⟩ :=
          advanceObservationOrClose_cases ⟨state.observation, slot⟩
        · simp only [advanced]
          exact .inl ⟨failed.giveBack found, .inl closed⟩
        · simp only [advanced]
          refine .inr (.inr ⟨other, BorrowedSlot.Changed.giveBack ⟨isNext, ?_, numbered, seals⟩ found fun _ => rfl⟩)
          have same : (next.releaseRetired guard.incarnation).content =
              { slot.content with
                retired := slot.content.retired.map fun route =>
                  if route.incarnation = guard.incarnation then route.released else route } := by
            rw [← content]
            rfl
          rw [same]
          exact .releaseRetired guard.incarnation

end Interactions

end Starring.Registry
