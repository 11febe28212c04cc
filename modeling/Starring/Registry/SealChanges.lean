import Starring.Registry.Changes

/-! What the operations that close and reopen slots leave behind. What they observe after their change can always be
observed, so that none of them fails when it is too late. -/

namespace Starring.Registry
open Foundation Convergence Calls RegistryState Option

section Soundness
variable {registry : RegistryInner} {before after : RegistryState} {key : ServingSlotKeyV1} {edit : SlotEdit}

theorem RegistryState.Changed.sound (changed : before.Changed registry key edit after) (sound : before.Sound registry) :
    after.Sound registry where
  size := Nat.le_trans changed.size (Nat.max_le.mpr ⟨sound.size, Nat.le_refl _⟩)
  slots other slot found := by
    by_cases same : other = key
    · subst same
      cases changed.present.symm.trans found
      exact changed.edited.sound (sound.slotAt other)
    · exact sound.slots other slot ((changed.others other same).symm.trans found)

theorem RegistryState.Failed.sound (failed : before.Failed after) (sound : before.Sound registry) : after.Sound registry where
  size := Nat.le_trans (Nat.le_of_eq failed.size) sound.size
  slots key slot found := by
    obtain same | ⟨slot', was, closed⟩ := failed.slots key
    · exact sound.slots key slot (same.symm.trans found)
    · cases closed.symm.trans found
      exact sound.slots key slot' was

end Soundness

/-- One edit has been made in a slot that is open. -/
structure Made (registry : RegistryInner) (state : RegistryState) (key : ServingSlotKeyV1) (edit : SlotEdit)
    (last : RegistryState) : Prop where
  changed : state.Changed registry key edit last
  isOpen : (last.slotAt key).failedClosed = false
  cells : last.cells = last.slotAt key :: state.otherCells key

theorem BorrowedSlot.Changed.made {registry : RegistryInner} {state : RegistryState} {key : ServingSlotKeyV1}
    {slot : SlotCell} {borrowed : BorrowedSlot} {edit : SlotEdit}
    (changed : (⟨state.observation, slot⟩ : BorrowedSlot).Changed registry.config.maxActiveInteractionsPerSlot.get edit
      borrowed)
    (isOpen : borrowed.slot.failedClosed = false) (found : state.slots.lookup key = some slot)
    (noRoute : ∀ number, edit.NumbersRoute number number) :
    Made registry state key edit (state.giveBack key borrowed) where
  changed := changed.giveBack found noRoute
  isOpen := by rwa [slotAt_giveBack]
  cells := by rw [slotAt_giveBack, cells_giveBack]

section Seals
variable {registry : RegistryInner} {state last : RegistryState} {key : ServingSlotKeyV1} {sealKey : SlotSealKeyV2}
  {slot : SlotCell} {sealed : SlotSealState}

theorem Edited.of_close {limit : Nat} {before after : SlotContent} (edited : Edited limit before (.close sealed) after) :
    before.sealState = none ∧ sealed.route = before.selected.map routeWitnessV1 ∧ sealed.sourceRoute = sealed.route ∧
      after = { before with sealState := some sealed } := by
  cases edited with
  | close _ unsealed exact isSource => exact ⟨unsealed, exact, isSource, rfl⟩

theorem Made.sealState (closed : Made registry state key (.close sealed) last) :
    (last.slotAt key).sealState = some sealed :=
  congrArg SlotContent.sealState closed.changed.edited.of_close.2.2.2

theorem Made.routes (closed : Made registry state key (.close sealed) last) :
    (last.slotAt key).routes = (state.slotAt key).routes :=
  congrArg (fun content : SlotContent => content.staged.toList ++ content.current.toList ++ content.retired)
    closed.changed.edited.of_close.2.2.2

theorem sealSlot_settles (registry : RegistryInner) {route : Option SlotRouteWitnessV1} (found : state.slots.lookup key = some slot)
    (unsealed : slot.sealState = none) (exact : route = (selectedRoute slot).map routeWitnessV1) :
    (sealSlot sealKey false route).Settles
      (fun generation borrowed => ∃ sealed, Made registry state key (.close sealed) (state.giveBack key borrowed) ∧
        sealed.sealKey = sealKey ∧ sealed.sealGeneration = generation ∧ sealed.route = route)
      (fun _ borrowed => (⟨state.observation, slot⟩ : BorrowedSlot).Failed borrowed) ⟨state.observation, slot⟩ := by
  refine settles_seal fun observation admission sequence generation isNext numbered next => ?_
  refine settles_modify (settles_pure ?_)
  exact ⟨_, BorrowedSlot.Changed.made ⟨isNext, .close _ unsealed exact rfl, fun _ => numbered, next, next⟩
    numbered.wasOpen found fun _ => rfl, rfl, rfl, rfl⟩

theorem materializeSealed_settles (absent : state.slots.lookup key = none)
    (room : state.slots.entries.length < registry.config.maxSlots.get) :
    (materializeSealed key sealKey).Settles
      (fun generation last => ∃ sealed, Made registry state key (.close sealed) last ∧ sealed.sealKey = sealKey ∧
        sealed.sealGeneration = generation ∧ sealed.route = none)
      (fun _ last => state.Failed last) state := by
  have settles : (sealSlot sealKey true none).Settles
      (fun generation borrowed => ∃ sealed, Made registry state key (.close sealed) (state.giveBack key borrowed) ∧
        sealed.sealKey = sealKey ∧ sealed.sealGeneration = generation ∧ sealed.route = none)
      (fun _ borrowed => (⟨state.observation, .fresh⟩ : BorrowedSlot).Failed borrowed) ⟨state.observation, .fresh⟩ := by
    refine settles_advance fun generation observation slot isNext isOpen numbered => ?_
    simp only [sealNumbers, if_true, bind_eq_bind, bind_some, bind_eq_some_iff, Option.some.injEq,
      Prod.mk.injEq] at numbered
    obtain ⟨generation, next, rfl, rfl⟩ := numbered
    have first := checkedSuccessor_eq next
    refine settles_modify (settles_pure
      ⟨{ sealKey, sealGeneration := generation, route := none, sourceRoute := none, sourceAdmissionGeneration := nonZeroMin,
         sourceObservationSequence := nonZeroMin, sourceRegistryObservationSequence := observation.sequence },
       ⟨?_, ?_, ?_⟩, rfl, rfl, rfl⟩)
    · refine .of_insert rfl isNext (fun _ => room) ?_ (fun _ found => (some_ne_none _ (found.symm.trans absent)).elim) ?_ rfl
      · rw [slotAt_of_none absent]
        exact .close _ rfl rfl rfl
      · rw [slotAt_of_none absent]
        exact ⟨first, first⟩
    · rw [slotAt_giveBack]
      rfl
    · rw [slotAt_giveBack, cells_giveBack]
  unfold Settles materializeSealed
  rcases called : sealSlot sealKey true none ⟨state.observation, .fresh⟩ with ⟨error | generation, borrowed⟩
  · simp only
    have failed := settles.of_error called
    exact ⟨failed.observation, rfl, rfl, fun _ => .inl rfl⟩
  · simp only
    exact settles.of_ok called

theorem observeSlot_ok {missing : ServingSlotRegistryError} (present : last.slots.lookup key = some (last.slotAt key))
    (isOpen : (last.slotAt key).failedClosed = false) :
    (do
      let slot ← orReject (last.slots.lookup key) missing
      atomicObservationV2 slot : Except ServingSlotRegistryError SlotAtomicObservationV2) = .ok (last.slotAt key).observed := by
  rw [present]
  exact atomicObservationV2_ok isOpen

theorem sealDrainClaimV2_settles {expected : Option SlotAtomicObservationV2} :
    (sealDrainClaimV2 registry key sealKey expected).Settles
      (fun claim last => expected = (state.slots.lookup key).map SlotCell.observed ∧
        ∃ sealed, Made registry state key (.close sealed) last ∧ sealed.sealKey = sealKey ∧
          claim.1 = .of registry key sealKey sealed.sealGeneration sealed.route ∧ claim.2 = (last.slotAt key).observed)
      (fun _ last => state.Failed last) state := by
  unfold sealDrainClaimV2
  refine settles_examine fun _ _ => ?_
  refine settles_get (settles_check fun _ notFull => ?_)
  cases found : state.slots.lookup key with
  | none =>
    have room := Nat.not_le.mp fun full => rejectIf_eq_ok.mp notFull ⟨found, full⟩
    refine settles_check fun _ unexpected => ?_
    refine Settles.bind ((materializeSealed_settles found room).imp fun generation last made => ?_)
    obtain ⟨sealed, closed, sameKey, rfl, noRoute⟩ := made
    refine settles_examine_ok (observeSlot_ok closed.changed.present closed.isOpen) ?_
    refine settles_pure ⟨?_, sealed, closed, sameKey, ?_, rfl⟩
    · simpa using unexpected
    · rw [noRoute]
  | some slot =>
    refine settles_check fun _ isOpen => ?_
    refine settles_check fun _ isUnsealed => ?_
    refine settles_check fun observation isObserved => ?_
    refine settles_check fun _ isExpected => ?_
    obtain ⟨-, rfl⟩ := atomicObservationV2_eq_ok isObserved
    refine Settles.bind ?_
    refine settles_onSlot fun slot' found' => ?_
    cases found.symm.trans found'
    refine (sealSlot_settles registry found (ensureSlotUnsealed_eq_ok isUnsealed) rfl).imp fun generation borrowed made => ?_
    obtain ⟨sealed, closed, sameKey, rfl, sameRoute⟩ := made
    refine settles_examine_ok (observeSlot_ok closed.changed.present closed.isOpen) ?_
    refine settles_pure ⟨?_, sealed, closed, sameKey, ?_, rfl⟩
    · simpa using isExpected
    · rw [sameRoute]

theorem Made.sound {edit : SlotEdit} (made : Made registry state key edit last) (sound : state.Sound registry) :
    last.Sound registry :=
  made.changed.sound sound

theorem sealEmptyRecoveryDrainClaimV2_settles {cursor : RegistryEmptyRecoveryCursorV2} (sound : state.Sound registry) :
    (sealEmptyRecoveryDrainClaimV2 registry cursor key sealKey).Settles
      (fun capability last => cursor.expectedSequence = state.observation.sequence ∧
        state.recovered.isRecoveryEmpty = true ∧
        ∃ sealed, Made registry state key (.close sealed) last ∧ sealed.sealKey = sealKey ∧ sealed.route = none ∧
          capability.claim = .of registry key sealKey sealed.sealGeneration none ∧
          capability.slotObservation = (last.slotAt key).observed ∧ capability.registryObservation = last.recovered)
      (fun _ last => state.Failed last) state := by
  unfold sealEmptyRecoveryDrainClaimV2
  refine settles_examine fun _ _ => ?_
  refine settles_check fun _ _ => ?_
  refine settles_get (settles_ok sound.recovered ?_)
  refine settles_check fun _ isCurrent => ?_
  refine settles_check fun _ isEmpty => ?_
  have current : cursor.expectedSequence = state.observation.sequence := by
    exact (Decidable.not_not.mp (rejectIf_eq_ok.mp isCurrent)).symm
  have empty : state.recovered.isRecoveryEmpty = true := by simpa using isEmpty
  have vacant := vacant_of_isRecoveryEmpty empty
  have unrouted : (state.slotAt key).routes = [] := by
    cases found : state.slots.lookup key with
    | none => rw [slotAt_of_none found]; rfl
    | some slot =>
      rw [slotAt_of_some found]
      exact (vacant slot ((cells_perm found).symm.subset List.mem_cons_self)).1
  refine settles_check fun sourceSlotObservation _ => ?_
  refine settles_check fun _ notFull => ?_
  -- Whichever way the slot is sealed, the rest of the operation succeeds.
  have finish (generation : NonZeroU64) (last : RegistryState)
      (made : ∃ sealed, Made registry state key (.close sealed) last ∧ sealed.sealKey = sealKey ∧
        sealed.sealGeneration = generation ∧ sealed.route = none) :
      (do
        let slotObservation ← observeSlot key .staleSlotObservation
        let registryObservation ← observeRegistry
        ofExcept (registryObservation.checkOneSealed .registryObservationInvalid)
        pure
          { claim := .of registry key sealKey generation none, sourceSlotObservation, slotObservation
            registryObservation } : OnRegistry SealedEmptyRecoveryDrainClaimV2).Settles
        (fun capability last => cursor.expectedSequence = state.observation.sequence ∧
          state.recovered.isRecoveryEmpty = true ∧
          ∃ sealed, Made registry state key (.close sealed) last ∧ sealed.sealKey = sealKey ∧ sealed.route = none ∧
            capability.claim = .of registry key sealKey sealed.sealGeneration none ∧
            capability.slotObservation = (last.slotAt key).observed ∧ capability.registryObservation = last.recovered)
        (fun _ last => state.Failed last) last := by
    obtain ⟨sealed, closed, sameKey, rfl, noRoute⟩ := made
    refine settles_examine_ok (observeSlot_ok closed.changed.present closed.isOpen) ?_
    refine settles_examine_ok (closed.sound sound).recovered ?_
    refine settles_ok (checkOneSealed_of_cells (closed.sound sound) closed.changed.observation.2.1
      closed.cells (closed.routes.trans unrouted) (by rw [closed.sealState]; rfl) closed.isOpen
      (fun cell mem => vacant cell (otherCells_subset mem)) _) ?_
    exact settles_pure ⟨current, empty, sealed, closed, sameKey, noRoute, rfl, rfl, rfl⟩
  cases found : state.slots.lookup key with
  | none =>
    have room := Nat.not_le.mp fun full => rejectIf_eq_ok.mp notFull ⟨found, full⟩
    exact Settles.bind ((materializeSealed_settles found room).imp finish)
  | some slot =>
    refine Settles.bind (settles_onSlot fun slot' found' => ?_)
    cases found.symm.trans found'
    refine settles_borrowed (settles_check fun _ isOpen => ?_)
    refine settles_check fun _ isUnsealed => ?_
    refine settles_check fun observation _ => ?_
    refine settles_check fun _ isUnrouted => ?_
    have noRoute : selectedRoute slot = none := by
      have := rejectIf_eq_ok.mp isUnrouted
      simpa using (not_or.mp this).1
    refine (sealSlot_settles registry found (ensureSlotUnsealed_eq_ok isUnsealed) (by rw [noRoute]; rfl)).imp
      fun generation borrowed made => finish generation _ made

theorem unsealSlot_settles (registry : RegistryInner) (found : state.slots.lookup key = some slot)
    (isSealed : slot.sealState = some sealed) :
    unsealSlot.Settles
      (fun observed borrowed => Made registry state key .reopen (state.giveBack key borrowed) ∧
        observed = borrowed.slot.observed)
      (fun _ borrowed => (⟨state.observation, slot⟩ : BorrowedSlot).Failed borrowed) ⟨state.observation, slot⟩ := by
  refine settles_mutation fun observation admission sequence isNext numbered => ?_
  refine settles_modify (settles_borrowed ?_)
  refine settles_last_ok (atomicObservationV2_ok (by exact numbered.wasOpen)) ⟨?_, rfl⟩
  exact BorrowedSlot.Changed.made ⟨isNext, .reopen sealed isSealed, fun _ => numbered, rfl⟩ numbered.wasOpen found
    fun _ => rfl

theorem SlotCell.sealMatches_iff {generation : NonZeroU64} {route : Option SlotRouteWitnessV1} :
    slot.sealMatches sealKey generation route = true ↔
      ∃ sealed, slot.sealState = some sealed ∧ sealed.sealKey = sealKey ∧ sealed.sealGeneration = generation ∧
        sealed.route = route := by
  simp [SlotCell.sealMatches, any_eq_true]

theorem unsealDrainClaimV2_settles {capability : SlotDrainClaimSealV2} :
    (unsealDrainClaimV2 registry capability).Settles
      (fun _ last => Made registry state capability.key .reopen last ∧
        (state.slotAt capability.key).sealMatches capability.sealKey capability.sealGeneration capability.route = true)
      (fun _ last => state.Failed last) state := by
  unfold unsealDrainClaimV2
  refine settles_check fun _ _ => ?_
  refine settles_examine fun _ _ => ?_
  refine settles_onSlot fun slot found => ?_
  rw [slotAt_of_some found]
  refine settles_borrowed (settles_check fun _ isOpen => ?_)
  refine settles_check fun _ isMatch => ?_
  have sealMatches : slot.sealMatches capability.sealKey capability.sealGeneration capability.route = true := by
    simpa using (not_or.mp (rejectIf_eq_ok.mp isMatch)).1
  obtain ⟨sealed, isSealed, -⟩ := SlotCell.sealMatches_iff.mp sealMatches
  exact (unsealSlot_settles registry found isSealed).imp fun _ _ done => ⟨done.1, sealMatches⟩

theorem Edited.of_reopen {limit : Nat} {before after : SlotContent} (edited : Edited limit before .reopen after) :
    after = { before with sealState := none } := by
  cases edited
  rfl

theorem unsealEmptyRecoveryDrainClaimV2_settles {capability : SealedEmptyRecoveryDrainClaimV2} (sound : state.Sound registry) :
    (unsealEmptyRecoveryDrainClaimV2 registry capability).Settles
      (fun reply last => Made registry state capability.claim.key .reopen last ∧
        state.recovered = capability.registryObservation ∧
        (state.slotAt capability.claim.key).observed = capability.slotObservation ∧
        capability.claim.route = none ∧
        (state.slotAt capability.claim.key).sealMatches capability.claim.sealKey capability.claim.sealGeneration none = true ∧
        reply.cursor = ⟨registry.lifetime, last.observation.sequence⟩)
      (fun _ last => state.Failed last) state := by
  unfold unsealEmptyRecoveryDrainClaimV2
  refine settles_check fun _ _ => ?_
  refine settles_examine fun _ _ => ?_
  refine settles_examine_ok sound.recovered ?_
  refine settles_check fun _ isSame => ?_
  have sameRegistry : state.recovered = capability.registryObservation :=
    Decidable.not_not.mp (rejectIf_eq_ok.mp isSame)
  refine settles_check fun _ oneSealed => ?_
  refine Settles.bind (settles_onSlot fun slot found => ?_)
  rw [slotAt_of_some found]
  refine settles_borrowed (settles_check fun _ isOpen => ?_)
  refine settles_check fun observation isObserved => ?_
  obtain ⟨-, rfl⟩ := atomicObservationV2_eq_ok isObserved
  refine settles_check fun _ isSameSlot => ?_
  refine settles_check fun _ isMatch => ?_
  have sameSlot : slot.observed = capability.slotObservation := Decidable.not_not.mp (rejectIf_eq_ok.mp isSameSlot)
  obtain ⟨isMatch, unrouted⟩ := not_or.mp (rejectIf_eq_ok.mp isMatch)
  have sealMatches : slot.sealMatches capability.claim.sealKey capability.claim.sealGeneration none = true := by
    simpa using isMatch
  have noRoute : capability.claim.route = none := by simpa using (not_or.mp unrouted).2
  obtain ⟨sealed, isSealed, -⟩ := SlotCell.sealMatches_iff.mp sealMatches
  obtain ⟨routes, -, vacant⟩ := others_vacant oneSealed found (by rw [isSealed]; rfl)
  refine (unsealSlot_settles registry found isSealed).imp fun observed borrowed done => ?_
  obtain ⟨made, -⟩ := done
  have empty : (state.giveBack capability.claim.key borrowed).recovered.isRecoveryEmpty = true := by
    refine isRecoveryEmpty_of_vacant made.changed.observation.2.1 fun cell mem => ?_
    rw [made.cells] at mem
    obtain rfl | mem := List.mem_cons.mp mem
    · have content := made.changed.edited.of_reopen
      rw [slotAt_of_some found] at content
      refine ⟨Eq.trans ?_ routes, congrArg SlotContent.sealState content, made.isOpen⟩
      exact congrArg (fun content : SlotContent => content.staged.toList ++ content.current.toList ++ content.retired) content
    · exact vacant cell mem
  refine settles_examine_ok (made.sound sound).recovered ?_
  refine settles_ok (by rw [empty]; rfl) ?_
  exact settles_pure ⟨made, sameRegistry, sameSlot, noRoute, sealMatches, rfl⟩

end Seals

end Starring.Registry
