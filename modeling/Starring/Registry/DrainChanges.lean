import Starring.Registry.SealChanges

/-! What the steps of a drain leave behind, and what their capabilities say about the slot at the moment when they were
given out. -/

namespace Starring.Registry
open Foundation Convergence Calls RegistryState SlotCell

/-- The slot of a capability: it has the one route and the seal that the capability is for. -/
structure SealedRoute (state : RegistryState) (binding : SealedRouteBindingV4) (lifecycle : SlotLifecycleV1)
    (slot : SlotCell) (current : RouteRecord) : Prop where
  found : state.slots.lookup binding.key = some slot
  isOpen : slot.failedClosed = false
  here : slot.current = some current
  noStaged : slot.staged = none
  noRetired : slot.retired = []
  witness : routeWitnessV1 current = binding.currentRoute
  isIn : current.lifecycle = lifecycle
  sealed : slot.sealMatches binding.sealKey binding.sealGeneration (some binding.currentRoute) = true
  atHighWater : slot.content.AtHighWater current

section Validators
variable {registry : RegistryInner} {state : RegistryState} {slot : SlotCell} {value : Unit}

theorem ensureSingleCurrentRoute_eq_ok (passed : ensureSingleCurrentRoute slot = .ok value) :
    (∃ current, slot.current = some current) ∧ slot.staged = none ∧ slot.retired = [] := by
  obtain ⟨present, noStaged, noRetired⟩ : slot.current ≠ none ∧ slot.staged = none ∧ slot.retired = [] := by
    simpa using rejectIf_eq_ok.mp passed
  exact ⟨Option.ne_none_iff_exists'.mp present, noStaged, noRetired⟩

theorem ensureHighWaterMatchesWitness_eq_ok {witness : SlotRouteWitnessV1}
    (passed : ensureHighWaterMatchesWitness slot witness = .ok value) :
    ∃ highWater, slot.highWater = some highWater ∧ highWater.identity = witness.identity ∧
      highWater.fencingToken = witness.fencingToken := by
  simp only [ensureHighWaterMatchesWitness, orReject_bind_eq_ok, rejectIf_eq_ok, Decidable.not_not] at passed
  exact passed

theorem totalActiveInteractions_eq_ok {total : Nat} (passed : totalActiveInteractions slot = .ok total) :
    total = slot.totalActive := by
  simp only [totalActiveInteractions, check_bind_eq_ok, pure_eq_ok] at passed
  exact passed.2.symm

theorem totalActiveInteractions_ok (sound : slot.content.Sound registry.config.maxActiveInteractionsPerSlot.get) :
    totalActiveInteractions slot = .ok slot.totalActive := by
  have bounded : slot.totalActive ≤ registry.config.maxActiveInteractionsPerSlot.get := sound.bounded
  have limit := registry.config.maxActiveInteractionsPerSlot.bounded
  have fits : ¬2 ^ 64 ≤ slot.totalActive := by omega
  simp only [totalActiveInteractions, (rejectIf_eq_ok (u := ())).mpr fits]
  rfl

theorem SlotCell.totalActive_sole {current : RouteRecord} (here : slot.current = some current) (noStaged : slot.staged = none)
    (noRetired : slot.retired = []) : slot.totalActive = current.activeInteractions := by
  simp [totalActive, routes, here, noStaged, noRetired]

theorem registryObservationSequence_ok (sound : state.Sound registry) :
    registryObservationSequence state = .ok state.observation.sequence := by
  simp only [registryObservationSequence, sound.recovered]
  rfl

theorem ensureObservedBefore_eq_ok (sound : state.Sound registry) {sequence now : NonZeroU64}
    (passed : ensureObservedBefore state sequence = .ok now) : now = state.observation.sequence := by
  simp only [ensureObservedBefore, registryObservationSequence_ok sound, bind_eq_ok, Except.ok.injEq, exists_eq_left',
    pure_eq_ok] at passed
  obtain ⟨_, -, same⟩ := passed
  exact same.symm

theorem ensureRegistryBinding_eq_ok {lifetime : NonZeroU64} (passed : ensureRegistryBinding registry lifetime = .ok value) :
    lifetime = registry.lifetime :=
  Decidable.not_not.mp (rejectIf_eq_ok.mp passed)

theorem validateRoutedObservation_eq_ok {binding : RoutedObservationBindingV4}
    (passed : validateRoutedObservation state binding = .ok value) :
    ∃ slot current, state.slots.lookup binding.key = some slot ∧ slot.failedClosed = false ∧ slot.sealState = none ∧
      slot.current = some current ∧ slot.staged = none ∧ slot.retired = [] ∧ routeWitnessV1 current = binding.route ∧
      current.lifecycle = .serving ∧ slot.observed = binding.slotObservation ∧
      current.activeInteractions = binding.totalActiveInteractions ∧ slot.content.AtHighWater current := by
  simp only [validateRoutedObservation, bind_eq_ok, orReject_eq_ok, rejectIf_eq_ok, ne_eq, Decidable.not_not] at passed
  obtain ⟨_, -, slot, found, _, isOpen, _, isUnsealed, _, isSole, current, here, _, witness, _, serving, observed,
    isObserved, _, same, total, isTotal, _, sameTotal, isHighWater⟩ := passed
  obtain ⟨-, noStaged, noRetired⟩ := ensureSingleCurrentRoute_eq_ok isSole
  obtain ⟨-, rfl⟩ := atomicObservationV2_eq_ok isObserved
  obtain ⟨highWater, isMark, identity, fence⟩ := ensureHighWaterMatchesWitness_eq_ok isHighWater
  rw [← witness] at identity fence serving
  refine ⟨slot, current, found, ensureSlotOpen_eq_ok isOpen, ensureSlotUnsealed_eq_ok isUnsealed, here, noStaged, noRetired,
    witness, serving, same, ?_, highWater, isMark, identity, fence⟩
  rw [← sameTotal, totalActiveInteractions_eq_ok isTotal, totalActive_sole here noStaged noRetired]

variable {binding : SealedRouteBindingV4} {lifecycle : SlotLifecycleV1}

theorem sealedRouteSlot_eq_ok (passed : sealedRouteSlot state binding lifecycle = .ok slot)
    {witness : SlotRouteWitnessV1} (isCurrent : witness = binding.currentRoute)
    (isHighWater : ensureHighWaterMatchesWitness slot witness = .ok value) :
    ∃ current, SealedRoute state binding lifecycle slot current := by
  simp only [sealedRouteSlot, bind_eq_ok, orReject_eq_ok, rejectIf_eq_ok, ne_eq, not_or, Decidable.not_not, pure_eq_ok] at passed
  obtain ⟨slot, found, _, isOpen, _, isSole, current, here, _, same, _, ⟨isIn, -⟩, _, isMatch, rfl⟩ := passed
  obtain ⟨-, noStaged, noRetired⟩ := ensureSingleCurrentRoute_eq_ok isSole
  obtain ⟨highWater, isMark, identity, fence⟩ := ensureHighWaterMatchesWitness_eq_ok isHighWater
  rw [isCurrent, ← same] at identity fence
  exact ⟨current, found, ensureSlotOpen_eq_ok isOpen, here, noStaged, noRetired, same, isIn, by simpa using isMatch,
    highWater, isMark, identity, fence⟩

theorem observeSealedRouteAfterGuardReleases_eq_ok (sound : state.Sound registry) {requireZero : Bool}
    {observed : SlotAtomicObservationV2} {sequence : NonZeroU64} {total : Nat}
    (passed : observeSealedRouteAfterGuardReleases state binding lifecycle requireZero = .ok (observed, sequence, total)) :
    ∃ slot current, SealedRoute state binding lifecycle slot current ∧ observed = slot.observed ∧
      sequence = state.observation.sequence ∧ total = current.activeInteractions ∧
      slot.admissionGeneration = binding.slotObservation.admissionGeneration ∧
      current.activeInteractions ≤ binding.totalActiveInteractions ∧
      (requireZero = true → current.activeInteractions = 0) := by
  simp only [observeSealedRouteAfterGuardReleases, bind_eq_ok, rejectIf_eq_ok, ne_eq, not_or, Decidable.not_not, pure_eq_ok,
    Prod.mk.injEq] at passed
  obtain ⟨now, isNow, slot, isSlot, observation, isObserved, _, ⟨admission, -⟩, active, isActive, _, few, _, zero, _,
    isHighWater, rfl, rfl, rfl⟩ := passed
  obtain ⟨current, route⟩ := sealedRouteSlot_eq_ok isSlot rfl isHighWater
  obtain ⟨-, rfl⟩ := atomicObservationV2_eq_ok isObserved
  have same := totalActiveInteractions_eq_ok isActive
  rw [totalActive_sole route.here route.noStaged route.noRetired] at same
  subst same
  refine ⟨slot, current, route, rfl, ensureObservedBefore_eq_ok sound isNow, rfl, admission, Nat.not_lt.mp few, ?_⟩
  intro required
  simpa [required] using zero

theorem validateSealedRoute_eq_ok (passed : validateSealedRoute state binding lifecycle = .ok value) :
    ∃ slot current, SealedRoute state binding lifecycle slot current ∧ slot.observed = binding.slotObservation ∧
      current.activeInteractions = 0 := by
  simp only [validateSealedRoute, bind_eq_ok, rejectIf_eq_ok, ne_eq, Decidable.not_not] at passed
  obtain ⟨_, -, slot, isSlot, observed, isObserved, _, same, active, isActive, _, sameActive, _, zero, isHighWater⟩ := passed
  obtain ⟨current, route⟩ := sealedRouteSlot_eq_ok isSlot rfl isHighWater
  obtain ⟨-, rfl⟩ := atomicObservationV2_eq_ok isObserved
  refine ⟨slot, current, route, same, ?_⟩
  rw [← totalActive_sole route.here route.noStaged route.noRetired, ← totalActiveInteractions_eq_ok isActive,
    sameActive, zero]

structure AbsentRoute (state : RegistryState) (binding : AbsentRouteBindingV4) (slot : SlotCell) : Prop where
  found : state.slots.lookup binding.key = some slot
  isOpen : slot.failedClosed = false
  unrouted : slot.routes = []
  sealed : slot.sealMatches binding.sealKey binding.sealGeneration none = true
  observed : slot.observed = binding.slotObservation
  atHighWater : ∃ highWater, slot.highWater = some highWater ∧ highWater.identity = binding.removedRoute.identity ∧
    highWater.fencingToken = binding.removedRoute.fencingToken

theorem SlotCell.routes_eq_nil_of_selected (unselected : selectedRoute slot = none) (noRetired : slot.retired = []) :
    slot.routes = [] := by
  have parts : slot.current = none ∧ slot.staged = none := by simpa [selectedRoute, Option.or_eq_none_iff] using unselected
  simp [routes, parts, noRetired]

theorem validateAbsentRoute_eq_ok {binding : AbsentRouteBindingV4} (passed : validateAbsentRoute state binding = .ok value) :
    ∃ slot, AbsentRoute state binding slot := by
  simp only [validateAbsentRoute, bind_eq_ok, orReject_eq_ok, rejectIf_eq_ok, ne_eq, not_or, Decidable.not_not] at passed
  obtain ⟨_, -, slot, found, _, isOpen, _, ⟨unselected, noRetired⟩, total, -, _, -, _, isMatch, observed, isObserved, _, same,
    isHighWater⟩ := passed
  obtain ⟨-, rfl⟩ := atomicObservationV2_eq_ok isObserved
  exact ⟨slot, found, ensureSlotOpen_eq_ok isOpen, routes_eq_nil_of_selected (by simpa using unselected) noRetired,
    by simpa using isMatch, same, ensureHighWaterMatchesWitness_eq_ok isHighWater⟩

end Validators

section Steps
variable {registry : RegistryInner} {state : RegistryState}

theorem observeSequence_settles {β : Type} {next : NonZeroU64 → OnRegistry β} {done : β → RegistryState → Prop}
    {failed : ServingSlotRegistryError → RegistryState → Prop} (sound : state.Sound registry)
    (goes : (next state.observation.sequence).Settles done failed state) :
    (observeSequence >>= next).Settles done failed state :=
  settles_examine_ok (registryObservationSequence_ok sound) goes

theorem settles_made {α : Type} {call : OnRegistry α} {last : RegistryState} {done : α → RegistryState → Prop}
    {failed : ServingSlotRegistryError → RegistryState → Prop} (registry : RegistryInner) (key : ServingSlotKeyV1)
    (edit : SlotEdit) (made : Made registry state key edit last)
    (goes : Made registry state key edit last → call.Settles done failed last) : call.Settles done failed last :=
  goes made

theorem sealRoutedWithIntentV4_settles {source : RoutedObservedV4} {intentId : RuntimeDrainIntentIdV2}
    (sound : state.Sound registry) :
    (sealRoutedWithIntentV4 registry source intentId).Settles
      (fun capability last => ∃ sealed current, Made registry state source.binding.key (.close sealed) last ∧
        (state.slotAt source.binding.key).content.OnlyIdle current ∧ current.lifecycle = .serving ∧
        (state.slotAt source.binding.key).content.AtHighWater current ∧
        (state.slotAt source.binding.key).observed = source.binding.slotObservation ∧
        sealed.route = some (routeWitnessV1 current) ∧ SlotSealKeyV2.tryFrom intentId.canonicalBytes = some sealed.sealKey ∧
        capability.binding =
          { registry := registry.lifetime
            intentId
            key := source.binding.key
            sealKey := sealed.sealKey
            sealGeneration := sealed.sealGeneration
            sourceRoute := routeWitnessV1 current
            currentRoute := routeWitnessV1 current
            routedSlotObservation := (last.slotAt source.binding.key).observed
            routedRegistryObservationSequence := last.observation.sequence
            slotObservation := (last.slotAt source.binding.key).observed
            registryObservationSequence := last.observation.sequence
            totalActiveInteractions := 0 })
      (fun _ last => state.Failed last) state := by
  unfold sealRoutedWithIntentV4
  refine settles_check fun _ _ => ?_
  refine settles_check fun _ isIdle => ?_
  have idle : source.binding.totalActiveInteractions = 0 := Decidable.not_not.mp (rejectIf_eq_ok.mp isIdle)
  refine settles_check fun sealKey isKey => ?_
  have sameKey := orReject_eq_ok.mp isKey
  refine settles_examine fun _ _ => ?_
  refine settles_examine fun _ valid => ?_
  obtain ⟨slot, current, found, -, unsealed, here, noStaged, noRetired, witness, serving, observed, active, atHighWater⟩ :=
    validateRoutedObservation_eq_ok valid
  refine Settles.bind (settles_onSlot fun slot' found' => ?_)
  cases found.symm.trans found'
  rw [slotAt_of_some found]
  have exact : some source.binding.route = (selectedRoute slot).map routeWitnessV1 := by
    simp [selectedRoute, here, witness]
  refine (sealSlot_settles registry found unsealed exact).imp fun generation borrowed done => ?_
  obtain ⟨sealed, made, rfl, rfl, sealedRoute⟩ := done
  refine settles_examine_ok (observeSlot_ok made.changed.present made.isOpen) ?_
  refine observeSequence_settles (made.sound sound) ?_
  refine settles_pure ⟨sealed, current, made, ⟨here, noStaged, noRetired, active.trans idle⟩, serving, atHighWater,
    observed, by rw [sealedRoute, witness], sameKey, ?_⟩
  rw [witness, idle]

theorem rollbackRoutedSealStateV4_settles {source : RoutedSealedV4} (sound : state.Sound registry) :
    (rollbackRoutedSealStateV4 registry source).Settles
      (fun reply last => Made registry state source.binding.key .reopen last ∧
        (state.slotAt source.binding.key).sealMatches source.binding.sealKey source.binding.sealGeneration
          (some source.binding.currentRoute) = true ∧
        (state.slotAt source.binding.key).admissionGeneration = source.binding.slotObservation.admissionGeneration ∧
        reply.binding.slotObservation = (last.slotAt source.binding.key).observed ∧ reply.binding.key = source.binding.key)
      (fun _ last => state.Failed last) state := by
  unfold rollbackRoutedSealStateV4
  refine settles_check fun _ _ => ?_
  refine settles_examine fun _ _ => ?_
  refine settles_examine fun result valid => ?_
  obtain ⟨slot, current, route, -, -, -, admission, -⟩ := observeSealedRouteAfterGuardReleases_eq_ok sound valid
  obtain ⟨sealed, isSealed, -⟩ := sealMatches_iff.mp route.sealed
  refine Settles.bind (settles_onSlot fun slot' found' => ?_)
  cases route.found.symm.trans found'
  rw [slotAt_of_some route.found]
  refine settles_mutation fun observation admissionGeneration sequence isNext numbered => ?_
  refine settles_modify (settles_borrowed ?_)
  refine settles_ok (orReject_eq_ok.mpr route.here) ?_
  refine settles_ok (atomicObservationV2_ok (by exact route.isOpen)) ?_
  have sameTotal (slot' : SlotCell) (same : slot'.routes = slot.routes) :
      totalActiveInteractions slot' = .ok slot.totalActive := by
    have total := totalActiveInteractions_ok (sound.slots _ _ route.found)
    unfold totalActiveInteractions totalActive at total ⊢
    rw [same]
    exact total
  refine settles_ok (sameTotal _ rfl) ?_
  refine settles_pure (settles_made registry source.binding.key .reopen (BorrowedSlot.Changed.made
    ⟨isNext, .reopen sealed isSealed, fun _ => numbered, rfl⟩ numbered.wasOpen route.found fun _ => rfl) fun made => ?_)
  refine observeSequence_settles (made.sound sound) ?_
  refine settles_pure ⟨made, route.sealed, admission, ?_, rfl⟩
  rw [slotAt_giveBack]

theorem resealRoute_settles {β : Type} {route : Option SlotRouteWitnessV1} {next : Unit → OnSlot β} {before : BorrowedSlot}
    {done : β → BorrowedSlot → Prop} {failed : ServingSlotRegistryError → BorrowedSlot → Prop} {sealed : SlotSealState}
    (found : before.slot.sealState = some sealed)
    (goes : (next ()).Settles done failed
      { before with slot := { before.slot with sealState := some { sealed with route } } }) :
    (resealRoute route >>= next).Settles done failed before := by
  refine Settles.bind (settles_borrowed (settles_ok (orReject_eq_ok.mpr found) ?_))
  exact goes

theorem refenceRoutedClaimStateV4_settles {source : RoutedClaimedSealedV4} {provenance : RuntimeRouteMutationProvenanceV2}
    {refencedAt : DateTime} (sound : state.Sound registry) :
    (refenceRoutedClaimStateV4 registry source provenance refencedAt).Settles
      (fun capability last => source.binding.registry = registry.lifetime ∧
        ∃ slot current, SealedRoute state source.binding .serving slot current ∧
        slot.observed = source.binding.slotObservation ∧
        Made registry state source.binding.key (.refence source.claimFence) last ∧
        capability.binding =
          { source.binding with
            currentRoute := routeWitnessV1 (current.refenced source.claimFence)
            slotObservation := (last.slotAt source.binding.key).observed
            registryObservationSequence := last.observation.sequence
            totalActiveInteractions := 0 })
      (fun _ last => state.Failed last) state := by
  unfold refenceRoutedClaimStateV4
  refine settles_check fun _ isOurs => ?_
  refine settles_examine fun _ _ => ?_
  refine settles_examine fun _ valid => ?_
  obtain ⟨slot, current, route, observed, idle⟩ := validateSealedRoute_eq_ok valid
  obtain ⟨sealed, isSealed, -⟩ := sealMatches_iff.mp route.sealed
  obtain ⟨highWater, isMark, sameIdentity, sameFence⟩ := route.atHighWater
  have isMark : slot.highWater = some highWater := isMark
  refine Settles.bind (settles_onSlot fun slot' found' => ?_)
  cases route.found.symm.trans found'
  refine settles_mutation fun observation admission sequence isNext numbered => ?_
  refine settles_borrowed (settles_ok (orReject_eq_ok.mpr route.here) ?_)
  refine settles_modify (settles_ok (orReject_eq_ok.mpr isMark) ?_)
  refine settles_modify (resealRoute_settles isSealed (settles_borrowed ?_))
  refine settles_ok (atomicObservationV2_ok (by exact route.isOpen)) ?_
  have edited : Edited registry.config.maxActiveInteractionsPerSlot.get slot.content _ _ :=
    .refence current sealed source.claimFence ⟨route.here, route.noStaged, route.noRetired, idle⟩ route.isIn
      route.atHighWater isSealed
  have raised : slot.content.raise source.claimFence = some { highWater with fencingToken := source.claimFence } := by
    simp [SlotContent.raise, content, isMark]
  rw [raised] at edited
  refine settles_pure (settles_made registry source.binding.key (.refence source.claimFence) (BorrowedSlot.Changed.made
    ⟨isNext, edited, fun _ => numbered, rfl⟩ numbered.wasOpen route.found fun _ => rfl) fun made => ?_)
  refine observeSequence_settles (made.sound sound) ?_
  refine settles_pure ⟨ensureRegistryBinding_eq_ok isOurs, slot, current, route, observed, made, ?_⟩
  rw [slotAt_giveBack]

theorem beginDrainRefencedStateV4_settles {source : DurablyRefencedSealedV4} (sound : state.Sound registry) :
    (beginDrainRefencedStateV4 registry source).Settles
      (fun capability last => source.binding.registry = registry.lifetime ∧
        ∃ slot current, SealedRoute state source.binding .serving slot current ∧
        slot.observed = source.binding.slotObservation ∧ Made registry state source.binding.key .drainSealed last ∧
        capability.binding =
          { source.binding with
            currentRoute := routeWitnessV1 current.drained
            slotObservation := (last.slotAt source.binding.key).observed
            registryObservationSequence := last.observation.sequence
            totalActiveInteractions := 0 })
      (fun _ last => state.Failed last) state := by
  unfold beginDrainRefencedStateV4
  refine settles_check fun _ isOurs => ?_
  refine settles_examine fun _ _ => ?_
  refine settles_examine fun _ valid => ?_
  obtain ⟨slot, current, route, observed, idle⟩ := validateSealedRoute_eq_ok valid
  obtain ⟨sealed, isSealed, -⟩ := sealMatches_iff.mp route.sealed
  refine Settles.bind (settles_onSlot fun slot' found' => ?_)
  cases route.found.symm.trans found'
  refine settles_mutation fun observation admission sequence isNext numbered => ?_
  refine settles_borrowed (settles_ok (orReject_eq_ok.mpr route.here) ?_)
  refine settles_modify (resealRoute_settles isSealed (settles_borrowed ?_))
  refine settles_ok (atomicObservationV2_ok (by exact route.isOpen)) ?_
  have edited : Edited registry.config.maxActiveInteractionsPerSlot.get slot.content _ _ :=
    .drainSealed current sealed ⟨route.here, route.noStaged, route.noRetired, idle⟩ route.isIn route.atHighWater isSealed
  refine settles_pure (settles_made registry source.binding.key .drainSealed (BorrowedSlot.Changed.made
    ⟨isNext, edited, fun _ => numbered, rfl⟩ numbered.wasOpen route.found fun _ => rfl) fun made => ?_)
  refine observeSequence_settles (made.sound sound) ?_
  refine settles_pure ⟨ensureRegistryBinding_eq_ok isOurs, slot, current, route, observed, made, ?_⟩
  rw [slotAt_giveBack]

theorem removeDrainingRefencedStateV4_settles {source : DrainingRefencedSealedV4} {observation : DrainingRefencedObservationV4}
    (sound : state.Sound registry) :
    (removeDrainingRefencedStateV4 registry source observation).Settles
      (fun capability last => ∃ slot current, SealedRoute state source.binding .draining slot current ∧
        slot.observed = source.binding.slotObservation ∧ current.activeInteractions = 0 ∧
        Made registry state source.binding.key .removeSealed last ∧
        capability.binding =
          { registry := source.binding.registry
            intentId := source.binding.intentId
            key := source.binding.key
            sealKey := source.binding.sealKey
            sealGeneration := source.binding.sealGeneration
            sourceRoute := source.binding.sourceRoute
            removedRoute := source.binding.currentRoute
            slotObservation := (last.slotAt source.binding.key).observed
            registryObservationSequence := last.observation.sequence })
      (fun _ last => state.Failed last) state := by
  unfold removeDrainingRefencedStateV4
  refine settles_check fun _ _ => ?_
  refine settles_check fun _ _ => ?_
  refine settles_examine fun _ _ => ?_
  refine settles_examine fun _ valid => ?_
  refine settles_check fun _ _ => ?_
  obtain ⟨slot, current, route, observed, idle⟩ := validateSealedRoute_eq_ok valid
  obtain ⟨sealed, isSealed, -⟩ := sealMatches_iff.mp route.sealed
  refine Settles.bind (settles_onSlot fun slot' found' => ?_)
  cases route.found.symm.trans found'
  refine settles_mutation fun observation admission sequence isNext numbered => ?_
  refine settles_modify (resealRoute_settles isSealed (settles_borrowed ?_))
  have edited : Edited registry.config.maxActiveInteractionsPerSlot.get slot.content _ _ :=
    .removeSealed current sealed ⟨route.here, route.noStaged, route.noRetired, idle⟩ route.isIn route.atHighWater isSealed
  refine settles_last_ok (atomicObservationV2_ok (by exact route.isOpen)) ?_
  refine settles_made registry source.binding.key .removeSealed (BorrowedSlot.Changed.made
    ⟨isNext, edited, fun _ => numbered, rfl⟩ numbered.wasOpen route.found fun _ => rfl) fun made => ?_
  refine observeSequence_settles (made.sound sound) ?_
  refine settles_pure ⟨slot, current, route, observed, idle, made, ?_⟩
  rw [slotAt_giveBack]

theorem consumeRouteAbsentWithDigestV4_settles {source : RouteAbsentSealedV4} {digest : RegistryDurableReceiptDigestV4}
    (sound : state.Sound registry) :
    (consumeRouteAbsentWithDigestV4 registry source digest).Settles
      (fun reply last => source.binding.registry = registry.lifetime ∧ AbsentRoute state source.binding
          (state.slotAt source.binding.key) ∧ Made registry state source.binding.key .reopen last ∧
        reply.key = source.binding.key ∧ reply.slotObservation = (last.slotAt source.binding.key).observed ∧
        reply.successorFence = source.binding.removedRoute.fencingToken)
      (fun _ last => state.Failed last) state := by
  unfold consumeRouteAbsentWithDigestV4
  refine settles_check fun _ isOurs => ?_
  refine settles_examine fun _ _ => ?_
  refine settles_examine fun _ valid => ?_
  obtain ⟨slot, absent⟩ := validateAbsentRoute_eq_ok valid
  obtain ⟨sealed, isSealed, -⟩ := sealMatches_iff.mp absent.sealed
  refine Settles.bind (settles_onSlot fun slot' found' => ?_)
  cases absent.found.symm.trans found'
  refine (unsealSlot_settles registry absent.found isSealed).imp fun observed borrowed done => ?_
  obtain ⟨made, rfl⟩ := done
  refine observeSequence_settles (made.sound sound) ?_
  refine settles_pure ⟨ensureRegistryBinding_eq_ok isOurs, ?_, made, rfl, ?_, rfl⟩
  · rwa [slotAt_of_some absent.found]
  · rw [slotAt_giveBack]

theorem sealEmptySuccessionV4_settles {cursor : RegistryEmptyRecoveryCursorV2} {key : ServingSlotKeyV1}
    {intentId : RuntimeDrainIntentIdV2} {predecessorRoute : PreviousRouteEnvelopeV4}
    {successorIdentity : RuntimeProcessIdentityV1} {successorFence : FencingToken} (sound : state.Sound registry) :
    (sealEmptySuccessionV4 registry cursor key intentId predecessorRoute successorIdentity successorFence).Settles
      (fun capability last => cursor.expectedSequence = state.observation.sequence ∧
        state.recovered.isRecoveryEmpty = true ∧
        ∃ sealed, Made registry state key (.close sealed) last ∧ sealed.route = none ∧
          capability.sealedClaim.claim = .of registry key sealed.sealKey sealed.sealGeneration none ∧
          capability.sealedClaim.slotObservation = (last.slotAt key).observed ∧
          capability.sealedClaim.registryObservation = last.recovered)
      (fun _ last => state.Failed last) state := by
  unfold sealEmptySuccessionV4
  refine settles_check fun sealKey _ => ?_
  refine settles_check fun _ _ => ?_
  refine Settles.bind ((sealEmptyRecoveryDrainClaimV2_settles sound).imp fun capability last done => ?_)
  obtain ⟨current, empty, sealed, made, rfl, noRoute, claim, slotObservation, registryObservation⟩ := done
  exact settles_pure ⟨current, empty, sealed, made, noRoute, claim, slotObservation, registryObservation⟩

/-- The slot of a registry that is empty otherwise gets the high water of a successor. -/
theorem consumeEmptySuccessionWithDigestV4_settles {source : EmptySuccessionSealedV4} {digest : RegistryDurableReceiptDigestV4}
    (sound : state.Sound registry) :
    (consumeEmptySuccessionWithDigestV4 registry source digest).Settles
      (fun _ last => Made registry state source.sealedClaim.claim.key (.succeed source.successorIdentity source.successorFence)
          last ∧ state.recovered = source.sealedClaim.registryObservation ∧
        (state.slotAt source.sealedClaim.claim.key).observed = source.sealedClaim.slotObservation ∧
        (state.slotAt source.sealedClaim.claim.key).sealMatches source.sealedClaim.claim.sealKey
          source.sealedClaim.claim.sealGeneration none = true)
      (fun _ last => state.Failed last) state := by
  unfold consumeEmptySuccessionWithDigestV4
  refine settles_check fun _ _ => ?_
  refine settles_examine fun _ _ => ?_
  refine settles_examine_ok sound.recovered ?_
  refine settles_check fun _ isSame => ?_
  have sameRegistry : state.recovered = source.sealedClaim.registryObservation :=
    Decidable.not_not.mp (rejectIf_eq_ok.mp isSame)
  refine Settles.bind (settles_onSlot fun slot found => ?_)
  rw [slotAt_of_some found]
  refine settles_borrowed (settles_check fun _ isOpen => ?_)
  refine settles_check fun observation isObserved => ?_
  obtain ⟨wasOpen, rfl⟩ := atomicObservationV2_eq_ok isObserved
  refine settles_check fun _ isUnrouted => ?_
  obtain ⟨isSameSlot, noRoute⟩ := not_or.mp (rejectIf_eq_ok.mp isUnrouted)
  have sameSlot : slot.observed = source.sealedClaim.slotObservation := Decidable.not_not.mp isSameSlot
  have unselected : selectedRoute slot = none := by simpa using noRoute
  refine settles_check fun total _ => ?_
  refine settles_check fun _ _ => ?_
  refine settles_check fun _ isMatch => ?_
  have sealMatches : slot.sealMatches source.sealedClaim.claim.sealKey source.sealedClaim.claim.sealGeneration none = true := by
    simpa using isMatch
  obtain ⟨sealed, isSealed, -⟩ := sealMatches_iff.mp sealMatches
  refine settles_check fun _ isNew => ?_
  have admits := validateNewFence_eq_ok isNew slot.content rfl
  refine settles_mutation fun observation admission sequence isNext numbered => ?_
  refine settles_modify (settles_borrowed ?_)
  refine settles_last_ok (atomicObservationV2_ok (by exact wasOpen)) ?_
  have edited : Edited registry.config.maxActiveInteractionsPerSlot.get slot.content _ _ :=
    .succeed source.successorIdentity source.successorFence sealed isSealed unselected admits
  refine settles_made registry source.sealedClaim.claim.key (.succeed source.successorIdentity source.successorFence)
    (BorrowedSlot.Changed.made ⟨isNext, edited, fun _ => numbered, rfl⟩ numbered.wasOpen found fun _ => rfl) fun made => ?_
  refine observeSequence_settles (made.sound sound) ?_
  exact settles_pure ⟨made, sameRegistry, sameSlot, sealMatches⟩

end Steps

end Starring.Registry
