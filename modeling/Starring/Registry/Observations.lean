import Starring.Registry.Capabilities

/-! Observations are exact. Every change of a slot is numbered, in the slot and in the registry, so that two moments with
the same numbers have the same content; what was observed once and is found again has not been changed in between. -/

namespace Starring.Registry
open Foundation Convergence RegistryState List RegistrySystem

def RegistryState.contents (self : RegistryState) (key : ServingSlotKeyV1) : Option SlotContent :=
  (self.slots.lookup key).map SlotCell.content

/-- While a slot is open its observations are numbered, and only a change gives it a new number. -/
structure SlotCell.Leads (before after : SlotCell) : Prop where
  wasOpen : after.failedClosed = false → before.failedClosed = false
  observation : after.failedClosed = false → before.observationSequence.get ≤ after.observationSequence.get
  admission : after.failedClosed = false → before.admissionGeneration.get ≤ after.admissionGeneration.get
  content : after.failedClosed = false → before.observationSequence.get = after.observationSequence.get →
    before.content = after.content

namespace RegistryState
variable {registry : RegistryInner} {before after : RegistryState} {key : ServingSlotKeyV1} {edit : SlotEdit}

theorem Failed.contents (failed : before.Failed after) (key : ServingSlotKeyV1) : after.contents key = before.contents key := by
  obtain same | ⟨slot, was, closed⟩ := failed.slots key
  · rw [RegistryState.contents, same]
    rfl
  · rw [RegistryState.contents, RegistryState.contents, was, closed]
    rfl

end RegistryState

/-- What a step that compares the observations of a capability has found. -/
structure Compared (state : RegistryState) (capability : Capability) : Prop where
  slot : ∀ key observed, capability.slotObservation = some (key, observed) → state.Shows key observed ∨
    capability.idleSlot = some key ∧ ∃ slot, state.slots.lookup key = some slot ∧ slot.failedClosed = false ∧
      slot.admissionGeneration = observed.admissionGeneration
  registry : ∀ sequence, capability.registrySequence = some sequence → state.observation.sequence = sequence

section Comparisons
variable {registry : RegistryInner} {state last : RegistryState} {key : ServingSlotKeyV1} {edit : SlotEdit}

theorem RegistryState.lookup_of_sealed {sealed : SlotSealState} (isSealed : (state.slotAt key).sealState = some sealed) :
    state.slots.lookup key = some (state.slotAt key) := by
  cases found : state.slots.lookup key with
  | none =>
    rw [slotAt_of_none found] at isSealed
    cases isSealed
  | some slot => rw [slotAt_of_some found]

theorem RegistryState.lookup_of_current {current : RouteRecord} (here : (state.slotAt key).current = some current) :
    state.slots.lookup key = some (state.slotAt key) := by
  cases found : state.slots.lookup key with
  | none =>
    rw [slotAt_of_none found] at here
    cases here
  | some slot => rw [slotAt_of_some found]

theorem Made.wasOpen (made : Made registry state key edit last) (found : state.slots.lookup key = some (state.slotAt key)) :
    (state.slotAt key).failedClosed = false :=
  (made.changed.renumbered _ found made.isOpen).wasOpen

theorem Compared.of {capability : Capability}
    (slot : capability.slotObservation.elim True fun shown => state.Shows shown.1 shown.2)
    (registry : capability.registrySequence.elim True fun sequence => state.observation.sequence = sequence) :
    Compared state capability where
  slot key observed isObserved := .inl (by rwa [isObserved] at slot)
  registry sequence isSequence := by rwa [isSequence] at registry

theorem SealedRoute.shows {binding : SealedRouteBindingV4} {lifecycle : SlotLifecycleV1} {slot : SlotCell}
    {current : RouteRecord} (route : SealedRoute state binding lifecycle slot current)
    (observed : slot.observed = binding.slotObservation) : state.Shows binding.key binding.slotObservation :=
  ⟨slot, route.found, route.isOpen, observed⟩

/-- A route that was sealed when it was idle is compared by its admission generation. -/
theorem Compared.of_sealed {sealed : RoutedSealedV4} {slot : SlotCell}
    (found : state.slots.lookup sealed.binding.key = some slot) (isOpen : slot.failedClosed = false)
    (same : slot.admissionGeneration = sealed.binding.slotObservation.admissionGeneration) :
    Compared state (.routedSealed sealed) where
  slot key observed isObserved := by
    cases isObserved
    exact .inr ⟨rfl, slot, found, isOpen, same⟩
  registry := nofun

theorem observeRoutedSealedV4_eq_ok (sound : state.Sound registry) {source : RoutedSealedV4}
    {observed : RoutedSealedObservationV4} (told : observeRoutedSealedV4 registry source state = .ok observed) :
    Compared state (.routedSealed source) := by
  simp only [observeRoutedSealedV4, bind_eq_ok, pure_eq_ok] at told
  obtain ⟨_, -, _, -, ⟨shown, sequence, total⟩, valid, -⟩ := told
  obtain ⟨slot, current, route, -, -, -, admission, -⟩ := observeSealedRouteAfterGuardReleases_eq_ok sound valid
  exact .of_sealed route.found route.isOpen admission

theorem observeDrainingRefencedV4_eq_ok {source : DrainingRefencedSealedV4} {observed : DrainingRefencedObservationV4}
    (told : observeDrainingRefencedV4 registry source state = .ok observed) :
    Compared state (.drainingRefenced source) := by
  simp only [observeDrainingRefencedV4, bind_eq_ok] at told
  obtain ⟨_, -, _, -, _, valid, -⟩ := told
  obtain ⟨slot, current, route, same, -⟩ := validateSealedRoute_eq_ok valid
  exact .of (route.shows same) trivial

theorem revalidateEmptyRecoveryCursorV2_eq_ok (sound : state.Sound registry) {cursor : RegistryEmptyRecoveryCursorV2}
    {observed : RegistryRecoveryObservationV2} (told : revalidateEmptyRecoveryCursorV2 registry cursor state = .ok observed) :
    Compared state (.cursor cursor) := by
  simp only [revalidateEmptyRecoveryCursorV2, bind_eq_ok, sound.recovered, Except.ok.injEq, rejectIf_eq_ok, ne_eq,
    Decidable.not_not] at told
  obtain ⟨_, -, _, rfl, _, same, -⟩ := told
  exact .of trivial same

theorem Command.compared (sound : state.Sound registry) {command : Command} {answer : command.Answer}
    (called : command.perform registry state = (.ok answer, last)) :
    ∀ capability ∈ command.uses, Compared state capability := by
  intro capability mem
  cases command with
  | install | activate | activateWithSequenceV2 | beginDrain | beginDrainWithAuthority | remove | removeWithAuthority
  | advanceAuthority | admitInteraction | admitAtGenerationV2 | sealDrainClaimV2 => cases mem
  | unsealDrainClaimV2 claim =>
    obtain rfl : capability = .claim claim := mem_singleton.mp mem
    exact .of trivial trivial
  | sealEmptyRecoveryDrainClaimV2 cursor key sealKey =>
    obtain rfl : capability = .cursor cursor := mem_singleton.mp mem
    exact .of trivial ((sealEmptyRecoveryDrainClaimV2_settles sound).of_ok called).1.symm
  | unsealEmptyRecoveryDrainClaimV2 sealed =>
    obtain ⟨made, sameRegistry, sameSlot, -, isMatch, -⟩ := (unsealEmptyRecoveryDrainClaimV2_settles sound).of_ok called
    obtain ⟨_, isSealed, -⟩ := SlotCell.sealMatches_iff.mp isMatch
    have found := lookup_of_sealed isSealed
    obtain rfl : capability = .sealedEmpty sealed := mem_singleton.mp mem
    exact .of ⟨_, found, made.wasOpen found, sameSlot⟩ (congrArg RegistryRecoveryObservationV2.observationSequence sameRegistry)
  | sealRoutedWithIntentV4 source intentId =>
    obtain ⟨sealed, current, made, only, -, -, same, -⟩ := (sealRoutedWithIntentV4_settles sound).of_ok called
    have found := lookup_of_current only.1
    obtain rfl : capability = .routedObserved source := mem_singleton.mp mem
    exact .of ⟨_, found, made.wasOpen found, same⟩ trivial
  | rollbackRoutedSealStateV4 source =>
    obtain ⟨made, isMatch, admission, -⟩ := (rollbackRoutedSealStateV4_settles sound).of_ok called
    obtain ⟨_, isSealed, -⟩ := SlotCell.sealMatches_iff.mp isMatch
    have found := lookup_of_sealed isSealed
    obtain rfl : capability = .routedSealed source := mem_singleton.mp mem
    exact .of_sealed found (made.wasOpen found) admission
  | refenceRoutedClaimStateV4 source provenance refencedAt =>
    obtain ⟨-, slot, current, route, same, -⟩ := (refenceRoutedClaimStateV4_settles sound).of_ok called
    obtain rfl : capability = .routedClaimed source := mem_singleton.mp mem
    exact .of (route.shows same) trivial
  | beginDrainRefencedStateV4 source =>
    obtain ⟨-, slot, current, route, same, -⟩ := (beginDrainRefencedStateV4_settles sound).of_ok called
    obtain rfl : capability = .durablyRefenced source := mem_singleton.mp mem
    exact .of (route.shows same) trivial
  | removeDrainingRefencedStateV4 source observation =>
    obtain ⟨slot, current, route, same, -⟩ := (removeDrainingRefencedStateV4_settles sound).of_ok called
    obtain rfl : capability = .drainingRefenced source := mem_singleton.mp mem
    exact .of (route.shows same) trivial
  | consumeRouteAbsentWithDigestV4 source digest =>
    obtain ⟨-, absent, -⟩ := (consumeRouteAbsentWithDigestV4_settles sound).of_ok called
    obtain rfl : capability = .routeAbsent source := mem_singleton.mp mem
    exact .of absent.shows trivial
  | sealEmptySuccessionV4 cursor key intentId predecessorRoute successorIdentity successorFence =>
    obtain rfl : capability = .cursor cursor := mem_singleton.mp mem
    exact .of trivial ((sealEmptySuccessionV4_settles sound).of_ok called).1.symm
  | consumeEmptySuccessionWithDigestV4 source digest =>
    obtain ⟨made, sameRegistry, sameSlot, isMatch⟩ := (consumeEmptySuccessionWithDigestV4_settles sound).of_ok called
    obtain ⟨_, isSealed, -⟩ := SlotCell.sealMatches_iff.mp isMatch
    have found := lookup_of_sealed isSealed
    obtain rfl : capability = .emptySuccession source := mem_singleton.mp mem
    exact .of ⟨_, found, made.wasOpen found, sameSlot⟩ (congrArg RegistryRecoveryObservationV2.observationSequence sameRegistry)

theorem Query.compared (sound : state.Sound registry) {query : Query} {answer : query.Answer}
    (told : query.ask registry state = .ok answer) : ∀ capability ∈ query.uses, Compared state capability := by
  intro capability mem
  cases query with
  | observeDrain | servingSnapshot | routeStatus | routeWitness | atomicObservationV2 | recoveryObservationV2 | emptyCursor
  | observeRoutedV4 | recoverRoutedClaimedStateV4 | recoverDurableRefenceStateV4 | recoverRouteAbsentStateV4 => cases mem
  | revalidateEmptyRecoveryCursorV2 cursor =>
    obtain rfl : capability = .cursor cursor := mem_singleton.mp mem
    exact revalidateEmptyRecoveryCursorV2_eq_ok sound told
  | observeRoutedSealedV4 source =>
    obtain rfl : capability = .routedSealed source := mem_singleton.mp mem
    exact observeRoutedSealedV4_eq_ok sound told
  | bindRoutedClaimWithDigestV4 source claimFence digest =>
    obtain ⟨-, -, slot, current, route, admission, -⟩ := bindRoutedClaimWithDigestV4_eq_ok sound told
    obtain rfl : capability = .routedSealed source := mem_singleton.mp mem
    exact .of_sealed route.found route.isOpen admission
  | bindDurableRefenceWithDigestV4 source digest =>
    obtain ⟨-, -, slot, current, route, same⟩ := bindDurableRefenceWithDigestV4_eq_ok told
    obtain rfl : capability = .locallyRefenced source := mem_singleton.mp mem
    exact .of (route.shows same) trivial
  | observeDrainingRefencedV4 source =>
    obtain rfl : capability = .drainingRefenced source := mem_singleton.mp mem
    exact observeDrainingRefencedV4_eq_ok told
  | checkpointLocallyRefencedSealV4 source =>
    obtain ⟨-, -, slot, current, route, same⟩ := checkpointLocallyRefencedSealV4_eq_ok told
    obtain rfl : capability = .locallyRefenced source := mem_singleton.mp mem
    exact .of (route.shows same) trivial
  | checkpointRouteAbsentSealV4 source =>
    obtain ⟨-, -, slot, absent⟩ := checkpointRouteAbsentSealV4_eq_ok told
    obtain rfl : capability = .routeAbsent source := mem_singleton.mp mem
    exact .of absent.shows trivial
  | resumeLocallyRefencedSealedV4 claim authorization | resumeDurablyRefencedSealedV4 claim authorization
  | resumeRouteAbsentSealedV4 claim authorization =>
    obtain rfl : capability = .claim claim := mem_singleton.mp mem
    exact .of trivial trivial

end Comparisons

def Call.uses : Call → List Capability
  | .order command => command.uses
  | .ask query => query.uses
  | .drop _ => []

theorem Edited.idle {limit : Nat} {before after : SlotContent} {edit : SlotEdit} (edited : Edited limit before edit after)
    (counts : edit.counts = true) (isSealed : before.sealState.isSome = true) {current : RouteRecord}
    (only : before.OnlyIdle current) : after = before := by
  cases edited with
  | admitInteraction _ unsealed =>
    rw [unsealed] at isSealed
    cases isSealed
  | releaseCurrent current' found =>
    cases only.1.symm.trans found
    have released : current.released = current := by
      rw [RouteRecord.released, only.2.2.2]
      cases current
      cases only.2.2.2
      rfl
    rw [released, ← found]
  | releaseRetired incarnation => rw [only.2.2.1, map_nil, ← only.2.2.1]
  | _ => cases counts

namespace RegistrySystem
variable {registry : RegistryInner} {key : ServingSlotKeyV1}

variable {first calls : List Call}

theorem sequence_forward (registry : RegistryInner) (isPrefix : first <+: calls) :
    (after registry first).state.observation.sequence.get ≤
        (after registry calls).state.observation.sequence.get ∧
      ((after registry first).state.observation.sequence.get =
          (after registry calls).state.observation.sequence.get →
        ∀ key, (after registry first).state.contents key =
          (after registry calls).state.contents key) := by
  refine forward (motive := fun calls =>
    (after registry first).state.observation.sequence.get ≤
        (after registry calls).state.observation.sequence.get ∧
      ((after registry first).state.observation.sequence.get =
          (after registry calls).state.observation.sequence.get →
        ∀ key, (after registry first).state.contents key =
          (after registry calls).state.contents key)) isPrefix ⟨Nat.le_refl _, fun _ _ => rfl⟩ ?_
  intro past call _ _ ⟨le, same⟩
  obtain failed | ⟨other, edit, -, changed⟩ := (step_after registry past call).moves (sound_after registry past)
  · refine ⟨le.trans failed.observation.1, fun equal key => ?_⟩
    have later := failed.observation.1
    rw [failed.contents key]
    exact same (by omega) key
  · have next := changed.observation.2.2
    exact ⟨by omega, fun equal => by omega⟩

variable {slot : SlotCell}

theorem leads_forward (isPrefix : first <+: calls)
    (found : (after registry first).state.slots.lookup key = some slot) :
    ∃ last, (after registry calls).state.slots.lookup key = some last ∧ slot.Leads last := by
  refine forward (motive := fun calls => ∃ last, (after registry calls).state.slots.lookup key = some last ∧
    slot.Leads last) isPrefix ⟨slot, found, id, fun _ => Nat.le_refl _, fun _ => Nat.le_refl _, fun _ _ => rfl⟩ ?_
  rintro past call - - ⟨last, here, leads⟩
  obtain failed | ⟨other, edit, -, changed⟩ := (step_after registry past call).moves (sound_after registry past)
  · obtain same | ⟨_, was, closed⟩ := failed.slots key
    · exact ⟨last, same.trans here, leads⟩
    · exact ⟨_, closed, nofun, nofun, nofun, nofun⟩
  · by_cases same : key = other
    · subst same
      refine ⟨_, changed.present, ?_⟩
      have numbered (isOpen) := changed.renumbered last here isOpen
      refine ⟨fun isOpen => leads.wasOpen (numbered isOpen).wasOpen, fun isOpen => ?_, fun isOpen => ?_, fun isOpen equal => ?_⟩
      · have before := leads.observation (numbered isOpen).wasOpen
        rw [(numbered isOpen).observation]
        omega
      · have before := leads.admission (numbered isOpen).wasOpen
        rw [(numbered isOpen).admission]
        omega
      · have before := leads.observation (numbered isOpen).wasOpen
        rw [(numbered isOpen).observation] at equal
        omega
    · exact ⟨last, (changed.others key same).trans here, leads⟩

/-- An idle and sealed slot stays as it is until its admission generation changes. -/
theorem rests_forward (isPrefix : first <+: calls)
    (found : (after registry first).state.slots.lookup key = some slot)
    (isSealed : slot.sealState.isSome = true) {current : RouteRecord} (only : slot.content.OnlyIdle current) :
    ∃ last, (after registry calls).state.slots.lookup key = some last ∧ slot.Leads last ∧
      (last.failedClosed = false → slot.admissionGeneration.get = last.admissionGeneration.get →
        slot.content = last.content) := by
  refine forward (motive := fun calls => ∃ last, (after registry calls).state.slots.lookup key = some last ∧
    slot.Leads last ∧ (last.failedClosed = false → slot.admissionGeneration.get = last.admissionGeneration.get →
      slot.content = last.content)) isPrefix ?_ ?_
  · obtain ⟨last, here, leads⟩ := leads_forward (prefix_refl first) found
    cases found.symm.trans here
    exact ⟨slot, here, leads, fun _ _ => rfl⟩
  rintro past call later - ⟨last, here, -, rests⟩
  obtain ⟨next, there, leads⟩ := leads_forward (later.trans (prefix_append past [call])) found
  refine ⟨next, there, leads, fun isOpen equal => ?_⟩
  obtain ⟨_, was, leadsLast⟩ := leads_forward later found
  cases here.symm.trans was
  obtain failed | ⟨other, edit, -, changed⟩ := (step_after registry past call).moves (sound_after registry past)
  · obtain same | ⟨_, -, closed⟩ := failed.slots key
    · cases there.symm.trans (same.trans here)
      exact rests isOpen equal
    · cases there.symm.trans closed
      cases isOpen
  · by_cases same : key = other
    · subst same
      have isNext := changed.present
      obtain rfl : next = _ := Option.some.inj (there.symm.trans isNext)
      have numbered := changed.renumbered last here isOpen
      have before := leadsLast.admission numbered.wasOpen
      rw [numbered.admission] at equal
      cases counts : edit.counts with
      | false =>
        rw [counts] at equal
        simp only [Bool.false_eq_true, if_false] at equal
        omega
      | true =>
        rw [counts] at equal
        have edited := changed.edited
        rw [slotAt_of_some here, ← rests numbered.wasOpen equal] at edited
        exact (edited.idle counts isSealed only).symm
    · cases there.symm.trans ((changed.others key same).trans here)
      exact rests isOpen equal

/-- Nothing has happened to the slot from the one moment to the other. -/
def Unchanged (registry : RegistryInner) (key : ServingSlotKeyV1) (taken calls : List Call) : Prop :=
  ∀ middle, taken <+: middle → middle <+: calls →
    (after registry middle).state.contents key = (after registry calls).state.contents key

variable {taken calls : List Call}

theorem unchanged_of_sequence
    (same : (after registry taken).state.observation.sequence =
      (after registry calls).state.observation.sequence) : Unchanged registry key taken calls := by
  intro middle later earlier
  have below := (sequence_forward registry later).1
  obtain ⟨above, contents⟩ := sequence_forward registry earlier
  have equal := congrArg NonZeroU64.get same
  exact contents (by omega) key

theorem unchanged_of_slots {last : SlotCell}
    (found : (after registry taken).state.slots.lookup key = some slot)
    (here : (after registry calls).state.slots.lookup key = some last)
    (isOpen : last.failedClosed = false) (same : slot.observationSequence = last.observationSequence) :
    Unchanged registry key taken calls := by
  intro middle later earlier
  obtain ⟨between, isBetween, leads⟩ := leads_forward later found
  obtain ⟨_, isLast, leads'⟩ := leads_forward earlier isBetween
  cases here.symm.trans isLast
  have above := leads'.observation isOpen
  have below := leads.observation (leads'.wasOpen isOpen)
  have equal := congrArg NonZeroU64.get same
  rw [RegistryState.contents, RegistryState.contents, isBetween, here]
  exact congrArg some (leads'.content isOpen (by omega))

variable {observed : SlotAtomicObservationV2}

theorem unchanged_of_shows (was : (after registry taken).state.Shows key observed)
    (shows : (after registry calls).state.Shows key observed) : Unchanged registry key taken calls := by
  obtain ⟨slot, found, -, rfl⟩ := was
  obtain ⟨last, here, isOpen, same⟩ := shows
  exact unchanged_of_slots found here isOpen (congrArg SlotAtomicObservationV2.observationSequence same.symm)

theorem unchanged_of_rests {last : SlotCell} (isPrefix : taken <+: calls)
    (found : (after registry taken).state.slots.lookup key = some slot)
    (isSealed : slot.sealState.isSome = true) {current : RouteRecord} (only : slot.content.OnlyIdle current)
    (here : (after registry calls).state.slots.lookup key = some last)
    (isOpen : last.failedClosed = false) (same : slot.admissionGeneration = last.admissionGeneration) :
    Unchanged registry key taken calls := by
  intro middle later earlier
  obtain ⟨between, isBetween, leads, rests⟩ := rests_forward later found isSealed only
  obtain ⟨_, isLast, leads'⟩ := leads_forward earlier isBetween
  cases here.symm.trans isLast
  obtain ⟨_, isLast, -, restsLast⟩ := rests_forward isPrefix found isSealed only
  cases here.symm.trans isLast
  have above := leads'.admission isOpen
  have below := leads.admission (leads'.wasOpen isOpen)
  have equal := congrArg NonZeroU64.get same
  rw [RegistryState.contents, RegistryState.contents, isBetween, here]
  exact congrArg some ((rests (leads'.wasOpen isOpen) (by omega)).symm.trans (restsLast isOpen equal))

variable {capability : Capability}

theorem observation_taken (registry : RegistryInner) (calls : List Call)
    (mem : capability ∈ (after registry calls).issued) (own : capability.registry = registry.lifetime)
    (stored : capability.slotObservation = some (key, observed)) :
    ∃ taken, taken <+: calls ∧ (after registry taken).state.Shows key observed := by
  induction calls using List.reverseRecOn generalizing capability with
  | nil => cases mem
  | append_singleton calls call ih =>
    have earlier {source : Capability} (mem : source ∈ (after registry calls).issued)
        (own : source.registry = registry.lifetime) (stored : source.slotObservation = some (key, observed)) :
        ∃ taken, taken <+: calls ++ [call] ∧ (after registry taken).state.Shows key observed := by
      obtain ⟨taken, isPrefix, shows⟩ := ih mem own stored
      exact ⟨taken, isPrefix.trans (prefix_append _ _), shows⟩
    obtain old | granted :=
      (step_after registry calls call).granted (sound_after registry calls) (allGenuine_after registry calls) mem own
    · exact earlier old own stored
    · obtain shows | ⟨source, held, isOurs, inherited⟩ := granted.observed key observed stored
      · exact ⟨_, prefix_refl _, shows⟩
      · exact earlier held isOurs inherited

theorem idle_taken (registry : RegistryInner) (calls : List Call)
    (mem : capability ∈ (after registry calls).issued) (own : capability.registry = registry.lifetime)
    (stored : capability.slotObservation = some (key, observed)) (isIdle : capability.idleSlot = some key) :
    ∃ taken, taken <+: calls ∧ (after registry taken).state.Shows key observed ∧
      (∃ current, (contentAt registry taken key).OnlyIdle current) ∧
      (contentAt registry taken key).sealState.isSome = true := by
  induction calls using List.reverseRecOn with
  | nil => cases mem
  | append_singleton calls call ih =>
    obtain old | granted :=
      (step_after registry calls call).granted (sound_after registry calls) (allGenuine_after registry calls) mem own
    · obtain ⟨taken, isPrefix, rest⟩ := ih old
      exact ⟨taken, isPrefix.trans (prefix_append _ _), rest⟩
    · obtain ⟨only, isSealed, shows⟩ := granted.idle key isIdle
      exact ⟨_, prefix_refl _, shows observed stored, only, isSealed⟩

theorem sequence_taken (registry : RegistryInner) (calls : List Call)
    (mem : capability ∈ (after registry calls).issued) (own : capability.registry = registry.lifetime)
    {sequence : NonZeroU64} (stored : capability.registrySequence = some sequence) :
    ∃ taken, taken <+: calls ∧ (after registry taken).state.observation.sequence = sequence := by
  induction calls using List.reverseRecOn with
  | nil => cases mem
  | append_singleton calls call ih =>
    obtain old | granted :=
      (step_after registry calls call).granted (sound_after registry calls) (allGenuine_after registry calls) mem own
    · obtain ⟨taken, isPrefix, same⟩ := ih old
      exact ⟨taken, isPrefix.trans (prefix_append _ _), same⟩
    · exact ⟨_, prefix_refl _, granted.counted sequence stored⟩

theorem compared_of_exec {system : RegistrySystem} (sound : system.state.Sound registry) {call : Call}
    (succeeds : (exec registry call system).1 = true) : ∀ capability ∈ call.uses, Compared system.state capability := by
  cases call with
  | drop guard =>
    intro capability mem
    cases mem
  | order command =>
    rw [exec] at succeeds
    split at succeeds
    · rcases called : command.perform registry system.state with ⟨error | answer, state⟩
      · rw [called] at succeeds
        cases succeeds
      · exact command.compared sound called
    · cases succeeds
  | ask query =>
    rw [exec] at succeeds
    split at succeeds
    · cases told : query.ask registry system.state with
      | error error =>
        rw [told] at succeeds
        cases succeeds
      | ok answer => exact query.compared sound told
    · cases succeeds

theorem observed_of_atomicObservationV2At {state : RegistryState} {expected : Option SlotAtomicObservationV2}
    (told : atomicObservationV2At key state = .ok expected) :
    expected = none ∧ state.slots.lookup key = none ∨
      ∃ slot, state.slots.lookup key = some slot ∧ slot.failedClosed = false ∧ expected = some slot.observed := by
  simp only [atomicObservationV2At, check_bind_eq_ok, atomicObservationOf] at told
  cases found : state.slots.lookup key with
  | none =>
    simp only [found, pure_eq_ok] at told
    exact .inl ⟨told.2.symm, rfl⟩
  | some slot =>
    simp only [found] at told
    cases isObserved : atomicObservationV2 slot with
    | error error =>
      rw [isObserved] at told
      cases told.2
    | ok observed =>
      obtain ⟨isOpen, rfl⟩ := atomicObservationV2_eq_ok isObserved
      rw [isObserved] at told
      cases told.2
      exact .inr ⟨slot, rfl, isOpen, rfl⟩

theorem unchanged_of_sealDrainClaimV2 {sealKey : SlotSealKeyV2}
    {expected : Option SlotAtomicObservationV2} {claim : SlotDrainClaimSealV2 × SlotAtomicObservationV2} {last : RegistryState}
    (told : atomicObservationV2At key (after registry taken).state = .ok expected)
    (called : sealDrainClaimV2 registry key sealKey expected (after registry calls).state = (.ok claim, last)) :
    Unchanged registry key taken calls := by
  have same := (sealDrainClaimV2_settles.of_ok called).1
  obtain ⟨rfl, -⟩ | ⟨slot, found, isOpen, rfl⟩ := observed_of_atomicObservationV2At told
  · have absent : (after registry calls).state.slots.lookup key = none := by simpa using same.symm
    intro middle later earlier
    rw [RegistryState.contents, RegistryState.contents, absent]
    cases here : (after registry middle).state.slots.lookup key with
    | none => rfl
    | some slot =>
      obtain ⟨_, there, -⟩ := leads_forward earlier here
      cases absent.symm.trans there
  · obtain ⟨now, here, shows⟩ : ∃ now, (after registry calls).state.slots.lookup key = some now ∧
        now.observed = slot.observed := by simpa using same.symm
    obtain ⟨-, sealed, made, -⟩ := sealDrainClaimV2_settles.of_ok called
    have isOpen' := (made.changed.renumbered now here made.isOpen).wasOpen
    exact unchanged_of_shows ⟨slot, found, isOpen, rfl⟩ ⟨now, here, isOpen', shows⟩

/-- Equal numbers mean equal content, and what is compared with an observation has not changed since it was taken. -/
theorem observations_are_exact (registry : RegistryInner) (calls : List Call) :
    let moment (calls : List Call) := (after registry calls).state
    (∀ first, first <+: calls → (moment first).observation.sequence = (moment calls).observation.sequence →
      ∀ key, (moment first).contents key = (moment calls).contents key) ∧
    (∀ first, first <+: calls → ∀ key slot last, (moment first).slots.lookup key = some slot →
      (moment calls).slots.lookup key = some last → slot.failedClosed = false → last.failedClosed = false →
      slot.observationSequence = last.observationSequence → slot.content = last.content) ∧
    (∀ taken, taken <+: calls → ∀ key sealKey expected claim last,
      atomicObservationV2At key (moment taken) = .ok expected →
      sealDrainClaimV2 registry key sealKey expected (moment calls) = (.ok claim, last) →
      ∀ middle, taken <+: middle → middle <+: calls → (moment middle).contents key = (moment calls).contents key) ∧
    ∀ call, (exec registry call (after registry calls)).1 = true →
      ∀ capability ∈ Call.uses call, capability.registry = registry.lifetime →
      ∀ first, first <+: calls → capability ∈ (after registry first).issued →
      (∀ key observed, capability.slotObservation = some (key, observed) →
        ∃ taken, taken <+: first ∧ (moment taken).Shows key observed ∧
          ∀ middle, taken <+: middle → middle <+: calls → (moment middle).contents key = (moment calls).contents key) ∧
      ∀ sequence, capability.registrySequence = some sequence →
        ∃ taken, taken <+: first ∧ (moment taken).observation.sequence = sequence ∧
          ∀ middle, taken <+: middle → middle <+: calls →
            ∀ key, (moment middle).contents key = (moment calls).contents key := by
  intro moment
  refine ⟨fun first isPrefix same => (sequence_forward registry isPrefix).2 (congrArg NonZeroU64.get same),
    fun first isPrefix key slot last found here _ isOpen same => ?_,
    fun taken isPrefix key sealKey expected claim last told called => unchanged_of_sealDrainClaimV2 told called,
    fun call succeeds capability mem own first isPrefix held => ?_⟩
  · have contents := unchanged_of_slots found here isOpen same first (prefix_refl _) isPrefix
    rw [RegistryState.contents, RegistryState.contents, found, here] at contents
    exact Option.some.inj contents
  · have compared := compared_of_exec (sound_after registry calls) succeeds capability mem
    refine ⟨fun key observed stored => ?_, fun sequence stored => ?_⟩
    · obtain shows | ⟨isIdle, last, here, isOpen, sameAdmission⟩ := compared.slot key observed stored
      · obtain ⟨taken, before, was⟩ := observation_taken registry first held own stored
        exact ⟨taken, before, was, unchanged_of_shows was shows⟩
      · obtain ⟨taken, before, was, ⟨current, only⟩, isSealed⟩ := idle_taken registry first held own stored isIdle
        refine ⟨taken, before, was, ?_⟩
        obtain ⟨slot, found, -, rfl⟩ := was
        rw [contentAt, slotAt_of_some found] at only isSealed
        exact unchanged_of_rests (before.trans isPrefix) found isSealed only here isOpen sameAdmission.symm
    · obtain ⟨taken, before, same⟩ := sequence_taken registry first held own stored
      refine ⟨taken, before, same, fun middle later earlier key => ?_⟩
      exact unchanged_of_sequence (same.trans (compared.registry sequence stored).symm) middle later earlier

end RegistrySystem

end Starring.Registry
