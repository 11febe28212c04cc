import Starring.Registry.Steps

/-! Seals of slots. A sealed slot is left alone by everything but the drain it is sealed for, until its seal is taken off
with a capability that names exactly this seal; no later seal of the slot has the same number. -/

namespace Starring.Registry
open Foundation Convergence RegistrySystem

namespace Command

/-- The slot that has to be unsealed for a command. -/
def excluded : Command → Option ServingSlotKeyV1
  | .install key _ _ | .admitInteraction key | .admitAtGenerationV2 key _ | .sealDrainClaimV2 key _ _
  | .sealEmptyRecoveryDrainClaimV2 _ key _ | .sealEmptySuccessionV4 _ key _ _ _ _ => some key
  | .activate token _ | .activateWithSequenceV2 token _ | .beginDrain token | .beginDrainWithAuthority _ token | .remove token
  | .removeWithAuthority _ token | .advanceAuthority token _ _ => some token.key
  | .sealRoutedWithIntentV4 source _ => some source.binding.key
  | _ => none

/-- The seal that a command takes off: its slot, its key, its generation and the route that it is for now. -/
def unseals : Command → Option (ServingSlotKeyV1 × SlotSealKeyV2 × NonZeroU64 × Option SlotRouteWitnessV1)
  | .unsealDrainClaimV2 capability =>
    some (capability.key, capability.sealKey, capability.sealGeneration, capability.route)
  | .unsealEmptyRecoveryDrainClaimV2 capability =>
    some (capability.claim.key, capability.claim.sealKey, capability.claim.sealGeneration, capability.claim.route)
  | .rollbackRoutedSealStateV4 source =>
    some (source.binding.key, source.binding.sealKey, source.binding.sealGeneration, some source.binding.currentRoute)
  | .consumeRouteAbsentWithDigestV4 source _ =>
    some (source.binding.key, source.binding.sealKey, source.binding.sealGeneration, none)
  | .consumeEmptySuccessionWithDigestV4 source _ =>
    some (source.sealedClaim.claim.key, source.sealedClaim.claim.sealKey, source.sealedClaim.claim.sealGeneration, none)
  | _ => none

variable {registry : RegistryInner} {state last : RegistryState} {key : ServingSlotKeyV1}

theorem excluded_unsealed (sound : state.Sound registry) {command : Command} {answer : command.Answer}
    (excludes : command.excluded = some key) (called : command.perform registry state = (.ok answer, last)) :
    (state.slotAt key).sealState = none := by
  cases command with
  | install => cases excludes; exact (install_settles.of_ok called).1
  | activate => cases excludes; exact (activate_settles.of_ok called).1
  | activateWithSequenceV2 => cases excludes; exact (activateWithSequenceV2_settles.of_ok called).1
  | beginDrain | beginDrainWithAuthority => cases excludes; exact (beginDrainWithAuthority_settles.of_ok called).1
  | remove => cases excludes; exact (remove_settles.of_ok called).1
  | removeWithAuthority => cases excludes; exact (removeWithAuthority_settles.of_ok called).1
  | advanceAuthority => cases excludes; exact (advanceAuthority_settles.of_ok called).1
  | admitInteraction => cases excludes; exact (admitInteraction_settles.of_ok called).1
  | admitAtGenerationV2 => cases excludes; exact (admitAtGenerationV2_settles.of_ok called).1
  | sealDrainClaimV2 =>
    cases excludes
    obtain ⟨-, sealed, made, -⟩ := sealDrainClaimV2_settles.of_ok called
    exact made.changed.edited.of_close.1
  | sealEmptyRecoveryDrainClaimV2 =>
    cases excludes
    obtain ⟨-, -, sealed, made, -⟩ := (sealEmptyRecoveryDrainClaimV2_settles sound).of_ok called
    exact made.changed.edited.of_close.1
  | sealRoutedWithIntentV4 =>
    cases excludes
    obtain ⟨sealed, current, made, -⟩ := (sealRoutedWithIntentV4_settles sound).of_ok called
    exact made.changed.edited.of_close.1
  | sealEmptySuccessionV4 =>
    cases excludes
    obtain ⟨-, -, sealed, made, -⟩ := (sealEmptySuccessionV4_settles sound).of_ok called
    exact made.changed.edited.of_close.1
  | _ => cases excludes

end Command

def SlotEdit.unseals : SlotEdit → Bool
  | .reopen | .succeed _ _ => true
  | _ => false

namespace Edited
variable {limit : Nat} {before after : SlotContent} {edit : SlotEdit}

theorem sealed_cases (edited : Edited limit before edit after) {sealed : SlotSealState} (found : before.sealState = some sealed) :
    (∃ route, after.sealState = some { sealed with route }) ∨
      after.sealState = none ∧ edit.unseals = true := by
  cases edited with
  | refence current sealed' fencingToken only serving atHighWater here
  | drainSealed current sealed' only serving atHighWater here
  | removeSealed current sealed' only draining atHighWater here =>
    cases found.symm.trans here
    exact .inl ⟨_, rfl⟩
  | close sealed' unsealed => cases unsealed.symm.trans found
  | reopen | succeed => exact .inr ⟨rfl, rfl⟩
  | _ => exact .inl ⟨sealed.route, found⟩

theorem unsealed_cases (edited : Edited limit before edit after) (unsealed : before.sealState = none)
    {sealed : SlotSealState} (found : after.sealState = some sealed) : edit = .close sealed := by
  cases edited with
  | close sealed' =>
    cases found
    rfl
  | refence _ _ _ _ _ _ here | drainSealed _ _ _ _ _ here | removeSealed _ _ _ _ _ here =>
    cases unsealed.symm.trans here
  | reopen => cases found
  | succeed => cases found
  | _ => cases unsealed.symm.trans found

end Edited

theorem Makes.unseals {registry : RegistryInner} {state : RegistryState} {command : Command} {key : ServingSlotKeyV1}
    {edit : SlotEdit} (makes : Makes registry state command key edit)
    (isUnseal : edit.unseals = true) :
    ∃ sealed, (state.slotAt key).sealState = some sealed ∧
      command.unseals = some (key, sealed.sealKey, sealed.sealGeneration, sealed.route) := by
  have named {sealKey : SlotSealKeyV2} {generation : NonZeroU64} {route : Option SlotRouteWitnessV1}
      (isMatch : (state.slotAt key).sealMatches sealKey generation route = true)
      (unseals : command.unseals = some (key, sealKey, generation, route)) :
      ∃ sealed, (state.slotAt key).sealState = some sealed ∧
        command.unseals = some (key, sealed.sealKey, sealed.sealGeneration, sealed.route) := by
    obtain ⟨sealed, isSealed, rfl, rfl, rfl⟩ := SlotCell.sealMatches_iff.mp isMatch
    exact ⟨sealed, isSealed, unseals⟩
  cases makes with
  | unsealDrainClaimV2 capability isMatch | rollbackRoutedSealStateV4 source isMatch
  | consumeEmptySuccessionWithDigestV4 source digest isMatch => exact named isMatch rfl
  | unsealEmptyRecoveryDrainClaimV2 capability noRoute isMatch => exact named isMatch (by rw [← noRoute]; rfl)
  | consumeRouteAbsentWithDigestV4 source digest own absent => exact named absent.sealed rfl
  | remove token outcome edit removal | removeWithAuthority authority target outcome edit removal =>
    cases removal <;> cases isUnseal
  | advanceAuthority token identity next edit isAdvance => obtain rfl | rfl := isAdvance <;> cases isUnseal
  | _ => cases isUnseal

namespace SlotCell
variable {before after : SlotCell}

/-- No seal has a later number than the last one. -/
def SealsNumbered (slot : SlotCell) : Prop :=
  ∀ sealed, slot.sealState = some sealed → sealed.sealGeneration.get ≤ slot.nextSealGeneration

/-- All seals from now on have later numbers than this one. -/
structure SealsAbove (generation : Nat) (slot : SlotCell) : Prop where
  next : generation ≤ slot.nextSealGeneration
  sealed : ∀ sealed, slot.sealState = some sealed → generation < sealed.sealGeneration.get

end SlotCell

/-- An edit keeps the number of a seal or gives the next one to a new seal. -/
theorem RegistryState.Changed.seals {registry : RegistryInner} {before after : RegistryState} {key : ServingSlotKeyV1}
    {edit : SlotEdit} (changed : before.Changed registry key edit after) :
    (before.slotAt key).nextSealGeneration ≤ (after.slotAt key).nextSealGeneration ∧
      ∀ sealed, (after.slotAt key).sealState = some sealed →
        (∃ old, (before.slotAt key).sealState = some old ∧ old.sealGeneration = sealed.sealGeneration ∧
          old.sourceRoute = sealed.sourceRoute) ∨
          sealed.sealGeneration.get = (before.slotAt key).nextSealGeneration + 1 ∧
            (after.slotAt key).nextSealGeneration = (before.slotAt key).nextSealGeneration + 1 := by
  have numbers := changed.sealed
  refine ⟨?_, fun sealed found => ?_⟩
  · unfold SlotEdit.NumbersSeal at numbers
    split at numbers <;> omega
  · cases was : (before.slotAt key).sealState with
    | none =>
      obtain rfl := changed.edited.unsealed_cases was found
      exact .inr numbers
    | some old =>
      obtain ⟨route, here⟩ | ⟨here, -⟩ := changed.edited.sealed_cases was
      · cases here.symm.trans found
        exact .inl ⟨old, rfl, rfl, rfl⟩
      · cases here.symm.trans found

namespace RegistrySystem
variable {registry : RegistryInner} {call : Call} {key : ServingSlotKeyV1}

theorem sealsNumbered_after (registry : RegistryInner) (calls : List Call) (key : ServingSlotKeyV1) :
    ((after registry calls).state.slotAt key).SealsNumbered := by
  induction calls using List.reverseRecOn with
  | nil =>
    rw [show ((after registry []).state.slotAt key) = .fresh from
      RegistryState.slotAt_of_none (lookup_fresh key)]
    exact nofun
  | append_singleton calls call ih =>
    obtain (same | closed) | ⟨edit, -, changed⟩ := slotAt_step registry calls call key
    · rw [same]
      exact ih
    · rw [closed]
      exact ih
    · obtain ⟨le, seals⟩ := changed.seals
      intro sealed found
      obtain ⟨old, was, same, -⟩ | ⟨isNext, next⟩ := seals sealed found
      · rw [← same]
        exact (ih old was).trans le
      · rw [isNext, next]

variable {first calls : List Call}

theorem nextSealGeneration_le (isPrefix : first <+: calls) :
    ((after registry first).state.slotAt key).nextSealGeneration ≤
      ((after registry calls).state.slotAt key).nextSealGeneration := by
  refine forward (motive := fun calls => ((after registry first).state.slotAt key).nextSealGeneration ≤
    ((after registry calls).state.slotAt key).nextSealGeneration) isPrefix (Nat.le_refl _)
    fun past call _ _ le => le.trans ?_
  obtain (same | closed) | ⟨edit, -, changed⟩ := slotAt_step registry past call key
  · rw [same]
  · rw [closed]
  · exact changed.seals.1

theorem sealsAbove_forward (isPrefix : first <+: calls) {generation : Nat}
    (start : ((after registry first).state.slotAt key).SealsAbove generation) :
    ((after registry calls).state.slotAt key).SealsAbove generation := by
  refine forward (motive := fun calls => ((after registry calls).state.slotAt key).SealsAbove generation)
    isPrefix start fun past call _ _ above => ?_
  obtain (same | closed) | ⟨edit, -, changed⟩ := slotAt_step registry past call key
  · rw [same]
    exact above
  · rw [closed]
    exact ⟨above.next, above.sealed⟩
  · obtain ⟨le, seals⟩ := changed.seals
    refine ⟨above.next.trans le, fun sealed found => ?_⟩
    obtain ⟨old, was, same, -⟩ | ⟨isNext, -⟩ := seals sealed found
    · rw [← same]
      exact above.sealed old was
    · rw [isNext]
      exact Nat.lt_succ_of_le above.next

variable {sealed : SlotSealState}

/-- A seal that was put on after another one had been taken off has a later number. -/
theorem sealGeneration_lt {middle : List Call} (earlier : first <+: middle) (later : middle <+: calls)
    {next : SlotSealState}
    (wasSealed : ((after registry first).state.slotAt key).sealState = some sealed)
    (unsealed : ((after registry middle).state.slotAt key).sealState = none)
    (isSealed : ((after registry calls).state.slotAt key).sealState = some next) :
    sealed.sealGeneration.get < next.sealGeneration.get := by
  have numbered := sealsNumbered_after registry first key sealed wasSealed
  refine (sealsAbove_forward later ⟨numbered.trans (nextSealGeneration_le earlier), fun _ found => ?_⟩).sealed next isSealed
  cases unsealed.symm.trans found

theorem command_sealed {state last : RegistryState} (sound : state.Sound registry) {command : Command}
    {result : Except ServingSlotRegistryError command.Answer} (called : command.perform registry state = (result, last))
    (found : (state.slotAt key).sealState = some sealed) :
    (∃ route, (last.slotAt key).sealState = some { sealed with route }) ∨
      (last.slotAt key).sealState = none ∧
        command.unseals = some (key, sealed.sealKey, sealed.sealGeneration, sealed.route) := by
  have kept (same : (last.slotAt key).content = (state.slotAt key).content) :
      ∃ route, (last.slotAt key).sealState = some { sealed with route } :=
    ⟨sealed.route, (congrArg SlotContent.sealState same).trans found⟩
  cases result with
  | error error => exact .inl (kept (((command.settles sound).of_error called).content key))
  | ok answer =>
    obtain same | ⟨other, edit, makes, changed⟩ := (command.settles sound).of_ok called
    · exact .inl (kept (same.failed.content key))
    · by_cases sameKey : key = other
      · subst sameKey
        obtain kept | ⟨unsealed, isUnseal⟩ := changed.edited.sealed_cases found
        · exact .inl kept
        · obtain ⟨_, found', unseals⟩ := makes.unseals isUnseal
          cases found.symm.trans found'
          exact .inr ⟨unsealed, unseals⟩
      · exact .inl (kept (congrArg SlotCell.content (changed.slotAt_other sameKey)))

theorem call_sealed (registry : RegistryInner) (calls : List Call) (call : Call)
    (found : ((after registry calls).state.slotAt key).sealState = some sealed) :
    (∃ route, ((after registry (calls ++ [call])).state.slotAt key).sealState = some { sealed with route }) ∨
      ((after registry (calls ++ [call])).state.slotAt key).sealState = none ∧
        ∃ command, call = .order command ∧
          command.unseals = some (key, sealed.sealKey, sealed.sealGeneration, sealed.route) := by
  obtain same | ⟨edit, makes, edited⟩ := contentAt_step registry calls call key
  · exact .inl ⟨sealed.route, (congrArg SlotContent.sealState same).trans found⟩
  · obtain kept | ⟨unsealed, isUnseal⟩ := edited.sealed_cases found
    · exact .inl kept
    · refine .inr ⟨unsealed, ?_⟩
      cases makes with
      | order command key edit holds makes =>
        obtain ⟨_, found', unseals⟩ := makes.unseals isUnseal
        cases found.symm.trans found'
        exact ⟨command, rfl, unseals⟩
      | dropCurrent | dropRetired => cases isUnseal

/-- A sealed slot is left alone until its own seal is taken off. -/
theorem seals_exclude (registry : RegistryInner) (calls : List Call) (key : ServingSlotKeyV1) :
    let moment (calls : List Call) := (after registry calls).state
    (∀ sealed, ((moment calls).slotAt key).sealState = some sealed →
      (∀ command, Command.excluded command = some key →
        ∃ error, (command.perform registry (moment calls)).1 = .error error) ∧
      (∀ call, (∃ route, ((moment (calls ++ [call])).slotAt key).sealState = some { sealed with route }) ∨
        ((moment (calls ++ [call])).slotAt key).sealState = none ∧
          ∃ command, call = .order command ∧
            Command.unseals command = some (key, sealed.sealKey, sealed.sealGeneration, sealed.route)) ∧
      (∀ first middle earlier, first <+: middle → middle <+: calls →
        ((moment first).slotAt key).sealState = some earlier → ((moment middle).slotAt key).sealState = none →
        earlier.sealGeneration.get < sealed.sealGeneration.get ∧
          ∀ command sealKey route, Command.unseals command = some (key, sealKey, earlier.sealGeneration, route) →
            ∃ kept, ((command.perform registry (moment calls)).2.slotAt key).sealState = some { sealed with route := kept }) ∧
      sealed.route = (selectedRoute ((moment calls).slotAt key)).map routeWitnessV1) ∧
    ∃ observation, registryRecoveryObservationV2 (moment calls) = .ok observation := by
  intro moment
  have sound := sound_after registry calls
  refine ⟨fun sealed isSealed => ⟨fun command excludes => ?_, fun call => call_sealed registry calls call isSealed,
    fun first middle earlier before after wasSealed unsealed => ?_, (sound.slotAt key).sealRoute sealed isSealed⟩,
    _, sound.recovered⟩
  · rcases called : command.perform registry (moment calls) with ⟨error | answer, last⟩
    · exact ⟨error, rfl⟩
    · cases (Command.excluded_unsealed sound excludes called).symm.trans isSealed
  · have lt := sealGeneration_lt before after wasSealed unsealed isSealed
    refine ⟨lt, fun command sealKey route unseals => ?_⟩
    obtain kept | ⟨-, unseals'⟩ := command_sealed sound rfl isSealed
    · exact kept
    · have same := unseals.symm.trans unseals'
      simp only [Option.some.injEq, Prod.mk.injEq] at same
      rw [same.2.2.1] at lt
      exact absurd lt (Nat.lt_irrefl _)

end RegistrySystem

end Starring.Registry
