import Starring.Registry.Runs

/-! What one call does to a registry, said once for all calls. -/

namespace Starring.Registry
open Foundation Convergence RegistryState

/-- The edits that a command makes, with what it has made sure of. -/
inductive Makes (registry : RegistryInner) (state : RegistryState) : Command → ServingSlotKeyV1 → SlotEdit → Prop where
  | install (key : ServingSlotKeyV1) (route : ExactServingRouteV1) (fencingToken : FencingToken) (incarnation : NonZeroU64) :
    Makes registry state (.install key route fencingToken) key (.install (stagedRecord route fencingToken incarnation))
  | activate (token : SlotMutationTokenV1) (identity : RuntimeProcessIdentityV1) (activationSequence : NonZeroU64)
    (staged : RouteRecord) (found : (state.slotAt token.key).staged = some staged) (isMatch : staged.matches token = true) :
    Makes registry state (.activate token identity) token.key (.activate activationSequence)
  | activateWithSequenceV2 (token : SlotMutationTokenV1) (identity : RuntimeProcessIdentityV1)
    (activationSequence : NonZeroU64) (staged : RouteRecord) (found : (state.slotAt token.key).staged = some staged)
    (isMatch : staged.matches token = true) :
    Makes registry state (.activateWithSequenceV2 token identity) token.key (.activate activationSequence)
  | beginDrain (token : SlotMutationTokenV1) (authorized : (state.slotAt token.key).content.Authorizes token) :
    Makes registry state (.beginDrain token) token.key .beginDrain
  | beginDrainWithAuthority (authority target : SlotMutationTokenV1) (sameKey : authority.key = target.key)
    (authorized : (state.slotAt target.key).content.Authorizes authority) :
    Makes registry state (.beginDrainWithAuthority authority target) target.key .beginDrain
  | remove (token : SlotMutationTokenV1) (outcome : SlotRemovalOutcomeV1) (edit : SlotEdit)
    (removal : Removal (state.slotAt token.key).content token outcome edit)
    (authorized : (state.slotAt token.key).content.Authorizes token ∨ edit = .removeRetired token.incarnation) :
    Makes registry state (.remove token) token.key edit
  | removeWithAuthority (authority target : SlotMutationTokenV1) (outcome : SlotRemovalOutcomeV1) (edit : SlotEdit)
    (removal : Removal (state.slotAt target.key).content target outcome edit) (sameKey : authority.key = target.key)
    (authorized : (state.slotAt target.key).content.Authorizes authority) :
    Makes registry state (.removeWithAuthority authority target) target.key edit
  | advanceAuthority (token : SlotMutationTokenV1) (identity : RuntimeProcessIdentityV1) (next : FencingToken) (edit : SlotEdit)
    (isAdvance : edit = .advanceStaged next ∨ edit = .advanceCurrent next)
    (authorized : (state.slotAt token.key).content.Authorizes token) :
    Makes registry state (.advanceAuthority token identity next) token.key edit
  | admitInteraction (key : ServingSlotKeyV1) : Makes registry state (.admitInteraction key) key .admitInteraction
  | admitAtGenerationV2 (key : ServingSlotKeyV1) (generation : NonZeroU64) :
    Makes registry state (.admitAtGenerationV2 key generation) key .admitInteraction
  | sealDrainClaimV2 (key : ServingSlotKeyV1) (sealed : SlotSealState) :
    Makes registry state (.sealDrainClaimV2 key sealed.sealKey ((state.slots.lookup key).map SlotCell.observed)) key (.close sealed)
  | sealEmptyRecoveryDrainClaimV2 (cursor : RegistryEmptyRecoveryCursorV2) (key : ServingSlotKeyV1) (sealed : SlotSealState)
    (noRoute : sealed.route = none) :
    Makes registry state (.sealEmptyRecoveryDrainClaimV2 cursor key sealed.sealKey) key (.close sealed)
  | unsealDrainClaimV2 (capability : SlotDrainClaimSealV2)
    (isMatch : (state.slotAt capability.key).sealMatches capability.sealKey capability.sealGeneration capability.route =
      true) :
    Makes registry state (.unsealDrainClaimV2 capability) capability.key .reopen
  | unsealEmptyRecoveryDrainClaimV2 (capability : SealedEmptyRecoveryDrainClaimV2) (noRoute : capability.claim.route = none)
    (isMatch : (state.slotAt capability.claim.key).sealMatches capability.claim.sealKey capability.claim.sealGeneration
      none = true) :
    Makes registry state (.unsealEmptyRecoveryDrainClaimV2 capability) capability.claim.key .reopen
  | sealRoutedWithIntentV4 (source : RoutedObservedV4) (intentId : RuntimeDrainIntentIdV2) (sealed : SlotSealState)
    (current : RouteRecord) (only : (state.slotAt source.binding.key).content.OnlyIdle current)
    (serving : current.lifecycle = .serving) (atHighWater : (state.slotAt source.binding.key).content.AtHighWater current) :
    Makes registry state (.sealRoutedWithIntentV4 source intentId) source.binding.key (.close sealed)
  | rollbackRoutedSealStateV4 (source : RoutedSealedV4)
    (isMatch : (state.slotAt source.binding.key).sealMatches source.binding.sealKey source.binding.sealGeneration
      (some source.binding.currentRoute) = true) :
    Makes registry state (.rollbackRoutedSealStateV4 source) source.binding.key .reopen
  | refenceRoutedClaimStateV4 (source : RoutedClaimedSealedV4) (provenance : RuntimeRouteMutationProvenanceV2)
    (refencedAt : DateTime) (slot : SlotCell) (current : RouteRecord) (own : source.binding.registry = registry.lifetime)
    (route : SealedRoute state source.binding .serving slot current) :
    Makes registry state (.refenceRoutedClaimStateV4 source provenance refencedAt) source.binding.key (.refence source.claimFence)
  | beginDrainRefencedStateV4 (source : DurablyRefencedSealedV4) (slot : SlotCell) (current : RouteRecord)
    (route : SealedRoute state source.binding .serving slot current) :
    Makes registry state (.beginDrainRefencedStateV4 source) source.binding.key .drainSealed
  | removeDrainingRefencedStateV4 (source : DrainingRefencedSealedV4) (observation : DrainingRefencedObservationV4)
    (slot : SlotCell) (current : RouteRecord) (route : SealedRoute state source.binding .draining slot current) :
    Makes registry state (.removeDrainingRefencedStateV4 source observation) source.binding.key .removeSealed
  | consumeRouteAbsentWithDigestV4 (source : RouteAbsentSealedV4) (digest : RegistryDurableReceiptDigestV4)
    (own : source.binding.registry = registry.lifetime)
    (absent : AbsentRoute state source.binding (state.slotAt source.binding.key)) :
    Makes registry state (.consumeRouteAbsentWithDigestV4 source digest) source.binding.key .reopen
  | sealEmptySuccessionV4 (cursor : RegistryEmptyRecoveryCursorV2) (key : ServingSlotKeyV1)
    (intentId : RuntimeDrainIntentIdV2) (predecessorRoute : PreviousRouteEnvelopeV4)
    (successorIdentity : RuntimeProcessIdentityV1) (successorFence : FencingToken) (sealed : SlotSealState)
    (noRoute : sealed.route = none) :
    Makes registry state (.sealEmptySuccessionV4 cursor key intentId predecessorRoute successorIdentity successorFence) key
      (.close sealed)
  | consumeEmptySuccessionWithDigestV4 (source : EmptySuccessionSealedV4) (digest : RegistryDurableReceiptDigestV4)
    (isMatch : (state.slotAt source.sealedClaim.claim.key).sealMatches source.sealedClaim.claim.sealKey
      source.sealedClaim.claim.sealGeneration none = true) :
    Makes registry state (.consumeEmptySuccessionWithDigestV4 source digest) source.sealedClaim.claim.key
      (.succeed source.successorIdentity source.successorFence)

section Commands
variable {registry : RegistryInner} {state : RegistryState}

/-- A command that succeeds changes nothing or makes one edit; one that fails changes nothing. -/
theorem Command.settles (sound : state.Sound registry) (command : Command) :
    (command.perform registry).Settles
      (fun _ last => state.Same last ∨ ∃ key edit, Makes registry state command key edit ∧ state.Changed registry key edit last)
      (fun _ last => state.Failed last) state := by
  cases command with
  | install key route fencingToken =>
    refine install_settles.imp fun _ last done => ?_
    exact done.2.imp_right fun ⟨incarnation, changed⟩ => ⟨_, _, .install key route fencingToken incarnation, changed⟩
  | activate token identity =>
    refine activate_settles.imp fun _ last done => ?_
    exact done.2.imp_right fun ⟨staged, sequence, found, isMatch, changed⟩ =>
      ⟨_, _, .activate token identity sequence staged found isMatch, changed⟩
  | activateWithSequenceV2 token identity =>
    refine activateWithSequenceV2_settles.imp fun _ last done => ?_
    exact done.2.imp_right fun ⟨staged, sequence, found, isMatch, changed⟩ =>
      ⟨_, _, .activateWithSequenceV2 token identity sequence staged found isMatch, changed⟩
  | beginDrain token =>
    refine beginDrainWithAuthority_settles.imp fun _ last done => ?_
    exact done.2.imp_right fun ⟨_, authorized, changed⟩ => ⟨_, _, .beginDrain token authorized, changed⟩
  | beginDrainWithAuthority authority target =>
    refine beginDrainWithAuthority_settles.imp fun _ last done => ?_
    exact done.2.imp_right fun ⟨sameKey, authorized, changed⟩ =>
      ⟨_, _, .beginDrainWithAuthority authority target sameKey authorized, changed⟩
  | remove token =>
    refine remove_settles.imp fun outcome last done => ?_
    obtain ⟨-, edit, ⟨removal, changed⟩, authorized⟩ := done
    exact .inr ⟨_, _, .remove token outcome edit removal authorized, changed⟩
  | removeWithAuthority authority target =>
    refine removeWithAuthority_settles.imp fun outcome last done => ?_
    obtain ⟨-, edit, ⟨removal, changed⟩, sameKey, authorized⟩ := done
    exact .inr ⟨_, _, .removeWithAuthority authority target outcome edit removal sameKey authorized, changed⟩
  | advanceAuthority token identity next =>
    refine advanceAuthority_settles.imp fun _ last done => ?_
    obtain ⟨-, authorized, edit, isAdvance, changed⟩ := done
    exact .inr ⟨_, _, .advanceAuthority token identity next edit isAdvance authorized, changed⟩
  | admitInteraction key =>
    exact admitInteraction_settles.imp fun _ _ done => .inr ⟨_, _, .admitInteraction key, done.2.1⟩
  | admitAtGenerationV2 key generation =>
    exact admitAtGenerationV2_settles.imp fun _ _ done => .inr ⟨_, _, .admitAtGenerationV2 key generation, done.2.1⟩
  | sealDrainClaimV2 key sealKey expected =>
    refine sealDrainClaimV2_settles.imp fun _ last done => ?_
    obtain ⟨rfl, sealed, made, rfl, -⟩ := done
    exact .inr ⟨_, _, .sealDrainClaimV2 key sealed, made.changed⟩
  | sealEmptyRecoveryDrainClaimV2 cursor key sealKey =>
    refine (sealEmptyRecoveryDrainClaimV2_settles sound).imp fun _ last done => ?_
    obtain ⟨-, -, sealed, made, rfl, noRoute, -⟩ := done
    exact .inr ⟨_, _, .sealEmptyRecoveryDrainClaimV2 cursor key sealed noRoute, made.changed⟩
  | unsealDrainClaimV2 capability =>
    exact unsealDrainClaimV2_settles.imp fun _ _ done => .inr ⟨_, _, .unsealDrainClaimV2 capability done.2, done.1.changed⟩
  | unsealEmptyRecoveryDrainClaimV2 capability =>
    refine (unsealEmptyRecoveryDrainClaimV2_settles sound).imp fun _ last done => ?_
    obtain ⟨made, -, -, noRoute, isMatch, -⟩ := done
    exact .inr ⟨_, _, .unsealEmptyRecoveryDrainClaimV2 capability noRoute isMatch, made.changed⟩
  | sealRoutedWithIntentV4 source intentId =>
    refine (sealRoutedWithIntentV4_settles sound).imp fun _ last done => ?_
    obtain ⟨sealed, current, made, only, serving, atHighWater, -⟩ := done
    exact .inr ⟨_, _, .sealRoutedWithIntentV4 source intentId sealed current only serving atHighWater, made.changed⟩
  | rollbackRoutedSealStateV4 source =>
    exact (rollbackRoutedSealStateV4_settles sound).imp
      fun _ _ done => .inr ⟨_, _, .rollbackRoutedSealStateV4 source done.2.1, done.1.changed⟩
  | refenceRoutedClaimStateV4 source provenance refencedAt =>
    refine (refenceRoutedClaimStateV4_settles sound).imp fun _ last done => ?_
    obtain ⟨own, slot, current, route, -, made, -⟩ := done
    exact .inr ⟨_, _, .refenceRoutedClaimStateV4 source provenance refencedAt slot current own route, made.changed⟩
  | beginDrainRefencedStateV4 source =>
    refine (beginDrainRefencedStateV4_settles sound).imp fun _ last done => ?_
    obtain ⟨-, slot, current, route, -, made, -⟩ := done
    exact .inr ⟨_, _, .beginDrainRefencedStateV4 source slot current route, made.changed⟩
  | removeDrainingRefencedStateV4 source observation =>
    refine (removeDrainingRefencedStateV4_settles sound).imp fun _ last done => ?_
    obtain ⟨slot, current, route, -, -, made, -⟩ := done
    exact .inr ⟨_, _, .removeDrainingRefencedStateV4 source observation slot current route, made.changed⟩
  | consumeRouteAbsentWithDigestV4 source digest =>
    refine (consumeRouteAbsentWithDigestV4_settles sound).imp fun _ last done => ?_
    obtain ⟨own, absent, made, -⟩ := done
    exact .inr ⟨_, _, .consumeRouteAbsentWithDigestV4 source digest own absent, made.changed⟩
  | sealEmptySuccessionV4 cursor key intentId predecessorRoute successorIdentity successorFence =>
    refine (sealEmptySuccessionV4_settles sound).imp fun _ last done => ?_
    obtain ⟨-, -, sealed, made, noRoute, -⟩ := done
    exact .inr ⟨_, _, .sealEmptySuccessionV4 cursor key intentId predecessorRoute successorIdentity successorFence sealed
      noRoute, made.changed⟩
  | consumeEmptySuccessionWithDigestV4 source digest =>
    refine (consumeEmptySuccessionWithDigestV4_settles sound).imp fun _ last done => ?_
    obtain ⟨made, -, -, isMatch⟩ := done
    exact .inr ⟨_, _, .consumeEmptySuccessionWithDigestV4 source digest isMatch, made.changed⟩

end Commands

namespace RegistrySystem
variable {registry : RegistryInner}

inductive Step (registry : RegistryInner) (before : RegistrySystem) : Call → RegistrySystem → Prop where
  | refused (call : Call) : Step registry before call before
  | failed (command : Command) (error : ServingSlotRegistryError) (state : RegistryState)
    (called : command.perform registry before.state = (.error error, state)) :
    Step registry before (.order command) { before with state }
  | done (command : Command) (answer : command.Answer) (state : RegistryState)
    (holds : before.Holds registry command.uses)
    (called : command.perform registry before.state = (.ok answer, state)) :
    Step registry before (.order command)
      { state, guards := before.guards ++ command.guards answer, issued := before.issued ++ command.grants answer }
  | asked (query : Query) (answer : query.Answer) (holds : before.Holds registry query.uses)
    (told : query.ask registry before.state = .ok answer) :
    Step registry before (.ask query) { before with issued := before.issued ++ query.grants answer }
  | dropped (guard : ActiveInteractionGuardV1) (mem : guard ∈ before.guards) :
    Step registry before (.drop guard)
      { before with state := guard.drop before.state, guards := before.guards.erase guard }

theorem exec_step (registry : RegistryInner) (call : Call) (self : RegistrySystem) :
    Step registry self call (exec registry call self).2 := by
  cases call with
  | order command =>
    rw [exec]
    split
    · rename_i holds
      rcases called : command.perform registry self.state with ⟨error | answer, state⟩
      · exact .failed command error state called
      · exact .done command answer state holds called
    · exact .refused _
  | ask query =>
    rw [exec]
    split
    · rename_i holds
      cases told : query.ask registry self.state with
      | error error => exact .refused _
      | ok answer => exact .asked query answer holds told
    · exact .refused _
  | drop guard =>
    rw [exec]
    split
    · rename_i mem
      exact .dropped guard mem
    · exact .refused _

inductive CallMakes (registry : RegistryInner) (before : RegistrySystem) : Call → ServingSlotKeyV1 → SlotEdit → Prop where
  | order (command : Command) (key : ServingSlotKeyV1) (edit : SlotEdit) (holds : before.Holds registry command.uses)
    (makes : Makes registry before.state command key edit) :
    CallMakes registry before (.order command) key edit
  | dropCurrent (guard : ActiveInteractionGuardV1) (mem : guard ∈ before.guards) (current : RouteRecord)
    (found : (before.state.slotAt guard.key).current = some current) (own : current.incarnation = guard.incarnation) :
    CallMakes registry before (.drop guard) guard.key .releaseCurrent
  | dropRetired (guard : ActiveInteractionGuardV1) (mem : guard ∈ before.guards)
    (other : ∀ current, (before.state.slotAt guard.key).current = some current → current.incarnation ≠ guard.incarnation) :
    CallMakes registry before (.drop guard) guard.key (.releaseRetired guard.incarnation)

variable {before after : RegistrySystem} {call : Call}

/-- Every call leaves the routes as they are, or makes one edit. -/
theorem Step.moves (step : Step registry before call after) (sound : before.state.Sound registry) :
    before.state.Failed after.state ∨
      ∃ key edit, CallMakes registry before call key edit ∧ before.state.Changed registry key edit after.state := by
  cases step with
  | refused call => exact .inl .rfl
  | failed command error state called => exact .inl ((command.settles sound).of_error called)
  | done command answer state holds called =>
    obtain same | ⟨key, edit, makes, changed⟩ := (command.settles sound).of_ok called
    · exact .inl same.failed
    · exact .inr ⟨key, edit, .order command key edit holds makes, changed⟩
  | asked query answer holds told => exact .inl .rfl
  | dropped guard mem =>
    obtain ⟨failed, -⟩ | ⟨current, found, own, changed⟩ | ⟨other, changed⟩ := guard.drop_cases registry before.state
    · exact .inl failed
    · exact .inr ⟨_, _, .dropCurrent guard mem current found own, changed⟩
    · exact .inr ⟨_, _, .dropRetired guard mem other, changed⟩

theorem Step.sound (step : Step registry before call after) (sound : before.state.Sound registry) :
    after.state.Sound registry := by
  obtain failed | ⟨key, edit, -, changed⟩ := step.moves sound
  · exact failed.sound sound
  · exact changed.sound sound

theorem lookup_fresh (key : ServingSlotKeyV1) : fresh.state.slots.lookup key = none := AList.lookup_empty key

theorem sound_fresh : fresh.state.Sound registry where
  size := Nat.zero_le _
  slots key _ found := absurd ((lookup_fresh key).symm.trans found) nofun

theorem invariant_after {invariant : RegistrySystem → Prop} (start : invariant .fresh)
    (keeps : ∀ before call after, Step registry before call after → before.state.Sound registry → invariant before →
      invariant after) (calls : List Call) :
    (RegistrySystem.after registry calls).state.Sound registry ∧ invariant (RegistrySystem.after registry calls) := by
  refine final_invariant (exec registry) (fun system => system.state.Sound registry ∧ invariant system) fresh calls
    ⟨sound_fresh, start⟩ fun call system holds => ?_
  have step := exec_step registry call system
  exact ⟨step.sound holds.1, keeps _ _ _ step holds.1 holds.2⟩

theorem sound_after (registry : RegistryInner) (calls : List Call) :
    (RegistrySystem.after registry calls).state.Sound registry :=
  (@invariant_after registry (fun _ => True) trivial (fun _ _ _ _ _ _ => trivial) calls).1

theorem step_after (registry : RegistryInner) (calls : List Call) (call : Call) :
    Step registry (RegistrySystem.after registry calls) call (RegistrySystem.after registry (calls ++ [call])) := by
  rw [RegistrySystem.after, RegistrySystem.after, final_append]
  exact exec_step registry call _

def contentAt (registry : RegistryInner) (calls : List Call) (key : ServingSlotKeyV1) : SlotContent :=
  ((RegistrySystem.after registry calls).state.slotAt key).content

theorem contentAt_nil (registry : RegistryInner) (key : ServingSlotKeyV1) :
    contentAt registry [] key = SlotCell.fresh.content :=
  congrArg SlotCell.content (slotAt_of_none (lookup_fresh key))

theorem contentAt_sound (registry : RegistryInner) (calls : List Call) (key : ServingSlotKeyV1) :
    (contentAt registry calls key).Sound registry.config.maxActiveInteractionsPerSlot.get :=
  (sound_after registry calls).slotAt key

theorem slotAt_step (registry : RegistryInner) (calls : List Call) (call : Call) (key : ServingSlotKeyV1) :
    let before := RegistrySystem.after registry calls
    let after := RegistrySystem.after registry (calls ++ [call])
    (after.state.slotAt key = before.state.slotAt key ∨
      after.state.slotAt key = { before.state.slotAt key with failedClosed := true }) ∨
      ∃ edit, CallMakes registry before call key edit ∧ before.state.Changed registry key edit after.state := by
  intro before after
  obtain failed | ⟨other, edit, makes, changed⟩ := (step_after registry calls call).moves (sound_after registry calls)
  · refine .inl ((failed.slots key).imp (fun same => ?_) fun ⟨slot, was, closed⟩ => ?_)
    · rw [RegistryState.slotAt, RegistryState.slotAt, same]
    · rw [slotAt_of_some was, slotAt_of_some closed]
  · by_cases same : key = other
    · subst same
      exact .inr ⟨edit, makes, changed⟩
    · exact .inl (.inl (changed.slotAt_other same))

theorem contentAt_step (registry : RegistryInner) (calls : List Call) (call : Call) (key : ServingSlotKeyV1) :
    contentAt registry (calls ++ [call]) key = contentAt registry calls key ∨
      ∃ edit, CallMakes registry (RegistrySystem.after registry calls) call key edit ∧
        Edited registry.config.maxActiveInteractionsPerSlot.get (contentAt registry calls key) edit
          (contentAt registry (calls ++ [call]) key) := by
  obtain (same | closed) | ⟨edit, makes, changed⟩ := slotAt_step registry calls call key
  · exact .inl (congrArg SlotCell.content same)
  · exact .inl ((congrArg SlotCell.content closed).trans rfl)
  · exact .inr ⟨edit, makes, changed.edited⟩

theorem forward {motive : List Call → Prop} {first calls : List Call} (isPrefix : first <+: calls) (start : motive first)
    (next : ∀ past call, first <+: past → past ++ [call] <+: calls → motive past → motive (past ++ [call])) :
    motive calls := by
  obtain ⟨rest, rfl⟩ := isPrefix
  induction rest using List.reverseRecOn with
  | nil => rwa [List.append_nil]
  | append_singleton rest call ih =>
    rw [← List.append_assoc] at next ⊢
    refine next _ call (List.prefix_append _ _) (List.prefix_refl _) (ih fun past call isLater isEarlier => ?_)
    exact next past call isLater (isEarlier.trans (List.prefix_append _ _))

end RegistrySystem

end Starring.Registry
