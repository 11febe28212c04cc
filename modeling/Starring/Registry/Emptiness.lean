import Starring.Registry.Fencing
import Starring.Registry.Seals
import Starring.Convergence.Lifecycle

/-! What a drain proves. When the seal of a removed route is consumed, the slot has been sealed without a break since it had
just this one route, which served, and nobody uses the slot any more. -/

namespace Starring.Registry
open Foundation Convergence List RegistrySystem

/-- How a slot goes on that was sealed with this content: it is as it was, but for interactions that have ended, or it had
the one route that is being drained. -/
inductive Drains (start content : SlotContent) : Prop where
  | waits (staged : content.staged = start.staged)
    (retired : content.retired.map routeWitnessV1 = start.retired.map routeWitnessV1)
    (current : content.current.map routeWitnessV1 = start.current.map routeWitnessV1)
    (highWater : content.highWater = start.highWater)
  | drains (source : RouteRecord) (found : start.current = some source) (noStaged : start.staged = none)
    (noRetired : start.retired = []) (serving : source.lifecycle = .serving) (atHighWater : start.AtHighWater source)
    (staged : content.staged = none) (retired : content.retired = [])
    (current : ∀ current, content.current = some current →
      current.route.identity = source.route.identity ∧ current.incarnation = source.incarnation)

variable {content start : SlotContent}

theorem Drains.source {current : RouteRecord} (drains : Drains start content) (only : content.OnlyIdle current)
    (atHighWater : content.AtHighWater current)
    (isServing : ∀ source, start.current = some source → source.lifecycle = .serving) :
    ∃ source, start.current = some source ∧ start.staged = none ∧ start.retired = [] ∧ source.lifecycle = .serving ∧
      start.AtHighWater source ∧ current.route.identity = source.route.identity ∧
      current.incarnation = source.incarnation := by
  obtain ⟨here, noStaged, noRetired, -⟩ := only
  cases drains with
  | waits staged retired same highWater =>
    rw [here, Option.map_some, eq_comm, Option.map_eq_some_iff] at same
    obtain ⟨source, isSource, witness⟩ := same
    have serving := isServing source isSource
    simp only [routeWitnessV1, SlotRouteWitnessV1.mk.injEq] at witness
    obtain ⟨identity, fence, incarnation, -⟩ := witness
    obtain ⟨mark, isMark, sameIdentity, sameFence⟩ := atHighWater
    refine ⟨source, isSource, staged ▸ noStaged, ?_, serving,
      ⟨mark, highWater ▸ isMark, sameIdentity.trans identity.symm, sameFence.trans fence.symm⟩, identity.symm,
      incarnation.symm⟩
    rw [noRetired] at retired
    exact map_eq_nil_iff.mp retired.symm
  | drains source isSource noStaged noRetired serving atHighWater staged retired same =>
    obtain ⟨identity, incarnation⟩ := same current here
    exact ⟨source, isSource, noStaged, noRetired, serving, atHighWater, identity, incarnation⟩

namespace Edited
variable {limit : Nat} {start before after : SlotContent} {edit : SlotEdit}

theorem drains (edited : Edited limit before edit after) (isSealed : before.sealState.isSome = true)
    (stays : after.sealState.isSome = true) (isServing : ∀ source, start.current = some source → source.lifecycle = .serving)
    (drains : Drains start before) : Drains start after := by
  have notSealed {edited : Prop} (unsealed : before.sealState = none) : edited := by
    rw [unsealed] at isSealed
    cases isSealed
  cases edited with
  | install _ unsealed | activate _ _ unsealed | beginDrain _ unsealed | removeStaged _ unsealed
  | removeCurrent _ unsealed | removeRetired _ unsealed | advanceStaged _ _ unsealed
  | advanceCurrent _ _ unsealed | admitInteraction _ unsealed | close _ unsealed => exact notSealed unsealed
  | reopen => cases stays
  | succeed => cases stays
  | releaseCurrent current found =>
    cases drains with
    | waits staged retired same highWater =>
      refine .waits staged retired ?_ highWater
      rw [found] at same
      exact same
    | drains source isSource noStaged noRetired serving atHighWater staged retired same =>
      refine .drains source isSource noStaged noRetired serving atHighWater staged retired ?_
      rintro _ ⟨⟩
      exact same current found
  | releaseRetired incarnation =>
    cases drains with
    | waits staged retired same highWater =>
      refine .waits staged (Eq.trans ?_ retired) same highWater
      rw [map_map]
      refine map_congr_left fun route _ => ?_
      simp only [Function.comp_apply]
      split <;> rfl
    | drains source isSource noStaged noRetired serving atHighWater staged retired same =>
      refine .drains source isSource noStaged noRetired serving atHighWater staged ?_ same
      simp only [retired, map_nil]
  | refence current sealed fencingToken only serving atHighWater found
  | drainSealed current sealed only serving atHighWater found =>
    obtain ⟨source, isSource, noStaged, noRetired, serves, wasAt, identity, incarnation⟩ :=
      drains.source only atHighWater isServing
    refine .drains source isSource noStaged noRetired serves wasAt only.2.1 only.2.2.1 ?_
    rintro _ ⟨⟩
    exact ⟨identity, incarnation⟩
  | removeSealed current sealed only draining atHighWater found =>
    obtain ⟨source, isSource, noStaged, noRetired, serves, wasAt, -⟩ := drains.source only atHighWater isServing
    exact .drains source isSource noStaged noRetired serves wasAt only.2.1 only.2.2.1 nofun

end Edited

theorem Drains.of_closed {limit : Nat} {closed : SlotSealState} (edited : Edited limit start (.close closed) content) :
    Drains start content := by
  rw [edited.of_close.2.2.2]
  exact .waits rfl rfl rfl rfl

theorem Drains.mem_routes {current route : RouteRecord} (drains : Drains start content)
    (found : start.current = some current) (noStaged : start.staged = none) (noRetired : start.retired = [])
    (mem : route ∈ content.routes) :
    route.route.identity = current.route.identity ∧ route.incarnation = current.incarnation := by
  rw [SlotContent.mem_routes_iff] at mem
  cases drains with
  | waits staged retired same highWater =>
    rw [noRetired, map_nil, map_eq_nil_iff] at retired
    rw [staged, noStaged, retired] at mem
    obtain ⟨⟨⟩⟩ | here | ⟨⟨⟩⟩ := mem
    rw [here, found] at same
    have witness := Option.some.inj same
    exact ⟨congrArg SlotRouteWitnessV1.identity witness, congrArg SlotRouteWitnessV1.incarnation witness⟩
  | drains source isSource _ _ _ _ staged retired same =>
    cases found.symm.trans isSource
    rw [staged, retired] at mem
    obtain ⟨⟨⟩⟩ | here | ⟨⟨⟩⟩ := mem
    exact same route here

theorem current_of_selected {limit : Nat} (sound : content.Sound limit) {witness : SlotRouteWitnessV1}
    (selected : content.selected.map routeWitnessV1 = some witness) (serving : witness.lifecycle = .serving) :
    ∃ current, content.current = some current ∧ routeWitnessV1 current = witness := by
  obtain ⟨route, isSelected, rfl⟩ := Option.map_eq_some_iff.mp selected
  unfold SlotContent.selected at isSelected
  cases found : content.current with
  | some current =>
    rw [found] at isSelected
    cases isSelected
    exact ⟨_, rfl, rfl⟩
  | none =>
    rw [found, Option.none_or] at isSelected
    cases serving.symm.trans (sound.staged route isSelected).1

namespace RegistrySystem
variable {registry : RegistryInner} {key : ServingSlotKeyV1}

/-- A seal was put on in some moment, and the slot was sealed from then on. -/
theorem seal_origin (registry : RegistryInner) (calls : List Call) {sealed : SlotSealState}
    (isSealed : (contentAt registry calls key).sealState = some sealed) :
    ∃ first call closed, first ++ [call] <+: calls ∧
      CallMakes registry (after registry first) call key (.close closed) ∧
      Edited registry.config.maxActiveInteractionsPerSlot.get (contentAt registry first key) (.close closed)
        (contentAt registry (first ++ [call]) key) ∧
      closed.sealGeneration = sealed.sealGeneration ∧ closed.sourceRoute = sealed.sourceRoute ∧
      ∀ middle, first ++ [call] <+: middle → middle <+: calls →
        ∃ between, (contentAt registry middle key).sealState = some between ∧
          between.sealGeneration = sealed.sealGeneration := by
  induction calls using List.reverseRecOn generalizing sealed with
  | nil => exact absurd ((congrArg SlotContent.sealState (contentAt_nil registry key)).symm.trans isSealed) nofun
  | append_singleton calls call ih =>
    have extend {old : SlotSealState} (was : (contentAt registry calls key).sealState = some old)
        (generation : old.sealGeneration = sealed.sealGeneration) (source : old.sourceRoute = sealed.sourceRoute) :
        ∃ first next closed, first ++ [next] <+: calls ++ [call] ∧
          CallMakes registry (after registry first) next key (.close closed) ∧
          Edited registry.config.maxActiveInteractionsPerSlot.get (contentAt registry first key) (.close closed)
            (contentAt registry (first ++ [next]) key) ∧
          closed.sealGeneration = sealed.sealGeneration ∧ closed.sourceRoute = sealed.sourceRoute ∧
          ∀ middle, first ++ [next] <+: middle → middle <+: calls ++ [call] →
            ∃ between, (contentAt registry middle key).sealState = some between ∧
              between.sealGeneration = sealed.sealGeneration := by
      obtain ⟨first, next, closed, isPrefix, makes, edited, sameGeneration, sameSource, stays⟩ := ih was
      refine ⟨first, next, closed, isPrefix.trans (prefix_append _ _), makes, edited, sameGeneration.trans generation,
        sameSource.trans source, fun middle later earlier => ?_⟩
      obtain rfl | earlier := prefix_concat_iff.mp earlier
      · exact ⟨sealed, isSealed, rfl⟩
      · obtain ⟨between, isBetween, same⟩ := stays middle later earlier
        exact ⟨between, isBetween, same.trans generation⟩
    obtain same | ⟨edit, makes, edited⟩ := contentAt_step registry calls call key
    · rw [same] at isSealed
      exact extend isSealed rfl rfl
    · cases was : (contentAt registry calls key).sealState with
      | none =>
        obtain rfl := edited.unsealed_cases was isSealed
        refine ⟨calls, call, sealed, prefix_refl _, makes, edited, rfl, rfl, fun middle later earlier => ?_⟩
        obtain rfl : middle = calls ++ [call] := earlier.eq_of_length_le later.length_le
        exact ⟨sealed, isSealed, rfl⟩
      | some old =>
        obtain ⟨route, kept⟩ | ⟨unsealed, -⟩ := edited.sealed_cases was
        · cases kept.symm.trans isSealed
          exact extend was rfl rfl
        · cases unsealed.symm.trans isSealed

/-- A capability and the seal that it names: if the slot has this seal, then it was sealed with the route of the name. -/
structure Linked (registry : RegistryInner) (calls : List Call) (name : SealName) : Prop where
  numbered : name.sealGeneration.get ≤ ((after registry calls).state.slotAt name.key).nextSealGeneration
  source : ∀ sealed, ((after registry calls).state.slotAt name.key).sealState = some sealed →
    sealed.sealGeneration = name.sealGeneration → sealed.sourceRoute = name.sourceRoute

theorem Linked.step {calls : List Call} {name : SealName} (linked : Linked registry calls name) (call : Call) :
    Linked registry (calls ++ [call]) name := by
  obtain (same | closed) | ⟨edit, -, changed⟩ := slotAt_step registry calls call name.key
  · exact ⟨by rw [same]; exact linked.numbered, by rw [same]; exact linked.source⟩
  · exact ⟨by rw [closed]; exact linked.numbered, by rw [closed]; exact linked.source⟩
  · obtain ⟨le, seals⟩ := changed.seals
    refine ⟨linked.numbered.trans le, fun sealed isSealed sameGeneration => ?_⟩
    obtain ⟨old, was, generation, source⟩ | ⟨isNext, -⟩ := seals sealed isSealed
    · rw [← source]
      exact linked.source old was (generation.trans sameGeneration)
    · have numbered := linked.numbered
      rw [← sameGeneration, isNext] at numbered
      exact absurd numbered (Nat.not_succ_le_self _)

theorem linked_after (registry : RegistryInner) (calls : List Call) {capability : Capability}
    (mem : capability ∈ (after registry calls).issued) (own : capability.registry = registry.lifetime)
    {name : SealName} (isName : capability.sealName = some name) : Linked registry calls name := by
  induction calls using List.reverseRecOn generalizing capability with
  | nil => cases mem
  | append_singleton calls call ih =>
    obtain old | granted :=
      (step_after registry calls call).granted (sound_after registry calls) (allGenuine_after registry calls) mem own
    · exact (ih old own isName).step call
    · obtain ⟨sealed, isSealed, -, generation, source⟩ | ⟨other, held, isOurs, inherited⟩ := granted.sealed name isName
      · refine ⟨?_, fun other isOther _ => ?_⟩
        · rw [← generation]
          exact sealsNumbered_after registry (calls ++ [call]) name.key sealed isSealed
        · cases isSealed.symm.trans isOther
          exact source
      · exact (ih held isOurs inherited).step call

/-- A route that serves is sealed when it is idle, or by a claim that waits for its interactions. -/
theorem CallMakes.close_idle {before : RegistrySystem} {call : Call} {closed : SlotSealState}
    (makes : CallMakes registry before call key (.close closed)) (routed : closed.route ≠ none) {current : RouteRecord}
    (found : (before.state.slotAt key).current = some current) :
    current.activeInteractions = 0 ∨ ∃ sealKey expected, call = .order (.sealDrainClaimV2 key sealKey expected) := by
  generalize isEdit : SlotEdit.close closed = edit at makes
  cases makes with
  | order command key edit holds makes =>
    cases makes with
    | sealDrainClaimV2 key sealed => exact .inr ⟨_, _, rfl⟩
    | sealRoutedWithIntentV4 source intentId sealed route only =>
      cases found.symm.trans only.1
      exact .inl only.2.2.2
    | sealEmptyRecoveryDrainClaimV2 cursor key sealed noRoute
    | sealEmptySuccessionV4 cursor key intentId predecessorRoute successorIdentity successorFence sealed noRoute =>
      cases isEdit
      exact absurd noRoute routed
    | remove token outcome edit removal | removeWithAuthority authority target outcome edit removal =>
      cases removal <;> cases isEdit
    | advanceAuthority token identity next edit isAdvance => obtain rfl | rfl := isAdvance <;> cases isEdit
    | _ => cases isEdit
  | dropCurrent | dropRetired => cases isEdit

/-- The slot of a seal that is consumed was drained without a break. -/
theorem drained_slot_is_empty (registry : RegistryInner) (calls : List Call) (source : RouteAbsentSealedV4)
    (digest : RegistryDurableReceiptDigestV4) (reply : AcknowledgedEmptyV4) (last : RegistryState)
    (held : (after registry calls).Holds registry [.routeAbsent source])
    (consumed : consumeRouteAbsentWithDigestV4 registry source digest (after registry calls).state =
      (.ok reply, last)) :
    let slot (calls : List Call) := (after registry calls).state.slotAt source.binding.key
    ∃ first call sealed current, first ++ [call] <+: calls ∧
      (slot first).sealState = none ∧ (slot (first ++ [call])).sealState = some sealed ∧
      sealed.sealGeneration = source.binding.sealGeneration ∧
      (slot first).current = some current ∧ (slot first).routes = [current] ∧ current.lifecycle = .serving ∧
      (∃ highWater, (slot first).highWater = some highWater ∧ highWater.identity = current.route.identity ∧
        highWater.fencingToken = current.fencingToken) ∧
      (current.activeInteractions = 0 ∨
        ∃ sealKey expected, call = .order (.sealDrainClaimV2 source.binding.key sealKey expected)) ∧
      (∀ middle, first ++ [call] <+: middle → middle <+: calls →
        (∃ between, (slot middle).sealState = some between ∧ between.sealGeneration = sealed.sealGeneration) ∧
        (∀ route ∈ (slot middle).routes,
          route.route.identity = current.route.identity ∧ route.incarnation = current.incarnation) ∧
        ∀ command, Command.excluded command = some source.binding.key →
          ∃ error, (command.perform registry (after registry middle).state).1 = .error error) ∧
      source.binding.removedRoute.identity = current.route.identity ∧
      source.binding.removedRoute.incarnation = current.incarnation ∧
      current.fencingToken.next = .ok source.binding.removedRoute.fencingToken ∧
      (∃ highWater, (slot calls).highWater = some highWater ∧ highWater.identity = current.route.identity ∧
        highWater.fencingToken = source.binding.removedRoute.fencingToken) ∧
      reply.successorFence = source.binding.removedRoute.fencingToken ∧
      (∀ guard ∈ (after registry calls).guards, guard.key ≠ source.binding.key) ∧
      (last.slotAt source.binding.key).routes = [] ∧ (last.slotAt source.binding.key).sealState = none ∧
      reply.slotObservation.admissionState = .empty := by
  intro slot
  have sound := sound_after registry calls
  obtain ⟨own, absent, made, -, isObserved, isFence⟩ := (consumeRouteAbsentWithDigestV4_settles sound).of_ok consumed
  have mem := held.mem mem_cons_self own
  have refenced : Refenced source.binding.sourceRoute source.binding.removedRoute .draining :=
    allGenuine_after registry calls _ mem own
  -- The seal that is consumed was put on with the source route of the capability.
  obtain ⟨sealed, isSealed, -, sameGeneration, -⟩ := SlotCell.sealMatches_iff.mp absent.sealed
  have isSource := (linked_after registry calls mem own rfl).source sealed isSealed sameGeneration
  obtain ⟨first, call, closed, isPrefix, makes, edited, generation, source', stays⟩ := seal_origin registry calls isSealed
  obtain ⟨unsealed, exact, isSourceRoute, content⟩ := edited.of_close
  have isRoute : closed.route = some source.binding.sourceRoute := by rw [← isSourceRoute, source', isSource]; rfl
  obtain ⟨current, found, witness⟩ :=
    current_of_selected (contentAt_sound registry first _) (exact.symm.trans isRoute) refenced.serving
  have serving : current.lifecycle = .serving := by rw [← refenced.serving, ← witness]; rfl
  have isServing (other : RouteRecord) (isOther : (contentAt registry first source.binding.key).current = some other) :
      other.lifecycle = .serving := by
    cases found.symm.trans isOther
    exact serving
  -- From then on the slot is drained.
  have drains (middle : List Call) (later : first ++ [call] <+: middle) (earlier : middle <+: calls) :
      Drains (contentAt registry first source.binding.key) (contentAt registry middle source.binding.key) := by
    refine forward (motive := fun middle =>
      Drains (contentAt registry first source.binding.key) (contentAt registry middle source.binding.key)) later
      (Drains.of_closed edited) fun past next after before drains => ?_
    obtain ⟨_, wasSealed, -⟩ := stays past after ((prefix_append _ _).trans (before.trans earlier))
    obtain ⟨_, nowSealed, -⟩ := stays (past ++ [next]) (after.trans (prefix_append _ _)) (before.trans earlier)
    obtain same | ⟨edit, -, edited⟩ := contentAt_step registry past next source.binding.key
    · rwa [same]
    · exact edited.drains (by rw [wasSealed]; rfl) (by rw [nowSealed]; rfl) isServing drains
  obtain ⟨noStaged, noRetired, highWater⟩ : (contentAt registry first source.binding.key).staged = none ∧
      (contentAt registry first source.binding.key).retired = [] ∧
      (contentAt registry first source.binding.key).AtHighWater current := by
    have noRoute : (contentAt registry calls source.binding.key).current = none := by
      have unrouted : (slot calls).staged.toList ++ (slot calls).current.toList ++ (slot calls).retired = [] := absent.unrouted
      simp only [append_eq_nil_iff, Option.toList_eq_nil_iff] at unrouted
      exact unrouted.1.2
    cases drains calls isPrefix (prefix_refl _) with
    | waits staged retired same highWater =>
      rw [noRoute, found] at same
      cases same
    | drains other isOther noStaged noRetired _ atHighWater =>
      cases found.symm.trans isOther
      exact ⟨noStaged, noRetired, atHighWater⟩
  have identity : source.binding.sourceRoute.identity = current.route.identity := by rw [← witness]; rfl
  have incarnation : source.binding.sourceRoute.incarnation = current.incarnation := by rw [← witness]; rfl
  have fence : source.binding.sourceRoute.fencingToken = current.fencingToken := by rw [← witness]; rfl
  obtain ⟨mark, isMark, markIdentity, markFence⟩ := absent.atHighWater
  have reopened := made.changed.edited.of_reopen
  have unrouted : (last.slotAt source.binding.key).routes = [] := Eq.trans
    (congrArg (fun content : SlotContent => content.staged.toList ++ content.current.toList ++ content.retired) reopened)
    absent.unrouted
  have unsealedLast : (last.slotAt source.binding.key).sealState = none := congrArg SlotContent.sealState reopened
  refine ⟨first, call, closed, current, isPrefix, unsealed, congrArg SlotContent.sealState content,
    generation.trans sameGeneration, found, ?_, serving, highWater, makes.close_idle (by rw [isRoute]; exact nofun) found,
    fun middle later earlier => ⟨?_, fun route isRoute => ?_, fun command excludes => ?_⟩,
    refenced.identity.symm.trans identity, refenced.incarnation.symm.trans incarnation, fence ▸ refenced.next,
    ⟨mark, isMark, markIdentity.trans (refenced.identity.symm.trans identity), markFence⟩, isFence, fun guard alive => ?_,
    unrouted, unsealedLast, ?_⟩
  · have noStaged : (slot first).staged = none := noStaged
    have noRetired : (slot first).retired = [] := noRetired
    have found : (slot first).current = some current := found
    simp [SlotCell.routes, noStaged, noRetired, found]
  · obtain ⟨between, isBetween, same⟩ := stays middle later earlier
    exact ⟨between, isBetween, same.trans generation.symm⟩
  · exact (drains middle later earlier).mem_routes found noStaged noRetired isRoute
  · obtain ⟨between, isBetween, -⟩ := stays middle later earlier
    rcases called : command.perform registry (after registry middle).state with ⟨error | answer, _⟩
    · exact ⟨error, rfl⟩
    · cases (Command.excluded_unsealed (sound_after registry middle) excludes called).symm.trans isBetween
  · intro sameKey
    obtain ⟨route, isUser, -⟩ := ((accounted_after registry calls).2.accounts guard.key).present guard.incarnation
      (countP_pos_iff.mpr ⟨guard, alive, by simp⟩)
    rw [sameKey] at isUser
    have isRoute : route ∈ (slot calls).routes := mem_routes.mpr (.inr isUser)
    rw [absent.unrouted] at isRoute
    cases isRoute
  · rw [isObserved, SlotCell.observed, SlotCell.admissionState, unsealedLast]
    have unselected : selectedRoute (last.slotAt source.binding.key) = none := by
      simp only [SlotCell.routes, append_eq_nil_iff, Option.toList_eq_nil_iff] at unrouted
      rw [selectedRoute, unrouted.1.2, unrouted.1.1]
      rfl
    rw [unselected]
    rfl

end RegistrySystem

/-! A slot that is drained while an interaction is still going on. -/

namespace Scenario
open Convergence.Scenario (identity target firstProcess counter count_pos count_bounded)

def number (count : Fin 100) : NonZeroU64 := ⟨count + 1, count_pos count, count_bounded count⟩

def registry : RegistryInner :=
  ⟨number 0, ⟨⟨4, by decide, by decide⟩, ⟨8, by decide, by decide⟩, ⟨2, by decide, by decide⟩⟩⟩

def key : ServingSlotKeyV1 := .fromTarget target
def process : RuntimeProcessIdentityV1 := ⟨target, .first, firstProcess⟩
def route : ExactServingRouteV1 := ⟨identity, process⟩
def token : SlotMutationTokenV1 := ⟨number 0, key, process, counter 0, number 0⟩
def intentId : RuntimeDrainIntentIdV2 := ⟨"00000000000000000000000000000001", by decide +kernel⟩
def sealKey : SlotSealKeyV2 := ⟨intentId.canonicalBytes, by decide +kernel⟩
def digest : RegistryDurableReceiptDigestV4 := ⟨1 :: List.replicate 31 0, by decide, by decide⟩

def witness (fence : Fin 100) (lifecycle : SlotLifecycleV1) : SlotRouteWitnessV1 :=
  ⟨process, counter fence, number 0, lifecycle⟩

def serving : SlotAtomicObservationV2 := ⟨some (witness 0 .serving), .serving, 1, number 1, number 2⟩

def sealedWith (route : Option SlotRouteWitnessV1) (admission observation : Fin 100) : SlotAtomicObservationV2 :=
  ⟨route, .drainClaimSealed sealKey (number 0), 0, number admission, number observation⟩

def authorization : RuntimeSelectedCurrentRoutedClaimedV4 :=
  { slot := key, intentId, sourceRoute := ⟨process, counter 0, number 0⟩, controllerFencingToken := counter 1
    sealGeneration := number 0, sealRegistryObservationSequence := number 4, provenance := none, refencedAt := none
    registryObservationSequence := none, claimTerminalDigest := digest, lineage := by rfl }

def binding (current : SlotRouteWitnessV1) (admission observation sequence : Fin 100) : SealedRouteBindingV4 :=
  { registry := number 0, intentId, key, sealKey, sealGeneration := number 0, sourceRoute := witness 0 .serving
    currentRoute := current, routedSlotObservation := sealedWith (some (witness 0 .serving)) 2 3
    routedRegistryObservationSequence := number 4, slotObservation := sealedWith (some current) admission observation
    registryObservationSequence := number sequence, totalActiveInteractions := 0 }

def claimed : RoutedClaimedSealedV4 := ⟨binding (witness 0 .serving) 2 4 5, counter 1, digest⟩
def refenced : LocallyRefencedSealedV4 := ⟨binding (witness 1 .serving) 3 5 6, digest, .ordinary, 0, number 6⟩
def durable : DurablyRefencedSealedV4 := ⟨binding (witness 1 .serving) 3 5 6, digest, digest⟩
def draining : DrainingRefencedSealedV4 := ⟨binding (witness 1 .draining) 4 6 7, digest, digest⟩
def drainingObservation : DrainingRefencedObservationV4 :=
  ⟨number 0, key, sealKey, number 0, draining.binding.slotObservation, number 7, 0⟩

def absent : RouteAbsentSealedV4 :=
  ⟨{ registry := number 0, intentId, key, sealKey, sealGeneration := number 0, sourceRoute := witness 0 .serving
     removedRoute := witness 1 .draining, slotObservation := sealedWith none 5 7
     registryObservationSequence := number 8 }, digest, digest⟩

/-- The slot is sealed while an interaction is going on. -/
def calls : List Call :=
  [.order (.install key route (counter 0)), .order (.activate token process), .order (.admitInteraction key),
    .order (.sealDrainClaimV2 key sealKey (some serving)), .drop ⟨number 0, key, number 0⟩,
    .ask (.recoverRoutedClaimedStateV4 authorization), .order (.refenceRoutedClaimStateV4 claimed .ordinary 0),
    .ask (.bindDurableRefenceWithDigestV4 refenced digest), .order (.beginDrainRefencedStateV4 durable),
    .order (.removeDrainingRefencedStateV4 draining drainingObservation)]

theorem ok_of_isOk {α β γ : Type} {result : Except α β × γ} (isOk : result.1.isOk = true) :
    ∃ reply last, result = (.ok reply, last) := by
  obtain ⟨error | reply, last⟩ := result
  · cases isOk
  · exact ⟨reply, last, rfl⟩

end Scenario

namespace RegistrySystem
open Scenario

/-- In the run of the scenario the slot was in use when it was sealed. -/
theorem drain_claim_seals_used_slot :
    let slot (calls : List Call) := (after registry calls).state.slotAt absent.binding.key
    (after registry calls).Holds registry [.routeAbsent absent] ∧
      (∃ reply last, consumeRouteAbsentWithDigestV4 registry absent digest (after registry calls).state =
        (.ok reply, last)) ∧
      ∀ first call sealed current, first ++ [call] <+: calls → (slot first).sealState = none →
        (slot (first ++ [call])).sealState = some sealed → sealed.sealGeneration = absent.binding.sealGeneration →
        (slot first).current = some current → current.activeInteractions = 1 := by
  intro slot
  refine ⟨by decide +kernel, ok_of_isOk (by decide +kernel), ?_⟩
  intro first call sealed current isPrefix unsealed isSealed generation found
  have check : ∀ count < calls.length, (slot (calls.take count)).sealState = none →
      (∃ sealed ∈ (slot (calls.take (count + 1))).sealState, sealed.sealGeneration = absent.binding.sealGeneration) →
      ∀ current ∈ (slot (calls.take count)).current, current.activeInteractions = 1 := by
    decide +kernel
  have short : first.length < calls.length := by
    have bound := isPrefix.length_le
    rwa [length_append, length_singleton] at bound
  have isFirst : calls.take first.length = first :=
    (prefix_iff_eq_take.mp ((prefix_append _ _).trans isPrefix)).symm
  have isNext : calls.take (first.length + 1) = first ++ [call] := by
    simpa using (prefix_iff_eq_take.mp isPrefix).symm
  have atFirst := check first.length short
  rw [isFirst, isNext] at atFirst
  exact atFirst unsealed ⟨sealed, isSealed, generation⟩ current found

/-- The run of the scenario meets what is assumed of a drain. -/
theorem scenario_slot_is_empty : ∃ reply last,
    consumeRouteAbsentWithDigestV4 registry absent digest (after registry calls).state = (.ok reply, last) ∧
      (last.slotAt key).routes = [] ∧ (last.slotAt key).sealState = none ∧
      reply.successorFence = absent.binding.removedRoute.fencingToken := by
  obtain ⟨reply, last, consumed⟩ : ∃ reply last, consumeRouteAbsentWithDigestV4 registry absent digest
      (after registry calls).state = (.ok reply, last) := ok_of_isOk (by decide +kernel)
  obtain ⟨-, -, -, -, -, -, -, -, -, -, -, -, -, -, -, -, -, -, isFence, -, unrouted, unsealed, -⟩ :=
    drained_slot_is_empty registry calls absent digest reply last (by decide +kernel) consumed
  exact ⟨reply, last, consumed, unrouted, unsealed, isFence⟩

end RegistrySystem

end Starring.Registry
