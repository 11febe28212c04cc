import Starring.Registry.Capabilities
import Starring.Registry.Guards

/-! Fences of routes. The high water of a slot only rises, a staged route is always at it, and the routes that serve a slot
follow each other in the order of their fences; who has not the last fence can do nothing but remove what is over. -/

namespace Starring.Registry
open Foundation Convergence List RegistrySystem RouteRecord

/-- Fences are compared by their generation first. -/
def FenceHighWater.mark (self : FenceHighWater) : Nat ×ₗ Nat := toLex (self.generation.get, self.fencingToken.get)

def RouteRecord.mark (self : RouteRecord) : Nat ×ₗ Nat :=
  toLex (self.route.identity.runtimeGeneration.get, self.fencingToken.get)

/-- The new fence of a slot that has a route at its high water is not below it. -/
def SlotEdit.Raises (content : SlotContent) : SlotEdit → Prop
  | .refence fencingToken => ∀ highWater, content.highWater = some highWater → highWater.fencingToken ≤ fencingToken
  | _ => True

namespace SlotContent

/-- No route is above the high water, and a staged route is the only one at it. -/
structure Fenced (content : SlotContent) : Prop where
  named : ∀ highWater, content.highWater = some highWater → highWater.generation = highWater.identity.runtimeGeneration
  staged : ∀ staged, content.staged = some staged → content.AtHighWater staged
  current : ∀ current, content.current = some current →
    ∃ highWater, content.highWater = some highWater ∧ current.mark ≤ highWater.mark
  behind : ∀ current staged, content.current = some current → content.staged = some staged → current.mark < staged.mark

def routes (content : SlotContent) : List RouteRecord :=
  content.staged.toList ++ content.current.toList ++ content.retired

/-- What has this identity is the only one of its generation. -/
structure Owns (content : SlotContent) (identity : RuntimeProcessIdentityV1) : Prop where
  highWater : ∃ highWater, content.highWater = some highWater ∧
    identity.runtimeGeneration.get ≤ highWater.generation.get ∧
      (highWater.generation = identity.runtimeGeneration → highWater.identity = identity)
  routes : ∀ route ∈ content.routes, route.route.identity.runtimeGeneration = identity.runtimeGeneration →
    route.route.identity = identity

/-- The high water has come to this mark, and a staged route is beyond it. -/
structure Above (content : SlotContent) (mark : Nat ×ₗ Nat) : Prop where
  highWater : ∃ highWater, content.highWater = some highWater ∧ mark ≤ highWater.mark
  staged : ∀ staged, content.staged = some staged → mark < staged.mark

variable {content before after : SlotContent} {identity : RuntimeProcessIdentityV1} {fencingToken : FencingToken}
  {highWater : FenceHighWater}

variable {route : RouteRecord}

theorem mem_routes_iff :
    route ∈ content.routes ↔ content.staged = some route ∨ content.current = some route ∨ route ∈ content.retired := by
  simp [routes, Option.mem_toList]

theorem AtHighWater.mark (atHighWater : content.AtHighWater route) (fenced : content.Fenced) :
    ∃ highWater, content.highWater = some highWater ∧ highWater.mark = route.mark := by
  obtain ⟨highWater, found, sameIdentity, sameFence⟩ := atHighWater
  refine ⟨highWater, found, ?_⟩
  rw [FenceHighWater.mark, RouteRecord.mark, fenced.named highWater found, sameIdentity, sameFence]

theorem Admits.mark (admits : content.Admits identity fencingToken) (found : content.highWater = some highWater) :
    highWater.mark < (FenceHighWater.of identity fencingToken).mark := by
  refine Prod.Lex.toLex_lt_toLex.mpr ?_
  obtain later | ⟨same, -, higher⟩ := admits highWater found
  · exact .inl later
  · exact .inr ⟨congrArg Counter.get same, higher⟩

theorem mark_raised (fencingToken : FencingToken) (raises : highWater.fencingToken ≤ fencingToken) :
    highWater.mark ≤ { highWater with fencingToken }.mark :=
  Prod.Lex.toLex_le_toLex.mpr (.inr ⟨rfl, raises⟩)

theorem mark_refenced (next : route.fencingToken.next = .ok fencingToken) :
    route.mark < (route.refenced fencingToken).mark := by
  refine Prod.Lex.toLex_lt_toLex.mpr (.inr ⟨rfl, ?_⟩)
  have following := Counter.next_eq_ok next
  simp only [refenced]
  omega

theorem AtHighWater.raise (atHighWater : content.AtHighWater route) (fenced : content.Fenced)
    (fencingToken : FencingToken) : ∃ highWater, content.raise fencingToken = some highWater ∧
      highWater.generation = highWater.identity.runtimeGeneration ∧ highWater.identity = route.route.identity ∧
      highWater.fencingToken = fencingToken ∧ highWater.mark = (route.refenced fencingToken).mark := by
  obtain ⟨highWater, found, sameIdentity, -⟩ := atHighWater
  have named := fenced.named highWater found
  refine ⟨{ highWater with fencingToken }, by simp [SlotContent.raise, found], named, sameIdentity, rfl, ?_⟩
  simp only [RouteRecord.mark, FenceHighWater.mark, refenced, named, sameIdentity]

theorem Fenced.keep (fenced : before.Fenced) (sameHighWater : after.highWater = before.highWater)
    (sameStaged : ∀ staged, after.staged = some staged → before.staged = some staged)
    (sameCurrent : ∀ current, after.current = some current → ∃ old, before.current = some old ∧ current.mark = old.mark) :
    after.Fenced where
  named highWater found := fenced.named highWater (sameHighWater ▸ found)
  staged staged found := by
    obtain ⟨highWater, isHighWater, same⟩ := fenced.staged staged (sameStaged staged found)
    exact ⟨highWater, sameHighWater.trans isHighWater, same⟩
  current current found := by
    obtain ⟨old, was, same⟩ := sameCurrent current found
    rw [sameHighWater, same]
    exact fenced.current old was
  behind current staged found isStaged := by
    obtain ⟨old, was, same⟩ := sameCurrent current found
    rw [same]
    exact fenced.behind old staged was (sameStaged staged isStaged)

theorem Fenced.raised {sealState : Option SlotSealState} (fenced : content.Fenced) (noStaged : content.staged = none)
    (atHighWater : content.AtHighWater route) : Fenced
      { content with
        highWater := content.raise fencingToken
        current := some (route.refenced fencingToken)
        sealState } := by
  obtain ⟨highWater, raised, named, -, -, mark⟩ := atHighWater.raise fenced fencingToken
  refine ⟨?_, fun staged here => (nomatch noStaged.symm.trans here), ?_, fun _ staged _ here => (nomatch noStaged.symm.trans here)⟩
  · intro other isOther
    cases raised.symm.trans isOther
    exact named
  · rintro current ⟨⟩
    exact ⟨highWater, raised, mark.ge⟩

end SlotContent

namespace Edited
open SlotContent
variable {limit : Nat} {before after : SlotContent} {edit : SlotEdit}

theorem fenced (edited : Edited limit before edit after) (fenced : before.Fenced) : after.Fenced := by
  cases edited with
  | install record unsealed isNew admits =>
    have below (current : RouteRecord) (found : before.current = some current) : current.mark < record.mark := by
      obtain ⟨highWater, isHighWater, le⟩ := fenced.current current found
      exact lt_of_le_of_lt le (admits.mark isHighWater)
    refine ⟨?_, ?_, fun current found => ⟨_, rfl, (below current found).le⟩, ?_⟩
    · rintro highWater ⟨⟩
      rfl
    · rintro staged ⟨⟩
      exact ⟨_, rfl, rfl, rfl⟩
    · rintro current staged found ⟨⟩
      exact below current found
  | activate staged sequence unsealed found =>
    refine ⟨fenced.named, by simp, ?_, by simp⟩
    rintro current ⟨⟩
    obtain ⟨highWater, isHighWater, same⟩ := (fenced.staged staged found).mark fenced
    exact ⟨highWater, isHighWater, same.ge⟩
  | beginDrain current unsealed found | admitInteraction current unsealed found | releaseCurrent current found =>
    exact fenced.keep rfl (fun _ found => found) (by rintro _ ⟨⟩; exact ⟨current, found, rfl⟩)
  | removeStaged => exact fenced.keep rfl (by simp) fun current found => ⟨current, found, rfl⟩
  | removeCurrent | removeSealed => exact fenced.keep rfl (fun _ found => found) (by simp)
  | removeRetired | releaseRetired | close | reopen =>
    exact fenced.keep rfl (fun _ found => found) fun current found => ⟨current, found, rfl⟩
  | advanceStaged staged fencingToken unsealed found atHighWater next =>
    obtain ⟨highWater, raised, named, sameIdentity, sameFence, mark⟩ := atHighWater.raise fenced fencingToken
    have beyond (current : RouteRecord) (here : before.current = some current) :
        current.mark < (staged.refenced fencingToken).mark :=
      lt_trans (fenced.behind current staged here found) (mark_refenced next)
    refine ⟨?_, ?_, fun current here => ⟨highWater, raised, mark ▸ (beyond current here).le⟩, ?_⟩
    · intro other isOther
      cases raised.symm.trans isOther
      exact named
    · rintro staged ⟨⟩
      exact ⟨highWater, raised, sameIdentity, sameFence⟩
    · rintro current staged here ⟨⟩
      exact beyond current here
  | advanceCurrent current fencingToken unsealed found atHighWater next =>
    -- A staged route would be at the high water too, but the current one is behind it.
    have noStaged : before.staged = none := by
      cases here : before.staged with
      | none => rfl
      | some staged =>
        obtain ⟨_, isHighWater, same⟩ := (fenced.staged staged here).mark fenced
        obtain ⟨_, isHighWater', same'⟩ := atHighWater.mark fenced
        cases isHighWater.symm.trans isHighWater'
        exact absurd (fenced.behind current staged found here) (by rw [← same, ← same']; exact lt_irrefl _)
    exact fenced.raised noStaged atHighWater
  | refence current sealed fencingToken only serving atHighWater found => exact fenced.raised only.2.1 atHighWater
  | drainSealed current sealed only =>
    exact fenced.keep rfl (fun _ found => found) (by rintro _ ⟨⟩; exact ⟨current, only.1, rfl⟩)
  | succeed identity fencingToken sealed found unrouted admits =>
    obtain ⟨noCurrent, noStaged⟩ : before.current = none ∧ before.staged = none := by
      simpa [SlotContent.selected, Option.or_eq_none_iff] using unrouted
    refine ⟨?_, by simp [noStaged], by simp [noCurrent], by simp [noCurrent]⟩
    rintro highWater ⟨⟩
    rfl

/-- The high water does not fall, and it keeps its identity while it keeps its generation. -/
theorem rises (edited : Edited limit before edit after) (raises : edit.Raises before) {highWater : FenceHighWater}
    (found : before.highWater = some highWater) :
    ∃ next, after.highWater = some next ∧ highWater.mark ≤ next.mark ∧
      (next.generation = highWater.generation → next.identity = highWater.identity) := by
  have raised {fencingToken : FencingToken} (higher : highWater.fencingToken ≤ fencingToken) :
      ∃ next, before.raise fencingToken = some next ∧ highWater.mark ≤ next.mark ∧
        (next.generation = highWater.generation → next.identity = highWater.identity) :=
    ⟨{ highWater with fencingToken }, by simp [SlotContent.raise, found], mark_raised _ higher, fun _ => rfl⟩
  have admitted {identity : RuntimeProcessIdentityV1} {fencingToken : FencingToken}
      (admits : before.Admits identity fencingToken) (same : identity.runtimeGeneration = highWater.generation) :
      identity = highWater.identity := by
    obtain later | ⟨-, same, -⟩ := admits highWater found
    · rw [same] at later
      exact absurd later (Nat.lt_irrefl _)
    · exact same.symm
  cases edited with
  | install record unsealed isNew admits | succeed identity fencingToken sealed isSealed unrouted admits =>
    exact ⟨_, rfl, (admits.mark found).le, admitted admits⟩
  | advanceStaged staged fencingToken unsealed here atHighWater next
  | advanceCurrent current fencingToken unsealed here atHighWater next =>
    obtain ⟨_, found', -, sameFence⟩ := atHighWater
    cases found.symm.trans found'
    refine raised ?_
    rw [sameFence]
    exact (Nat.le_succ _).trans (Counter.next_eq_ok next).ge
  | refence => exact raised (raises highWater found)
  | _ => exact ⟨highWater, found, le_rfl, fun _ => rfl⟩

theorem mem_routes (edited : Edited limit before edit after) {route : RouteRecord} (mem : route ∈ after.routes) :
    (∃ old ∈ before.routes, route.route = old.route) ∨ edit = .install route := by
  rw [mem_routes_iff] at mem
  have kept (here : before.staged = some route ∨ before.current = some route ∨ route ∈ before.retired) :
      (∃ old ∈ before.routes, route.route = old.route) ∨ edit = .install route :=
    .inl ⟨route, mem_routes_iff.mpr here, rfl⟩
  have replaced {old : RouteRecord} (here : before.staged = some old ∨ before.current = some old ∨ old ∈ before.retired)
      (same : route.route = old.route) : (∃ old ∈ before.routes, route.route = old.route) ∨ edit = .install route :=
    .inl ⟨old, mem_routes_iff.mpr here, same⟩
  have exchanged {old next : RouteRecord} (found : before.current = some old)
      (mem : before.staged = some route ∨ some next = some route ∨ route ∈ before.retired) (same : next.route = old.route) :
      (∃ old ∈ before.routes, route.route = old.route) ∨ edit = .install route := by
    obtain mem | ⟨⟨⟩⟩ | mem := mem
    · exact kept (.inl mem)
    · exact replaced (.inr (.inl found)) same
    · exact kept (.inr (.inr mem))
  have removed (mem : before.staged = some route ∨ none = some route ∨ route ∈ before.retired) :
      (∃ old ∈ before.routes, route.route = old.route) ∨ edit = .install route := by
    obtain mem | ⟨⟨⟩⟩ | mem := mem
    · exact kept (.inl mem)
    · exact kept (.inr (.inr mem))
  cases edited with
  | install record =>
    obtain ⟨⟨⟩⟩ | mem := mem
    · exact .inr rfl
    · exact kept (.inr mem)
  | activate staged sequence unsealed found =>
    obtain ⟨⟨⟩⟩ | ⟨⟨⟩⟩ | mem := mem
    · exact replaced (.inl found) rfl
    · obtain ⟨mem, -⟩ | ⟨current, here, -, rfl⟩ := mem_retire mem
      · exact kept (.inr (.inr mem))
      · exact replaced (.inr (.inl here)) rfl
  | removeStaged =>
    obtain ⟨⟨⟩⟩ | mem := mem
    exact kept (.inr mem)
  | removeRetired => exact kept (mem.imp_right (Or.imp_right mem_of_mem_filter))
  | advanceStaged staged fencingToken unsealed found =>
    obtain ⟨⟨⟩⟩ | mem := mem
    · exact replaced (.inl found) rfl
    · exact kept (.inr mem)
  | releaseRetired incarnation =>
    obtain mem | mem | mem := mem
    · exact kept (.inl mem)
    · exact kept (.inr (.inl mem))
    · obtain ⟨old, here, rfl⟩ := mem_map.mp mem
      refine replaced (.inr (.inr here)) ?_
      split <;> rfl
  | beginDrain current unsealed found | advanceCurrent current fencingToken unsealed found
  | admitInteraction current unsealed found | releaseCurrent current found => exact exchanged found mem rfl
  | refence current sealed fencingToken only | drainSealed current sealed only => exact exchanged only.1 mem rfl
  | removeCurrent | removeSealed => exact removed mem
  | close | reopen | succeed => exact kept mem

theorem owns (edited : Edited limit before edit after) (raises : edit.Raises before) {identity : RuntimeProcessIdentityV1}
    (owns : before.Owns identity) : after.Owns identity := by
  obtain ⟨highWater, found, le, own⟩ := owns.highWater
  obtain ⟨next, here, rises, keeps⟩ := edited.rises raises found
  have later : highWater.generation.get ≤ next.generation.get := by
    obtain later | ⟨same, -⟩ := Prod.Lex.toLex_le_toLex.mp rises
    · exact later.le
    · exact same.le
  have hasOwn : next.generation = identity.runtimeGeneration → next.identity = identity := by
    intro same
    have same' : highWater.generation = identity.runtimeGeneration := by
      refine counter_eq_of_not_lt (fun below => ?_) fun above => ?_
      · exact absurd le (Nat.not_le.mpr below)
      · rw [← same] at above
        exact absurd later (Nat.not_le.mpr above)
    rw [keeps (same.trans same'.symm), own same']
  refine ⟨⟨next, here, le.trans later, hasOwn⟩, fun route mem sameGeneration => ?_⟩
  obtain ⟨old, was, same⟩ | rfl := edited.mem_routes mem
  · rw [same] at sameGeneration ⊢
    exact owns.routes old was sameGeneration
  · cases edited
    cases here
    exact hasOwn sameGeneration

theorem of_removeRetired {incarnation : NonZeroU64} (edited : Edited limit before (.removeRetired incarnation) after) :
    after = { before with retired := before.retired.filter fun retired => retired.incarnation ≠ incarnation } := by
  cases edited
  rfl

/-- All routes of a slot that have the same generation have the same identity. -/
theorem allOwned (edited : Edited limit before edit after) (raises : edit.Raises before)
    (owned : ∀ route ∈ before.routes, before.Owns route.route.identity) :
    ∀ route ∈ after.routes, after.Owns route.route.identity := by
  intro route mem
  obtain ⟨old, was, same⟩ | rfl := edited.mem_routes mem
  · rw [same]
    exact edited.owns raises (owned old was)
  · refine ⟨?_, fun other isOther sameGeneration => ?_⟩
    · cases edited
      exact ⟨_, rfl, Nat.le_refl _, fun _ => rfl⟩
    · obtain ⟨old, was, same⟩ | isNew := edited.mem_routes isOther
      · obtain ⟨highWater, found, -, own⟩ := (edited.owns raises (owned old was)).highWater
        cases edited
        cases found
        rw [same] at sameGeneration ⊢
        exact (own sameGeneration.symm).symm
      · cases isNew
        rfl

theorem staged_cases (edited : Edited limit before edit after) {staged : RouteRecord} (found : after.staged = some staged) :
    before.staged = some staged ∨ edit = .install staged ∨
      ∃ old, before.staged = some old ∧ old.mark < staged.mark := by
  cases edited with
  | install record =>
    cases found
    exact .inr (.inl rfl)
  | advanceStaged old fencingToken unsealed here atHighWater next =>
    cases found
    exact .inr (.inr ⟨old, here, mark_refenced next⟩)
  | activate | removeStaged => cases found
  | _ => exact .inl found

theorem above (edited : Edited limit before edit after) (raises : edit.Raises before) {mark : Nat ×ₗ Nat}
    (above : before.Above mark) : after.Above mark := by
  obtain ⟨highWater, found, le⟩ := above.highWater
  obtain ⟨next, here, rises, -⟩ := edited.rises raises found
  refine ⟨⟨next, here, le.trans rises⟩, fun staged isStaged => ?_⟩
  obtain was | rfl | ⟨old, was, higher⟩ := edited.staged_cases isStaged
  · exact above.staged staged was
  · cases edited with
    | install _ _ _ admits => exact lt_of_le_of_lt le (admits.mark found)
  · exact lt_trans (above.staged old was) higher

theorem current_cases (edited : Edited limit before edit after) {current : RouteRecord}
    (found : after.current = some current) :
    (∃ staged activationSequence, edit = .activate activationSequence ∧ before.staged = some staged ∧
      current = staged.activated activationSequence ∧ after.staged = none ∧ after.highWater = before.highWater) ∨
    (∀ activationSequence, edit ≠ .activate activationSequence) ∧
      ∃ old, before.current = some old ∧ old.incarnation = current.incarnation ∧ old.route = current.route ∧
        (current.lifecycle = .serving → old.lifecycle = .serving) := by
  cases edited with
  | activate staged sequence unsealed here =>
    cases found
    exact .inl ⟨staged, sequence, rfl, here, rfl, rfl, rfl⟩
  | beginDrain old unsealed here serving =>
    cases found
    exact .inr ⟨nofun, old, here, rfl, rfl, nofun⟩
  | advanceCurrent old fencingToken unsealed here | admitInteraction old unsealed here | releaseCurrent old here =>
    cases found
    exact .inr ⟨nofun, old, here, rfl, rfl, id⟩
  | refence old sealed fencingToken only =>
    cases found
    exact .inr ⟨nofun, old, only.1, rfl, rfl, id⟩
  | drainSealed old sealed only =>
    cases found
    exact .inr ⟨nofun, old, only.1, rfl, rfl, nofun⟩
  | removeCurrent | removeSealed => cases found
  | _ => exact .inr ⟨nofun, current, found, rfl, rfl, id⟩

end Edited

def Command.authority : Command → Option SlotMutationTokenV1
  | .activate token _ | .activateWithSequenceV2 token _ | .beginDrain token | .remove token
  | .advanceAuthority token _ _ => some token
  | .beginDrainWithAuthority authority _ | .removeWithAuthority authority _ => some authority
  | _ => none

namespace RegistrySystem
open SlotContent
variable {registry : RegistryInner} {before : RegistrySystem} {call : Call} {key : ServingSlotKeyV1} {edit : SlotEdit}

theorem CallMakes.raises (makes : CallMakes registry before call key edit) (genuine : before.AllGenuine registry) :
    edit.Raises (before.state.slotAt key).content := by
  cases makes with
  | dropCurrent | dropRetired => trivial
  | order command key edit holds makes =>
    cases makes with
    | refenceRoutedClaimStateV4 source provenance refencedAt slot current own route =>
      have claimed : ClaimedAt _ _ _ := genuine _ (holds.mem mem_cons_self own) own
      intro highWater found
      obtain ⟨_, found', -, sameFence⟩ := route.atHighWater
      rw [RegistryState.slotAt_of_some route.found] at found
      cases found.symm.trans found'
      have next := Counter.next_eq_ok claimed.next
      rw [sameFence, Counter.le_def]
      have fence : current.fencingToken = source.binding.currentRoute.fencingToken := by rw [← route.witness]; rfl
      rw [fence]
      obtain same | same := claimed.fence <;> rw [same] <;> omega
    | remove token outcome edit removal => cases removal <;> trivial
    | removeWithAuthority authority target outcome edit removal => cases removal <;> trivial
    | advanceAuthority token identity next edit isAdvance => obtain rfl | rfl := isAdvance <;> trivial
    | _ => trivial

theorem contentAt_forward {motive : SlotContent → Prop} {first calls : List Call} (isPrefix : first <+: calls)
    (start : motive (contentAt registry first key))
    (keeps : ∀ before edit after, Edited registry.config.maxActiveInteractionsPerSlot.get before edit after →
      edit.Raises before → motive before → motive after) : motive (contentAt registry calls key) := by
  refine forward (motive := fun calls => motive (contentAt registry calls key)) isPrefix start fun past call _ _ holds => ?_
  obtain same | ⟨edit, makes, edited⟩ := contentAt_step registry past call key
  · rwa [same]
  · exact keeps _ edit _ edited (makes.raises (allGenuine_after registry past)) holds

theorem contentAt_fenced (registry : RegistryInner) (calls : List Call) (key : ServingSlotKeyV1) :
    (contentAt registry calls key).Fenced := by
  refine contentAt_forward nil_prefix ?_ fun _ _ _ edited _ fenced => edited.fenced fenced
  rw [contentAt_nil]
  exact ⟨nofun, nofun, nofun, nofun⟩

theorem contentAt_owned (registry : RegistryInner) (calls : List Call) (key : ServingSlotKeyV1) :
    ∀ route ∈ (contentAt registry calls key).routes, (contentAt registry calls key).Owns route.route.identity := by
  refine contentAt_forward (motive := fun content => ∀ route ∈ content.routes, content.Owns route.route.identity)
    nil_prefix ?_ fun _ _ _ edited raises owned => edited.allOwned raises owned
  rw [contentAt_nil]
  exact nofun

/-- A route that serves after a call and did not before. -/
def BecomesServing (before after : RegistryState) (key : ServingSlotKeyV1) (route : RouteRecord) : Prop :=
  (after.slotAt key).current = some route ∧ route.lifecycle = .serving ∧
    ∀ old, (before.slotAt key).current = some old → old.lifecycle = .serving → old.incarnation ≠ route.incarnation

/-- The call makes a route serve that did not before. -/
def ServesFrom (registry : RegistryInner) (calls : List Call) (call : Call) (key : ServingSlotKeyV1) (route : RouteRecord) :
    Prop :=
  BecomesServing (after registry calls).state (after registry (calls ++ [call])).state key route

theorem current_step (registry : RegistryInner) (calls : List Call) (call : Call) {current : RouteRecord}
    (found : (contentAt registry (calls ++ [call]) key).current = some current) :
    (∃ staged activationSequence, (contentAt registry calls key).staged = some staged ∧
      current = staged.activated activationSequence ∧ (contentAt registry (calls ++ [call]) key).staged = none ∧
      (contentAt registry (calls ++ [call]) key).highWater = (contentAt registry calls key).highWater) ∨
    ∃ old, (contentAt registry calls key).current = some old ∧ old.incarnation = current.incarnation ∧
      old.route = current.route ∧ (current.lifecycle = .serving → old.lifecycle = .serving) := by
  obtain same | ⟨edit, makes, edited⟩ := contentAt_step registry calls call key
  · rw [same] at found
    exact .inr ⟨current, found, rfl, rfl, id⟩
  · exact (edited.current_cases found).imp (fun ⟨staged, sequence, _, rest⟩ => ⟨staged, sequence, rest⟩) fun kept => kept.2

theorem servesFrom_activated {calls : List Call} {route : RouteRecord} (serves : ServesFrom registry calls call key route) :
    ∃ staged activationSequence, (contentAt registry calls key).staged = some staged ∧
      route = staged.activated activationSequence ∧ (contentAt registry (calls ++ [call]) key).staged = none ∧
      (contentAt registry (calls ++ [call]) key).highWater = (contentAt registry calls key).highWater := by
  obtain activated | ⟨old, was, same, -, served⟩ := current_step registry calls call serves.1
  · exact activated
  · exact absurd same (serves.2.2 old was (served serves.2.1))

theorem last_activation (registry : RegistryInner) (calls : List Call) {current : RouteRecord}
    (found : (contentAt registry calls key).current = some current) :
    ∃ first call route, first ++ [call] <+: calls ∧ ServesFrom registry first call key route ∧
      route.incarnation = current.incarnation ∧ route.route = current.route ∧
      ∀ past next other, first ++ [call] <+: past → past ++ [next] <+: calls → ¬ServesFrom registry past next key other := by
  induction calls using List.reverseRecOn generalizing current with
  | nil => exact absurd ((congrArg SlotContent.current (contentAt_nil registry key)).symm.trans found) nofun
  | append_singleton calls call ih =>
    obtain ⟨staged, sequence, isStaged, rfl, -⟩ | ⟨old, was, sameIncarnation, sameRoute, served⟩ :=
      current_step registry calls call found
    · refine ⟨calls, call, _, prefix_refl _, ⟨found, rfl, fun old was _ => ?_⟩, rfl, rfl,
        fun past next _ later earlier => ?_⟩
      · exact ((accounted_after registry calls).2.distinct key).staged staged isStaged old (mem_users_current was)
      · have longer := later.length_le
        have shorter := earlier.length_le
        simp only [length_append, length_singleton] at longer shorter
        omega
    · obtain ⟨first, activation, route, before, serves, isIncarnation, isRoute, isLast⟩ := ih was
      refine ⟨first, activation, route, before.trans (prefix_append _ _), serves, isIncarnation.trans sameIncarnation,
        isRoute.trans sameRoute, fun past next other later earlier servesAgain => ?_⟩
      obtain same | earlier := prefix_concat_iff.mp earlier
      · obtain ⟨rfl, isCall⟩ := append_inj' same rfl
        cases isCall
        cases found.symm.trans servesAgain.1
        exact servesAgain.2.2 old was (served servesAgain.2.1) sameIncarnation
      · exact isLast past next other later earlier servesAgain

theorem servesFrom_increasing {first second : List Call} {next : Call} {route other : RouteRecord}
    (later : first ++ [call] <+: second) (serves : ServesFrom registry first call key route)
    (servesNext : ServesFrom registry second next key other) : route.mark < other.mark := by
  obtain ⟨staged, sequence, isStaged, rfl, noStaged, sameHighWater⟩ := servesFrom_activated serves
  obtain ⟨staged', sequence', isStaged', rfl, -⟩ := servesFrom_activated servesNext
  have fenced := contentAt_fenced registry first key
  obtain ⟨highWater, isHighWater, mark⟩ := (fenced.staged staged isStaged).mark fenced
  have above : (contentAt registry (first ++ [call]) key).Above staged.mark :=
    ⟨⟨highWater, sameHighWater.trans isHighWater, mark.ge⟩, fun _ here => (nomatch noStaged.symm.trans here)⟩
  exact (contentAt_forward (motive := fun content => content.Above staged.mark) later above
    fun _ _ _ edited raises above => edited.above raises above).staged staged' isStaged'

/-- What is left to a token that has not the last fence. -/
theorem stale_authority (calls : List Call) {command : Command} {token : SlotMutationTokenV1}
    (isAuthority : command.authority = some token)
    (stale : ¬(contentAt registry calls token.key).Authorizes token) :
    let state := (after registry calls).state
    let last := (command.perform registry state).2
    (∀ key, (last.slotAt key).content = (state.slotAt key).content) ∨
      ∃ route ∈ (state.slotAt token.key).retired, route.matches token = true ∧ route.lifecycle = .draining ∧
        route.activeInteractions = 0 ∧ (∀ key, key ≠ token.key → last.slotAt key = state.slotAt key) ∧
        (last.slotAt token.key).content =
          { (state.slotAt token.key).content with
            retired := (state.slotAt token.key).retired.filter fun retired => retired.incarnation ≠ token.incarnation } := by
  intro state last
  have sound := sound_after registry calls
  obtain ⟨result, called⟩ : ∃ result, command.perform registry state = (result, last) := ⟨_, rfl⟩
  cases result with
  | error error => exact .inl ((command.settles sound).of_error called).content
  | ok answer =>
    obtain same | ⟨key, edit, makes, changed⟩ := (command.settles sound).of_ok called
    · exact .inl same.failed.content
    · have activated {staged : RouteRecord} (found : (state.slotAt token.key).staged = some staged)
          (isMatch : staged.matches token = true) : (state.slotAt token.key).content.Authorizes token := by
        obtain ⟨highWater, isHighWater, sameIdentity, sameFence⟩ := (contentAt_fenced registry calls token.key).staged staged found
        obtain ⟨-, fence, identity⟩ := matches_iff.mp isMatch
        exact ⟨highWater, isHighWater, sameIdentity.trans identity, sameFence.trans fence⟩
      cases makes with
      | activate token identity sequence staged found isMatch
      | activateWithSequenceV2 token identity sequence staged found isMatch =>
        cases isAuthority
        exact absurd (activated found isMatch) stale
      | beginDrain token authorized | advanceAuthority token identity next edit isAdvance authorized =>
        cases isAuthority
        exact absurd authorized stale
      | beginDrainWithAuthority authority target sameKey authorized
      | removeWithAuthority authority target outcome edit removal sameKey authorized =>
        cases isAuthority
        exact absurd (sameKey ▸ authorized) stale
      | remove token outcome edit removal authorized =>
        cases isAuthority
        obtain rfl := authorized.resolve_left stale
        cases removal with
        | retired route found isMatch idle =>
          refine .inr ⟨route, found, isMatch, (sound.slotAt token.key).retired route found, idle,
            fun key different => changed.slotAt_other different, ?_⟩
          exact changed.edited.of_removeRetired
      | _ => cases isAuthority

end RegistrySystem

end Starring.Registry
