import Starring.Registry.Steps

/-! Interactions and their guards. Every guard that is alive has its route in the registry, which counts it; a route is
drained or removed only when no interaction uses it any more. -/

namespace Starring.Registry
open Foundation Convergence RegistryState List RouteRecord

namespace SlotContent
variable (self : SlotContent)

def users : List RouteRecord := self.current.toList ++ self.retired

/-- No two routes of a slot have the same incarnation. -/
structure Distinct (content : SlotContent) : Prop where
  retired : (content.retired.map incarnation).Nodup
  current : ∀ current, content.current = some current → ∀ route ∈ content.retired, route.incarnation ≠ current.incarnation
  staged : ∀ staged, content.staged = some staged → ∀ route ∈ content.users, route.incarnation ≠ staged.incarnation

/-- No route has a later number than the last one. -/
structure Numbered (last : Nat) (content : SlotContent) : Prop where
  users : ∀ route ∈ content.users, route.incarnation.get ≤ last
  staged : ∀ staged, content.staged = some staged → staged.incarnation.get ≤ last

/-- The routes count at least those who use them, or exactly those. -/
structure Accounts (use : NonZeroU64 → Nat) (exactly : Prop) (content : SlotContent) : Prop where
  counted : ∀ route ∈ content.users, use route.incarnation ≤ route.activeInteractions
  noMore : exactly → ∀ route ∈ content.users, route.activeInteractions ≤ use route.incarnation
  present : ∀ incarnation, 0 < use incarnation → ∃ route ∈ content.users, route.incarnation = incarnation

variable {self} {content after : SlotContent} {use : NonZeroU64 → Nat} {exactly : Prop}

variable {route : RouteRecord}

theorem mem_users : route ∈ content.users ↔ content.current = some route ∨ route ∈ content.retired := by
  simp [users, Option.mem_toList]

variable {current : RouteRecord}

theorem mem_users_current (found : content.current = some current) : current ∈ content.users :=
  mem_users.mpr (.inl found)

theorem Accounts.mono {exactly' : Prop} (accounts : content.Accounts use exactly) (weaken : exactly' → exactly) :
    content.Accounts use exactly' :=
  ⟨accounts.counted, fun isExact => accounts.noMore (weaken isExact), accounts.present⟩

theorem Accounts.congr (accounts : content.Accounts use exactly) (same : after.users = content.users) :
    after.Accounts use exactly :=
  ⟨same ▸ accounts.counted, same ▸ accounts.noMore, same ▸ accounts.present⟩

theorem Accounts.of_use {use' : NonZeroU64 → Nat} (accounts : content.Accounts use exactly)
    (same : ∀ incarnation, use' incarnation = use incarnation) : content.Accounts use' exactly :=
  funext same ▸ accounts

theorem Accounts.idle (accounts : content.Accounts use exactly) (mem : route ∈ content.users)
    (idle : route.activeInteractions = 0) : use route.incarnation = 0 :=
  Nat.le_zero.mp (idle ▸ accounts.counted route mem)

/-- Every route that may be in use stands for one that was, with a count that goes with its users, or is a new one. -/
theorem Accounts.carry {use' : NonZeroU64 → Nat} (accounts : content.Accounts use exactly)
    (origin : ∀ route ∈ after.users, use' route.incarnation = 0 ∧ route.activeInteractions = 0 ∨ ∃ old ∈ content.users,
      (use old.incarnation ≤ old.activeInteractions → use' route.incarnation ≤ route.activeInteractions) ∧
      (old.activeInteractions ≤ use old.incarnation → route.activeInteractions ≤ use' route.incarnation))
    (present : ∀ incarnation, 0 < use' incarnation → ∃ route ∈ after.users, route.incarnation = incarnation) :
    after.Accounts use' exactly := by
  refine ⟨fun route mem => ?_, fun isExact route mem => ?_, present⟩
  · obtain ⟨unused, -⟩ | ⟨old, was, low, -⟩ := origin route mem
    · exact unused ▸ Nat.zero_le _
    · exact low (accounts.counted old was)
  · obtain ⟨-, idle⟩ | ⟨old, was, -, high⟩ := origin route mem
    · exact idle ▸ Nat.zero_le _
    · exact high (accounts.noMore isExact old was)

theorem Accounts.recount {next : RouteRecord} {use' : NonZeroU64 → Nat} (accounts : content.Accounts use exactly)
    (found : content.current = some current) (here : after.current = some next)
    (retired : after.retired = content.retired) (incarnation : next.incarnation = current.incarnation)
    (low : use current.incarnation ≤ current.activeInteractions → use' current.incarnation ≤ next.activeInteractions)
    (high : current.activeInteractions ≤ use current.incarnation → next.activeInteractions ≤ use' current.incarnation)
    (others : ∀ route ∈ content.retired, use' route.incarnation = use route.incarnation)
    (used : ∀ other, 0 < use' other → other = current.incarnation ∨ 0 < use other) : after.Accounts use' exactly := by
  refine accounts.carry (fun route mem => .inr ?_) fun other positive => ?_
  · obtain isNext | mem := mem_users.mp mem
    · cases here.symm.trans isNext
      rw [incarnation]
      exact ⟨current, mem_users_current found, low, high⟩
    · rw [retired] at mem
      rw [others route mem]
      exact ⟨route, mem_users.mpr (.inr mem), id, id⟩
  · obtain rfl | positive := used other positive
    · exact ⟨next, mem_users_current here, incarnation⟩
    · obtain ⟨route, mem, same⟩ := accounts.present other positive
      obtain isCurrent | mem := mem_users.mp mem
      · cases found.symm.trans isCurrent
        exact ⟨next, mem_users_current here, incarnation.trans same⟩
      · exact ⟨route, mem_users.mpr (.inr (retired ▸ mem)), same⟩

theorem Accounts.replace {next : RouteRecord} (accounts : content.Accounts use exactly)
    (found : content.current = some current) (here : after.current = some next)
    (retired : after.retired = content.retired) (incarnation : next.incarnation = current.incarnation)
    (active : next.activeInteractions = current.activeInteractions) : after.Accounts use exactly :=
  accounts.recount found here retired incarnation (active ▸ id) (active ▸ id) (fun _ _ => rfl) fun _ => .inr

theorem Accounts.dropCurrent (accounts : content.Accounts use exactly) (found : content.current = some current)
    (idle : current.activeInteractions = 0) (gone : after.current = none) (retired : after.retired = content.retired) :
    after.Accounts use exactly := by
  have fewer : after.users = content.retired := by simp [users, gone, retired]
  refine accounts.carry (fun route mem => .inr ⟨route, mem_users.mpr (.inr (fewer ▸ mem)), id, id⟩) fun used positive => ?_
  obtain ⟨route, mem, rfl⟩ := accounts.present used positive
  obtain isCurrent | mem := mem_users.mp mem
  · cases found.symm.trans isCurrent
    have none := accounts.idle (mem_users_current found) idle
    omega
  · exact ⟨route, fewer ▸ mem, rfl⟩

theorem mem_retire_of_active (distinct : content.Distinct) (mem : route ∈ content.users)
    (active : 0 < route.activeInteractions) : ∃ retired ∈ content.retire, retired.incarnation = route.incarnation := by
  unfold retire
  cases found : content.current with
  | none =>
    obtain isCurrent | mem := mem_users.mp mem
    · cases found.symm.trans isCurrent
    · exact ⟨route, mem_filter.mpr ⟨mem, by simpa using active⟩, rfl⟩
  | some current =>
    obtain isCurrent | mem := mem_users.mp mem
    · cases found.symm.trans isCurrent
      simp only [if_pos active]
      exact ⟨_, mem_cons_self, rfl⟩
    · have retained : route ∈ content.retired.filter fun route => 0 < route.activeInteractions :=
        mem_filter.mpr ⟨mem, by simpa using active⟩
      simp only
      split
      · refine ⟨route, mem_cons_of_mem _ (mem_filter.mpr ⟨retained, ?_⟩), rfl⟩
        simpa using distinct.current current found route mem
      · exact ⟨route, retained, rfl⟩

theorem Accounts.activate {staged : RouteRecord} {activationSequence : NonZeroU64} (accounts : content.Accounts use exactly)
    (distinct : content.Distinct) (found : content.staged = some staged) (idle : staged.activeInteractions = 0)
    (here : after.current = some (staged.activated activationSequence)) (retired : after.retired = content.retire) :
    after.Accounts use exactly := by
  have unused : use staged.incarnation = 0 := by
    refine Nat.le_zero.mp (Nat.not_lt.mp fun positive => ?_)
    obtain ⟨route, mem, same⟩ := accounts.present _ positive
    exact distinct.staged staged found route mem same
  refine accounts.carry (fun route mem => ?_) fun used positive => ?_
  · obtain isNext | mem := mem_users.mp mem
    · cases here.symm.trans isNext
      exact .inl ⟨unused, idle⟩
    · obtain ⟨mem, -⟩ | ⟨current, isCurrent, -, rfl⟩ := mem_retire (retired ▸ mem)
      · exact .inr ⟨route, mem_users.mpr (.inr mem), id, id⟩
      · exact .inr ⟨current, mem_users_current isCurrent, id, id⟩
  · obtain ⟨route, mem, rfl⟩ := accounts.present used positive
    obtain ⟨kept, mem, same⟩ :=
      mem_retire_of_active distinct mem (Nat.lt_of_lt_of_le positive (accounts.counted route mem))
    exact ⟨kept, mem_users.mpr (.inr (retired ▸ mem)), same⟩

end SlotContent

namespace Edited
open SlotContent
variable {limit : Nat} {before after : SlotContent} {edit : SlotEdit} {use : NonZeroU64 → Nat} {exactly : Prop}

/-- Nothing but an interaction changes what the routes count. -/
theorem accounts (edited : Edited limit before edit after) (counts : edit.counts = false) (sound : before.Sound limit)
    (distinct : before.Distinct) (accounts : before.Accounts use exactly) : after.Accounts use exactly := by
  cases edited with
  | install | removeStaged | advanceStaged | close | reopen | succeed => exact accounts.congr rfl
  | activate staged sequence unsealed found =>
    exact accounts.activate distinct found (sound.staged staged found).2 rfl rfl
  | beginDrain current unsealed found | advanceCurrent current fencingToken unsealed found =>
    exact accounts.replace found rfl rfl rfl rfl
  | removeCurrent current unsealed found draining idle => exact accounts.dropCurrent found idle rfl rfl
  | removeRetired route unsealed found idle =>
    have unused := accounts.idle (mem_users.mpr (.inr (mem_of_find?_eq_some found))) idle
    refine accounts.carry (fun retired mem => .inr ⟨retired, ?_, id, id⟩) fun used positive => ?_
    · obtain isCurrent | mem := mem_users.mp mem
      · exact mem_users_current isCurrent
      · exact mem_users.mpr (.inr (mem_of_mem_filter mem))
    obtain ⟨user, mem, rfl⟩ := accounts.present used positive
    obtain isCurrent | mem := mem_users.mp mem
    · exact ⟨user, mem_users_current isCurrent, rfl⟩
    · have other : user.incarnation ≠ route.incarnation := fun same => by
        rw [same, unused] at positive
        exact Nat.lt_irrefl 0 positive
      exact ⟨user, mem_users.mpr (.inr (mem_filter.mpr ⟨mem, by simpa using other⟩)), rfl⟩
  | admitInteraction | releaseCurrent | releaseRetired => cases counts
  | refence current sealed fencingToken only | drainSealed current sealed only =>
    exact accounts.replace only.1 rfl rfl rfl rfl
  | removeSealed current sealed only => exact accounts.dropCurrent only.1 only.2.2.2 rfl rfl

theorem accounts_admission (edited : Edited limit before .admitInteraction after) (distinct : before.Distinct)
    (accounts : before.Accounts use exactly) :
    ∃ current, before.current = some current ∧
      after.Accounts (fun incarnation => use incarnation + if incarnation = current.incarnation then 1 else 0) exactly := by
  cases edited with
  | admitInteraction current unsealed found serving room =>
    refine ⟨current, found, accounts.recount found rfl rfl rfl (fun counted => ?_) (fun noMore => ?_)
      (fun route mem => by rw [if_neg (distinct.current current found route mem)]; rfl) fun used positive => ?_⟩
    · simp only [admitted, if_true]
      omega
    · simp only [admitted, if_true]
      omega
    · by_cases isOurs : used = current.incarnation
      · exact .inl isOurs
      · rw [if_neg isOurs] at positive
        exact .inr positive

theorem accounts_releaseCurrent (edited : Edited limit before .releaseCurrent after) (distinct : before.Distinct)
    (accounts : before.Accounts use exactly) {current : RouteRecord} (isCurrent : before.current = some current) :
    after.Accounts (fun incarnation => use incarnation - if incarnation = current.incarnation then 1 else 0) exactly := by
  cases edited with
  | releaseCurrent route found =>
    cases isCurrent.symm.trans found
    refine accounts.recount found rfl rfl rfl (fun counted => ?_) (fun noMore => ?_)
      (fun route mem => by rw [if_neg (distinct.current current found route mem)]; rfl)
      fun used positive => .inr (Nat.lt_of_lt_of_le positive (Nat.sub_le _ _))
    · simp only [released, if_true]
      omega
    · simp only [released, if_true]
      omega

theorem accounts_releaseRetired {incarnation : NonZeroU64} (edited : Edited limit before (.releaseRetired incarnation) after)
    (accounts : before.Accounts use exactly)
    (isOther : ∀ current, before.current = some current → current.incarnation ≠ incarnation) :
    after.Accounts (fun used => use used - if used = incarnation then 1 else 0) exactly := by
  cases edited with
  | releaseRetired =>
    have changed (route : RouteRecord) :
        (if route.incarnation = incarnation then route.released else route).incarnation = route.incarnation ∧
          (if route.incarnation = incarnation then route.released else route).activeInteractions =
            route.activeInteractions - if route.incarnation = incarnation then 1 else 0 := by
      split
      · exact ⟨rfl, rfl⟩
      · exact ⟨rfl, rfl⟩
    refine accounts.carry (fun route mem => .inr ?_) fun used positive => ?_
    · obtain here | mem := mem_users.mp mem
      · rw [if_neg (isOther route here)]
        exact ⟨route, mem_users_current here, id, id⟩
      · obtain ⟨retired, was, rfl⟩ := mem_map.mp mem
        rw [(changed retired).1, (changed retired).2]
        exact ⟨retired, mem_users.mpr (.inr was), fun counted => by omega, fun noMore => by omega⟩
    · obtain ⟨route, mem, rfl⟩ := accounts.present used (Nat.lt_of_lt_of_le positive (Nat.sub_le _ _))
      obtain here | mem := mem_users.mp mem
      · exact ⟨route, mem_users_current here, rfl⟩
      · exact ⟨_, mem_users.mpr (.inr (mem_map_of_mem mem)), (changed route).1⟩

theorem retire_nodup (distinct : before.Distinct) : (before.retire.map incarnation).Nodup := by
  have retained : ((before.retired.filter fun route => 0 < route.activeInteractions).map incarnation).Nodup :=
    distinct.retired.sublist (filter_sublist.map _)
  unfold retire
  cases found : before.current with
  | none => exact retained
  | some current =>
    simp only
    split
    · rw [map_cons, nodup_cons]
      refine ⟨fun mem => ?_, retained.sublist (filter_sublist.map _)⟩
      obtain ⟨route, mem, same⟩ := mem_map.mp mem
      simp only [mem_filter, decide_eq_true_eq] at mem
      exact mem.2 same
    · exact retained

/-- The routes keep their incarnations and places, or go. -/
structure Keeps (before after : SlotContent) : Prop where
  current : ∀ route, after.current = some route → ∃ old, before.current = some old ∧ old.incarnation = route.incarnation
  staged : ∀ route, after.staged = some route → ∃ old, before.staged = some old ∧ old.incarnation = route.incarnation
  retired : (after.retired.map incarnation).Sublist (before.retired.map incarnation)

theorem Keeps.users (keeps : Keeps before after) {route : RouteRecord} (mem : route ∈ after.users) :
    ∃ old ∈ before.users, old.incarnation = route.incarnation := by
  obtain here | mem := mem_users.mp mem
  · obtain ⟨old, found, same⟩ := keeps.current route here
    exact ⟨old, mem_users_current found, same⟩
  · obtain ⟨old, mem, same⟩ := mem_map.mp (keeps.retired.subset (mem_map_of_mem mem))
    exact ⟨old, mem_users.mpr (.inr mem), same⟩

theorem Keeps.distinct (keeps : Keeps before after) (distinct : before.Distinct) : after.Distinct where
  retired := distinct.retired.sublist keeps.retired
  current route here other mem := by
    obtain ⟨old, found, same⟩ := keeps.current route here
    obtain ⟨user, mem, same'⟩ := mem_map.mp (keeps.retired.subset (mem_map_of_mem mem))
    rw [← same, ← same']
    exact distinct.current old found user mem
  staged route here other mem := by
    obtain ⟨old, found, same⟩ := keeps.staged route here
    obtain ⟨user, mem, same'⟩ := keeps.users mem
    rw [← same, ← same']
    exact distinct.staged old found user mem

theorem Keeps.numbered {last : Nat} (keeps : Keeps before after) (numbered : before.Numbered last) : after.Numbered last where
  users route mem := by
    obtain ⟨old, mem, same⟩ := keeps.users mem
    exact same ▸ numbered.users old mem
  staged route here := by
    obtain ⟨old, found, same⟩ := keeps.staged route here
    exact same ▸ numbered.staged old found

theorem some_keeps {found : Option RouteRecord} {old next : RouteRecord} (here : found = some old)
    (same : next.incarnation = old.incarnation) (route : RouteRecord) (isNext : some next = some route) :
    ∃ old, found = some old ∧ old.incarnation = route.incarnation := by
  cases isNext
  exact ⟨old, here, same.symm⟩

/-- The incarnations stay different; that of a new route is later than all others. -/
theorem distinct {last next : Nat} (edited : Edited limit before edit after) (numbers : edit.NumbersRoute last next)
    (distinct : before.Distinct) (numbered : before.Numbered last) : after.Distinct ∧ after.Numbered next := by
  have keep {after : SlotContent} (same : next = last) (keeps : Keeps before after) : after.Distinct ∧ after.Numbered next :=
    ⟨keeps.distinct distinct, same ▸ keeps.numbered numbered⟩
  have still (found : Option RouteRecord) (route : RouteRecord) (here : found = some route) :
      ∃ old, found = some old ∧ old.incarnation = route.incarnation := ⟨route, here, rfl⟩
  cases edited with
  | install record unsealed isNew admits =>
    obtain ⟨isLater, isNext⟩ := numbers
    refine ⟨⟨distinct.retired, distinct.current, ?_⟩, ?_, ?_⟩
    · rintro staged ⟨⟩ route mem same
      have was := numbered.users route mem
      rw [same] at was
      omega
    · intro route mem
      have was := numbered.users route mem
      omega
    · rintro staged ⟨⟩
      omega
  | activate staged sequence unsealed found =>
    have isNext : next = last := numbers
    subst isNext
    have retired {route : RouteRecord} (mem : route ∈ before.retire) :
        ∃ old ∈ before.users, old.incarnation = route.incarnation := by
      obtain ⟨mem, -⟩ | ⟨current, here, -, rfl⟩ := mem_retire mem
      · exact ⟨route, mem_users.mpr (.inr mem), rfl⟩
      · exact ⟨current, mem_users_current here, rfl⟩
    refine ⟨⟨retire_nodup distinct, ?_, nofun⟩, ?_, nofun⟩
    · rintro current ⟨⟩ route mem same
      obtain ⟨old, mem, same'⟩ := retired mem
      exact distinct.staged staged found old mem (same'.trans same)
    · intro route mem
      obtain here | mem := mem_users.mp mem
      · cases here
        exact numbered.staged staged found
      · obtain ⟨old, mem, same⟩ := retired mem
        exact same ▸ numbered.users old mem
  | beginDrain current unsealed found | advanceCurrent current fencingToken unsealed found
  | admitInteraction current unsealed found | releaseCurrent current found =>
    exact keep numbers ⟨some_keeps found rfl, still _, .refl _⟩
  | removeStaged => exact keep numbers ⟨still _, nofun, .refl _⟩
  | removeCurrent | removeSealed => exact keep numbers ⟨nofun, still _, .refl _⟩
  | removeRetired => exact keep numbers ⟨still _, still _, filter_sublist.map _⟩
  | advanceStaged staged fencingToken unsealed found => exact keep numbers ⟨still _, some_keeps found rfl, .refl _⟩
  | releaseRetired incarnation =>
    have same (route : RouteRecord) :
        (if route.incarnation = incarnation then route.released else route).incarnation = route.incarnation := by
      split
      · rfl
      · rfl
    refine keep numbers ⟨still _, still _, ?_⟩
    rw [map_map]
    exact map_congr_left (fun route _ => same route) ▸ .refl _
  | close | reopen | succeed => exact keep numbers ⟨still _, still _, .refl _⟩
  | refence current sealed fencingToken only | drainSealed current sealed only =>
    exact keep numbers ⟨some_keeps only.1 rfl, still _, .refl _⟩

end Edited

theorem Makes.counts {registry : RegistryInner} {state : RegistryState} {command : Command} {key : ServingSlotKeyV1} {edit : SlotEdit}
    (makes : Makes registry state command key edit) (counts : edit.counts = true) :
    command = .admitInteraction key ∨ ∃ generation, command = .admitAtGenerationV2 key generation := by
  cases makes with
  | admitInteraction => exact .inl rfl
  | admitAtGenerationV2 key generation => exact .inr ⟨generation, rfl⟩
  | remove token outcome edit removal | removeWithAuthority authority target outcome edit removal =>
    cases removal <;> cases counts
  | advanceAuthority token identity next edit isAdvance => obtain rfl | rfl := isAdvance <;> cases counts
  | _ => cases counts

namespace RegistrySystem
open SlotContent
variable {registry : RegistryInner}

def live (self : RegistrySystem) (key : ServingSlotKeyV1) (incarnation : NonZeroU64) : Nat :=
  self.guards.countP fun guard => guard.key = key ∧ guard.incarnation = incarnation

/-- The registry counts the guards that are alive. -/
structure Accounted (system : RegistrySystem) : Prop where
  distinct : ∀ key, (system.state.slotAt key).content.Distinct
  numbered : ∀ key, (system.state.slotAt key).content.Numbered system.state.nextIncarnation
  accounts : ∀ key, (system.state.slotAt key).content.Accounts (system.live key)
    (system.state.observation.failedClosed = false)

variable {before after : RegistrySystem}

theorem Accounted.fresh : RegistrySystem.fresh.Accounted := by
  have content (key : ServingSlotKeyV1) : (RegistrySystem.fresh.state.slotAt key).content = SlotCell.fresh.content := by
    rw [slotAt_of_none (lookup_fresh key)]
  refine ⟨fun key => ?_, fun key => ?_, fun key => ?_⟩
  · rw [content]
    exact ⟨nodup_nil, nofun, nofun⟩
  · rw [content]
    exact ⟨nofun, nofun⟩
  · rw [content]
    exact ⟨nofun, nofun, fun _ positive => absurd positive (Nat.lt_irrefl 0)⟩

theorem Accounted.of_failed (accounted : before.Accounted) (failed : before.state.Failed after.state)
    (fewer : ∀ key incarnation, after.live key incarnation ≤ before.live key incarnation)
    (same : after.state.observation.failedClosed = false → ∀ key incarnation,
      after.live key incarnation = before.live key incarnation) : after.Accounted := by
  have wasOpen (isOpen : after.state.observation.failedClosed = false) : before.state.observation.failedClosed = false := by
    cases closed : before.state.observation.failedClosed with
    | false => rfl
    | true => exact absurd (failed.observation.2 closed) (by rw [isOpen]; exact Bool.noConfusion)
  refine ⟨fun key => failed.content key ▸ accounted.distinct key, fun key => ?_, fun key => ?_⟩
  · rw [failed.content key, failed.nextIncarnation]
    exact accounted.numbered key
  · rw [failed.content key]
    have accounts := accounted.accounts key
    refine ⟨fun route mem => Nat.le_trans (fewer key _) (accounts.counted route mem), fun isOpen route mem => ?_,
      fun incarnation positive => accounts.present incarnation (Nat.lt_of_lt_of_le positive (fewer key _))⟩
    rw [same isOpen]
    exact accounts.noMore (wasOpen isOpen) route mem

variable {key : ServingSlotKeyV1}

theorem Accounted.of_changed {edit : SlotEdit} (accounted : before.Accounted)
    (changed : before.state.Changed registry key edit after.state)
    (others : ∀ other incarnation, other ≠ key → after.live other incarnation = before.live other incarnation)
    (accounts : (after.state.slotAt key).content.Accounts (after.live key) (before.state.observation.failedClosed = false)) :
    after.Accounted := by
  obtain ⟨distinct, numbered⟩ :=
    changed.edited.distinct changed.nextIncarnation (accounted.distinct key) (accounted.numbered key)
  have wasOpen := changed.observation.1
  refine ⟨fun other => ?_, fun other => ?_, fun other => ?_⟩
  · by_cases same : other = key
    · exact same ▸ distinct
    · rw [changed.slotAt_other same]
      exact accounted.distinct other
  · by_cases same : other = key
    · exact same ▸ numbered
    · rw [changed.slotAt_other same]
      have was := accounted.numbered other
      have later : before.state.nextIncarnation ≤ after.state.nextIncarnation := by
        have numbers := changed.nextIncarnation
        cases edit <;> simp only [SlotEdit.NumbersRoute] at numbers <;> omega
      exact ⟨fun route mem => Nat.le_trans (was.users route mem) later,
        fun staged found => Nat.le_trans (was.staged staged found) later⟩
  · by_cases same : other = key
    · exact same ▸ accounts.mono fun _ => wasOpen
    · rw [changed.slotAt_other same]
      have was := (accounted.accounts other).mono fun (_ : after.state.observation.failedClosed = false) => wasOpen
      have sameUse : after.live other = before.live other := funext fun incarnation => others other incarnation same
      exact sameUse ▸ was

theorem command_guards {state last : RegistryState} (sound : state.Sound registry) {command : Command} {answer : command.Answer}
    (called : command.perform registry state = (.ok answer, last)) :
    (command.guards answer = [] ∧
      (state.Same last ∨ ∃ key edit, edit.counts = false ∧ state.Changed registry key edit last)) ∨
    ∃ key current, (state.slotAt key).current = some current ∧ state.Changed registry key .admitInteraction last ∧
      command.guards answer = [{ registry := registry.lifetime, key, incarnation := current.incarnation }] := by
  have admission {key : ServingSlotKeyV1} {parts : AdmittedInteractionPartsV2} (admitted : Admitted registry state key parts last) :
      ∃ key current, (state.slotAt key).current = some current ∧ state.Changed registry key .admitInteraction last ∧
        [parts.guard] = [{ registry := registry.lifetime, key, incarnation := current.incarnation }] := by
    obtain ⟨-, changed, current, found, -, -, guard⟩ := admitted
    exact ⟨key, current, found, changed, by rw [guard]⟩
  cases command with
  | admitInteraction key => exact .inr (admission (admitInteraction_settles.of_ok called))
  | admitAtGenerationV2 key generation => exact .inr (admission (admitAtGenerationV2_settles.of_ok called))
  | _ =>
    refine .inl ⟨rfl, ((Command.settles sound _).of_ok called).imp_right fun ⟨key, edit, makes, changed⟩ =>
      ⟨key, edit, Bool.eq_false_iff.mpr fun counts => ?_, changed⟩⟩
    obtain isAdmit | ⟨_, isAdmit⟩ := makes.counts counts <;> cases isAdmit

theorem live_append {guard : ActiveInteractionGuardV1} {guards : List ActiveInteractionGuardV1}
    (added : after.guards = guards ++ [guard]) (key : ServingSlotKeyV1) (incarnation : NonZeroU64) :
    after.live key incarnation = (guards.countP fun guard => guard.key = key ∧ guard.incarnation = incarnation) +
      if guard.key = key ∧ guard.incarnation = incarnation then 1 else 0 := by
  simp [live, added, countP_append, countP_cons]

theorem live_erase {guard : ActiveInteractionGuardV1} (mem : guard ∈ before.guards)
    (erased : after.guards = before.guards.erase guard) (key : ServingSlotKeyV1) (incarnation : NonZeroU64) :
    after.live key incarnation = before.live key incarnation -
      if guard.key = key ∧ guard.incarnation = incarnation then 1 else 0 := by
  have counts := (perm_cons_erase mem).countP_eq fun guard => guard.key = key ∧ guard.incarnation = incarnation
  rw [countP_cons] at counts
  simp only [decide_eq_true_eq] at counts
  rw [live, live, erased, counts, Nat.add_sub_cancel]

theorem Step.accounted {call : Call} (step : Step registry before call after) (sound : before.state.Sound registry)
    (accounted : before.Accounted) : after.Accounted := by
  cases step with
  | refused => exact accounted
  | failed command error state called =>
    exact accounted.of_failed ((command.settles sound).of_error called) (fun _ _ => Nat.le_refl _) fun _ _ _ => rfl
  | done command answer state holds called =>
    obtain ⟨none, same | ⟨key, edit, counts, changed⟩⟩ | ⟨key, current, found, changed, guard⟩ :=
      command_guards sound called
    · refine accounted.of_failed same.failed (fun key incarnation => ?_) fun _ key incarnation => ?_
      · simp [live, none]
      · simp [live, none]
    · refine accounted.of_changed changed (fun other incarnation _ => by simp [live, none]) ?_
      refine (changed.edited.accounts counts (sound.slotAt key) (accounted.distinct key)
        (accounted.accounts key)).of_use fun incarnation => ?_
      simp [live, none]
    · have added := congrArg (before.guards ++ ·) guard
      refine accounted.of_changed changed (fun other incarnation different => ?_) ?_
      · rw [live_append added, if_neg fun same => different same.1.symm]
        rfl
      · obtain ⟨current', found', accounts⟩ :=
          changed.edited.accounts_admission (accounted.distinct key) (accounted.accounts key)
        cases found.symm.trans found'
        refine accounts.of_use fun incarnation => ?_
        rw [live_append added]
        simp [live, eq_comm]
  | asked query answer holds told => exact ⟨accounted.distinct, accounted.numbered, accounted.accounts⟩
  | dropped guard mem =>
    generalize dropped : (⟨guard.drop before.state, before.guards.erase guard, before.issued⟩ : RegistrySystem) = after
    have state : after.state = guard.drop before.state := dropped ▸ rfl
    have fewer := live_erase mem (dropped ▸ rfl : after.guards = before.guards.erase guard)
    have alive : 0 < before.live guard.key guard.incarnation := countP_pos_iff.mpr ⟨guard, mem, by simp⟩
    have untouched (other : ServingSlotKeyV1) (incarnation : NonZeroU64) (different : other ≠ guard.key) :
        after.live other incarnation = before.live other incarnation := by
      rw [fewer, if_neg fun same => different same.1.symm]
      rfl
    have cases := guard.drop_cases registry before.state
    rw [← state] at cases
    obtain ⟨failed, gone⟩ | ⟨current, found, own, changed⟩ | ⟨isOther, changed⟩ := cases
    · refine accounted.of_failed failed (fun key incarnation => fewer key incarnation ▸ Nat.sub_le _ _) fun isOpen => ?_
      obtain closed | ⟨notCurrent, notRetired⟩ := gone
      · cases closed.symm.trans isOpen
      · obtain ⟨route, mem, same⟩ := (accounted.accounts guard.key).present guard.incarnation alive
        obtain here | mem := mem_users.mp mem
        · exact absurd same (notCurrent route here)
        · exact absurd same (notRetired route mem)
    · refine accounted.of_changed changed untouched ?_
      refine (changed.edited.accounts_releaseCurrent (accounted.distinct guard.key) (accounted.accounts guard.key)
        found).of_use fun incarnation => ?_
      rw [fewer, own]
      simp [eq_comm]
    · refine accounted.of_changed changed untouched ?_
      refine (changed.edited.accounts_releaseRetired (accounted.accounts guard.key) isOther).of_use fun incarnation => ?_
      rw [fewer]
      simp [eq_comm]

theorem accounted_after (registry : RegistryInner) (calls : List Call) :
    (RegistrySystem.after registry calls).state.Sound registry ∧ (RegistrySystem.after registry calls).Accounted :=
  invariant_after .fresh (fun _ _ _ step sound accounted => step.accounted sound accounted) calls

variable {system : RegistrySystem} {route : RouteRecord}

theorem Accounted.live_eq_zero (accounted : system.Accounted) (mem : route ∈ (system.state.slotAt key).content.users)
    (idle : route.activeInteractions = 0) : system.live key route.incarnation = 0 :=
  (accounted.accounts key).idle mem idle

theorem Accounted.live_staged (accounted : system.Accounted) {staged : RouteRecord}
    (found : (system.state.slotAt key).staged = some staged) : system.live key staged.incarnation = 0 := by
  refine Nat.le_zero.mp (Nat.not_lt.mp fun positive => ?_)
  obtain ⟨route, mem, same⟩ := (accounted.accounts key).present _ positive
  exact (accounted.distinct key).staged staged found route mem same

theorem mem_routes {slot : SlotCell} : route ∈ slot.routes ↔ slot.staged = some route ∨ route ∈ slot.content.users := by
  simp [SlotCell.routes, users, SlotCell.content, Option.mem_toList]

variable {token : SlotMutationTokenV1}

theorem findRecord_eq_some {slot : SlotCell} (found : findRecord slot token = some route) :
    route ∈ slot.routes ∧ route.matches token = true := by
  rw [mem_routes, mem_users]
  simp only [findRecord, Option.or_eq_some_iff] at found
  obtain (kept | ⟨-, kept⟩) | ⟨-, kept⟩ := found
  · exact ⟨.inr (.inl (filter_eq_some kept).1), (filter_eq_some kept).2⟩
  · exact ⟨.inl (filter_eq_some kept).1, (filter_eq_some kept).2⟩
  · exact ⟨.inr (.inr (mem_of_find?_eq_some (filter_eq_some kept).1)), (filter_eq_some kept).2⟩

theorem Accounted.observeDrain (accounted : system.Accounted) {observation : SlotDrainObservationV1}
    (told : observeDrain registry token system.state = .ok observation) (drained : observation.drained = true) :
    system.live token.key token.incarnation = 0 := by
  simp only [Registry.observeDrain, bind_eq_ok, orReject_eq_ok, rejectIf_eq_ok, pure_eq_ok] at told
  obtain ⟨_, -, _, -, slot, found, route, isRecord, _, -, rfl⟩ := told
  obtain ⟨mem, isMatch⟩ := findRecord_eq_some isRecord
  have idle : route.activeInteractions = 0 := by simpa using drained
  rw [← (matches_iff.mp isMatch).1]
  rw [← slotAt_of_some found, mem_routes] at mem
  obtain staged | mem := mem
  · exact accounted.live_staged staged
  · exact accounted.live_eq_zero mem idle

theorem Accounted.removal (accounted : system.Accounted) {edit : SlotEdit}
    (removal : Removal (system.state.slotAt token.key).content token .removedDraining edit) :
    system.live token.key token.incarnation = 0 := by
  cases removal with
  | current route found isMatch idle =>
    rw [← (matches_iff.mp isMatch).1]
    exact accounted.live_eq_zero (mem_users_current found) idle
  | retired route found isMatch idle =>
    rw [← (matches_iff.mp isMatch).1]
    exact accounted.live_eq_zero (mem_users.mpr (.inr found)) idle

/-- After every run the routes of all guards are there and count them, as long as the registry has not run out of numbers;
nothing is drained or removed while an interaction uses it. -/
theorem guards_are_accounted_for (registry : RegistryInner) (calls : List Call) :
    let system := RegistrySystem.after registry calls
    (∀ guard ∈ system.guards, ∃ route ∈ (system.state.slotAt guard.key).routes, route.incarnation = guard.incarnation) ∧
    (∀ key, ∀ route ∈ (system.state.slotAt key).routes,
      system.live key route.incarnation ≤ route.activeInteractions ∧
      (system.state.observation.failedClosed = false →
        route.activeInteractions = system.live key route.incarnation)) ∧
    (∀ key, ((system.state.slotAt key).routes.map activeInteractions).sum ≤
      registry.config.maxActiveInteractionsPerSlot.get) ∧
    (∀ token observation, observeDrain registry token system.state = .ok observation → observation.drained = true →
      system.live token.key token.incarnation = 0) ∧
    (∀ token last, remove registry token system.state = (.ok .removedDraining, last) →
      system.live token.key token.incarnation = 0) ∧
    (∀ authority token last, removeWithAuthority registry authority token system.state = (.ok .removedDraining, last) →
      system.live token.key token.incarnation = 0) ∧
    ∀ source observation absent last,
      removeDrainingRefencedStateV4 registry source observation system.state = (.ok absent, last) →
        system.live source.binding.key absent.binding.removedRoute.incarnation = 0 := by
  intro system
  obtain ⟨sound, accounted⟩ := accounted_after registry calls
  refine ⟨fun guard mem => ?_, fun key route mem => ?_, fun key => (sound.slotAt key).bounded,
    fun token observation told drained => accounted.observeDrain told drained, fun token last called => ?_,
    fun authority token last called => ?_, fun source observation absent last called => ?_⟩
  · obtain ⟨route, mem, same⟩ := (accounted.accounts guard.key).present guard.incarnation
      (countP_pos_iff.mpr ⟨guard, mem, by simp⟩)
    exact ⟨route, mem_routes.mpr (.inr mem), same⟩
  · obtain staged | mem := mem_routes.mp mem
    · have unused := accounted.live_staged staged
      have idle := ((sound.slotAt key).staged route staged).2
      exact ⟨unused ▸ Nat.zero_le _, fun _ => idle.trans unused.symm⟩
    · have accounts := accounted.accounts key
      exact ⟨accounts.counted route mem, fun isOpen =>
        Nat.le_antisymm (accounts.noMore isOpen route mem) (accounts.counted route mem)⟩
  · obtain ⟨-, edit, ⟨removal, -⟩, -⟩ := remove_settles.of_ok called
    exact accounted.removal removal
  · obtain ⟨-, edit, ⟨removal, -⟩, -⟩ := removeWithAuthority_settles.of_ok called
    exact accounted.removal removal
  · obtain ⟨slot, current, route, -, idle, -, binding⟩ := (removeDrainingRefencedStateV4_settles sound).of_ok called
    have removed : absent.binding.removedRoute.incarnation = current.incarnation := by
      rw [binding, ← route.witness]
      rfl
    rw [removed]
    refine accounted.live_eq_zero (mem_users_current ?_) idle
    rw [slotAt_of_some route.found]
    exact route.here

end RegistrySystem

end Starring.Registry
