import Starring.Registry.Drain

/-! What can happen to the content of a slot. All operations are made of a few edits, each with the conditions
under which it is made; what they keep is proved of the edits, and the operations are shown to make
no other changes. -/

namespace Starring.Registry
open Foundation Convergence List RouteRecord

structure SlotContent where
  highWater : Option FenceHighWater
  current : Option RouteRecord
  staged : Option RouteRecord
  retired : List RouteRecord
  sealState : Option SlotSealState
  deriving DecidableEq

def SlotCell.content (self : SlotCell) : SlotContent where
  highWater := self.highWater
  current := self.current
  staged := self.staged
  retired := self.retired
  sealState := self.sealState

namespace SlotContent
variable (self : SlotContent)

def selected : Option RouteRecord := self.current.or self.staged

def totalActive : Nat :=
  (self.staged.toList ++ self.current.toList ++ self.retired |>.map activeInteractions).sum

def retire : List RouteRecord :=
  let retained := self.retired.filter fun route => 0 < route.activeInteractions
  match self.current with
  | none => retained
  | some current =>
    if 0 < current.activeInteractions then
      current.drained :: retained.filter fun route => route.incarnation ≠ current.incarnation
    else retained

/-- The fence is one that the slot has not seen yet. -/
def Admits (identity : RuntimeProcessIdentityV1) (fencingToken : FencingToken) : Prop :=
  ∀ highWater, self.highWater = some highWater →
    highWater.generation < identity.runtimeGeneration ∨
      highWater.generation = identity.runtimeGeneration ∧ highWater.identity = identity ∧
        highWater.fencingToken < fencingToken

/-- The route has the last identity and fence of the slot. -/
def AtHighWater (route : RouteRecord) : Prop :=
  ∃ highWater, self.highWater = some highWater ∧ highWater.identity = route.route.identity ∧
    highWater.fencingToken = route.fencingToken

def raise (fencingToken : FencingToken) : Option FenceHighWater :=
  self.highWater.map fun highWater => { highWater with fencingToken }

/-- There is no other route than this one, and it is not in use. -/
def OnlyIdle (route : RouteRecord) : Prop :=
  self.current = some route ∧ self.staged = none ∧ self.retired = [] ∧ route.activeInteractions = 0

end SlotContent

inductive SlotEdit where
  | install (record : RouteRecord)
  | activate (activationSequence : NonZeroU64)
  | beginDrain
  | removeStaged
  | removeCurrent
  | removeRetired (incarnation : NonZeroU64)
  | advanceStaged (fencingToken : FencingToken)
  | advanceCurrent (fencingToken : FencingToken)
  | admitInteraction
  | releaseCurrent
  | releaseRetired (incarnation : NonZeroU64)
  | close (sealed : SlotSealState)
  | reopen
  | refence (fencingToken : FencingToken)
  | drainSealed
  | removeSealed
  | succeed (identity : RuntimeProcessIdentityV1) (fencingToken : FencingToken)

/-- The conditions and the effect of every edit, with at most so many active interactions. -/
inductive Edited (limit : Nat) (before : SlotContent) : SlotEdit → SlotContent → Prop where
  | install (record : RouteRecord) (unsealed : before.sealState = none)
    (isNew : record.lifecycle = .staged ∧ record.activeInteractions = 0)
    (admits : before.Admits record.route.identity record.fencingToken) :
    Edited limit before (.install record)
      { before with highWater := some (.of record.route.identity record.fencingToken), staged := some record }
  | activate (staged : RouteRecord) (activationSequence : NonZeroU64) (unsealed : before.sealState = none)
    (found : before.staged = some staged) :
    Edited limit before (.activate activationSequence)
      { before with staged := none, current := some (staged.activated activationSequence), retired := before.retire }
  | beginDrain (current : RouteRecord) (unsealed : before.sealState = none) (found : before.current = some current)
    (serving : current.lifecycle = .serving) :
    Edited limit before .beginDrain { before with current := some current.drained }
  | removeStaged (staged : RouteRecord) (unsealed : before.sealState = none) (found : before.staged = some staged) :
    Edited limit before .removeStaged { before with staged := none }
  | removeCurrent (current : RouteRecord) (unsealed : before.sealState = none) (found : before.current = some current)
    (draining : current.lifecycle = .draining) (idle : current.activeInteractions = 0) :
    Edited limit before .removeCurrent { before with current := none }
  | removeRetired (route : RouteRecord) (unsealed : before.sealState = none)
    (found : before.retired.find? (fun retired => retired.incarnation = route.incarnation) = some route)
    (idle : route.activeInteractions = 0) :
    Edited limit before (.removeRetired route.incarnation)
      { before with retired := before.retired.filter fun retired => retired.incarnation ≠ route.incarnation }
  | advanceStaged (staged : RouteRecord) (fencingToken : FencingToken) (unsealed : before.sealState = none)
    (found : before.staged = some staged) (atHighWater : before.AtHighWater staged)
    (next : staged.fencingToken.next = .ok fencingToken) :
    Edited limit before (.advanceStaged fencingToken)
      { before with highWater := before.raise fencingToken, staged := some (staged.refenced fencingToken) }
  | advanceCurrent (current : RouteRecord) (fencingToken : FencingToken) (unsealed : before.sealState = none)
    (found : before.current = some current) (atHighWater : before.AtHighWater current)
    (next : current.fencingToken.next = .ok fencingToken) :
    Edited limit before (.advanceCurrent fencingToken)
      { before with highWater := before.raise fencingToken, current := some (current.refenced fencingToken) }
  | admitInteraction (current : RouteRecord) (unsealed : before.sealState = none) (found : before.current = some current)
    (serving : current.lifecycle = .serving)
    (room : current.activeInteractions + (before.retired.map activeInteractions).sum < limit) :
    Edited limit before .admitInteraction { before with current := some current.admitted }
  | releaseCurrent (current : RouteRecord) (found : before.current = some current) :
    Edited limit before .releaseCurrent { before with current := some current.released }
  | releaseRetired (incarnation : NonZeroU64) :
    Edited limit before (.releaseRetired incarnation)
      { before with
        retired := before.retired.map fun route => if route.incarnation = incarnation then route.released else route }
  | close (sealed : SlotSealState) (unsealed : before.sealState = none)
    (exact : sealed.route = before.selected.map routeWitnessV1) (isSource : sealed.sourceRoute = sealed.route) :
    Edited limit before (.close sealed) { before with sealState := some sealed }
  | reopen (sealed : SlotSealState) (found : before.sealState = some sealed) :
    Edited limit before .reopen { before with sealState := none }
  | refence (current : RouteRecord) (sealed : SlotSealState) (fencingToken : FencingToken) (only : before.OnlyIdle current)
    (serving : current.lifecycle = .serving) (atHighWater : before.AtHighWater current)
    (found : before.sealState = some sealed) :
    Edited limit before (.refence fencingToken)
      { before with
        highWater := before.raise fencingToken
        current := some (current.refenced fencingToken)
        sealState := some { sealed with route := some (routeWitnessV1 (current.refenced fencingToken)) } }
  | drainSealed (current : RouteRecord) (sealed : SlotSealState) (only : before.OnlyIdle current)
    (serving : current.lifecycle = .serving) (atHighWater : before.AtHighWater current)
    (found : before.sealState = some sealed) :
    Edited limit before .drainSealed
      { before with
        current := some current.drained
        sealState := some { sealed with route := some (routeWitnessV1 current.drained) } }
  | removeSealed (current : RouteRecord) (sealed : SlotSealState) (only : before.OnlyIdle current)
    (draining : current.lifecycle = .draining) (atHighWater : before.AtHighWater current)
    (found : before.sealState = some sealed) :
    Edited limit before .removeSealed { before with current := none, sealState := some { sealed with route := none } }
  | succeed (identity : RuntimeProcessIdentityV1) (fencingToken : FencingToken) (sealed : SlotSealState)
    (found : before.sealState = some sealed) (unrouted : before.selected = none)
    (admits : before.Admits identity fencingToken) :
    Edited limit before (.succeed identity fencingToken)
      { before with highWater := some (.of identity fencingToken), sealState := none }

/-- Every route is where its lifecycle says, a seal names the selected route, and the interactions are within their limit. -/
structure SlotContent.Sound (limit : Nat) (content : SlotContent) : Prop where
  staged : ∀ route, content.staged = some route → route.lifecycle = .staged ∧ route.activeInteractions = 0
  current : ∀ route, content.current = some route → route.lifecycle ≠ .staged ∧ route.activationSequence.isSome = true
  retired : ∀ route ∈ content.retired, route.lifecycle = .draining
  sealRoute : ∀ sealed, content.sealState = some sealed → sealed.route = content.selected.map routeWitnessV1
  bounded : content.totalActive ≤ limit
  few : content.retired.length ≤ limit

theorem SlotContent.Sound.fresh (limit : Nat) : SlotCell.fresh.content.Sound limit :=
  ⟨nofun, nofun, nofun, nofun, Nat.zero_le _, Nat.zero_le _⟩

namespace SlotContent
variable {self : SlotContent} {limit : Nat}

theorem totalActive_eq : self.totalActive = self.staged.elim 0 activeInteractions +
    self.current.elim 0 activeInteractions + (self.retired.map activeInteractions).sum := by
  unfold totalActive
  cases self.staged <;> cases self.current <;> simp [Nat.add_assoc]

theorem sum_filter_le (routes : List RouteRecord) (keep : RouteRecord → Bool) :
    ((routes.filter keep).map activeInteractions).sum ≤ (routes.map activeInteractions).sum :=
  List.Sublist.sum_le_sum (filter_sublist.map _) fun _ _ => Nat.zero_le _

theorem sum_map_le (routes : List RouteRecord) (change : RouteRecord → RouteRecord)
    (le : ∀ route, (change route).activeInteractions ≤ route.activeInteractions) :
    ((routes.map change).map activeInteractions).sum ≤ (routes.map activeInteractions).sum := by
  rw [map_map]
  exact sum_le_sum fun route _ => le route

theorem released_le (incarnation : NonZeroU64) (route : RouteRecord) :
    (if route.incarnation = incarnation then route.released else route).activeInteractions ≤ route.activeInteractions := by
  split
  · exact Nat.sub_le _ _
  · exact Nat.le_refl _

theorem retire_sum_le : (self.retire.map activeInteractions).sum ≤
    self.current.elim 0 activeInteractions + (self.retired.map activeInteractions).sum := by
  unfold retire
  have retained := sum_filter_le self.retired fun route => 0 < route.activeInteractions
  cases self.current with
  | none => exact Nat.le_trans retained (Nat.le_add_left _ _)
  | some current =>
    simp only
    split
    · rw [map_cons, sum_cons]
      exact Nat.add_le_add_left (Nat.le_trans (sum_filter_le _ _) retained) _
    · exact Nat.le_trans retained (Nat.le_add_left _ _)

theorem mem_retire {route : RouteRecord} (mem : route ∈ self.retire) :
    route ∈ self.retired ∧ 0 < route.activeInteractions ∨
      ∃ current, self.current = some current ∧ 0 < current.activeInteractions ∧ route = current.drained := by
  unfold retire at mem
  cases found : self.current with
  | none =>
    simp only [found, mem_filter, decide_eq_true_eq] at mem
    exact .inl mem
  | some current =>
    simp only [found] at mem
    split at mem
    · obtain rfl | mem := mem_cons.mp mem
      · exact .inr ⟨current, rfl, ‹_›, rfl⟩
      · simp only [mem_filter, decide_eq_true_eq] at mem
        exact .inl mem.1
    · simp only [mem_filter, decide_eq_true_eq] at mem
      exact .inl mem

theorem retire_length_le : self.retire.length ≤ (self.retire.map activeInteractions).sum := by
  rw [← length_map activeInteractions]
  refine length_le_sum_of_one_le _ fun active mem => ?_
  obtain ⟨route, retired, rfl⟩ := mem_map.mp mem
  obtain ⟨-, positive⟩ | ⟨current, -, positive, rfl⟩ := mem_retire retired
  · exact positive
  · exact positive

end SlotContent

namespace Edited
open SlotContent
variable {limit : Nat} {before after : SlotContent} {edit : SlotEdit}

theorem sound (edited : Edited limit before edit after) (sound : before.Sound limit) : after.Sound limit := by
  have total := totalActive_eq ▸ sound.bounded
  cases edited with
  | install record unsealed isNew admits =>
    refine ⟨?_, sound.current, sound.retired, ?_, ?_, sound.few⟩
    · rintro route ⟨⟩
      exact isNew
    · exact fun _ sealed => (nomatch unsealed.symm.trans sealed)
    · rw [totalActive_eq]
      simp only [Option.elim_some, isNew.2]
      omega
  | activate staged sequence unsealed found =>
    have idle := (sound.staged staged found).2
    have retired : (before.retire.map activeInteractions).sum ≤ before.current.elim 0 activeInteractions +
        (before.retired.map activeInteractions).sum := retire_sum_le
    refine ⟨nofun, ?_, ?_, fun _ sealed => (nomatch unsealed.symm.trans sealed), ?_, ?_⟩
    · rintro route ⟨⟩
      exact ⟨nofun, rfl⟩
    · intro route mem
      obtain ⟨mem, -⟩ | ⟨current, -, -, rfl⟩ := mem_retire mem
      · exact sound.retired route mem
      · rfl
    · rw [totalActive_eq]
      simp only [Option.elim_some, Option.elim_none, activated, idle]
      omega
    · have short : before.retire.length ≤ (before.retire.map activeInteractions).sum := retire_length_le
      dsimp only
      omega
  | beginDrain current unsealed found serving =>
    refine ⟨sound.staged, ?_, sound.retired, fun _ sealed => (nomatch unsealed.symm.trans sealed), ?_, sound.few⟩
    · rintro route ⟨⟩
      exact ⟨nofun, (sound.current current found).2⟩
    · rw [found] at total
      exact totalActive_eq ▸ total
  | removeStaged staged unsealed found =>
    refine ⟨nofun, sound.current, sound.retired, fun _ sealed => (nomatch unsealed.symm.trans sealed), ?_, sound.few⟩
    rw [totalActive_eq]
    simp only [Option.elim_none]
    omega
  | removeCurrent current unsealed found draining idle =>
    refine ⟨sound.staged, nofun, sound.retired, fun _ sealed => (nomatch unsealed.symm.trans sealed), ?_, sound.few⟩
    rw [totalActive_eq]
    simp only [Option.elim_none]
    omega
  | removeRetired route unsealed found idle =>
    refine ⟨sound.staged, sound.current, fun route mem => sound.retired route (mem_of_mem_filter mem),
      fun _ sealed => (nomatch unsealed.symm.trans sealed), ?_, Nat.le_trans (length_filter_le _ _) sound.few⟩
    have fewer := sum_filter_le before.retired fun retired => retired.incarnation ≠ route.incarnation
    rw [totalActive_eq]
    dsimp only
    omega
  | advanceStaged staged fencingToken unsealed found atHighWater next =>
    refine ⟨?_, sound.current, sound.retired, fun _ sealed => (nomatch unsealed.symm.trans sealed), ?_, sound.few⟩
    · rintro route ⟨⟩
      exact sound.staged staged found
    · rw [found] at total
      exact totalActive_eq ▸ total
  | advanceCurrent current fencingToken unsealed found atHighWater next =>
    refine ⟨sound.staged, ?_, sound.retired, fun _ sealed => (nomatch unsealed.symm.trans sealed), ?_, sound.few⟩
    · rintro route ⟨⟩
      exact sound.current current found
    · rw [found] at total
      exact totalActive_eq ▸ total
  | admitInteraction current unsealed found serving room =>
    refine ⟨sound.staged, ?_, sound.retired, fun _ sealed => (nomatch unsealed.symm.trans sealed), ?_, sound.few⟩
    · rintro route ⟨⟩
      exact sound.current current found
    · have idle : before.staged.elim 0 activeInteractions = 0 := by
        cases staged : before.staged with
        | none => rfl
        | some route => exact (sound.staged route staged).2
      rw [totalActive_eq]
      simp only [Option.elim_some, admitted, idle]
      omega
  | releaseCurrent current found =>
    refine ⟨sound.staged, ?_, sound.retired, fun sealed isSealed => ?_, ?_, sound.few⟩
    · rintro route ⟨⟩
      exact sound.current current found
    · rw [sound.sealRoute sealed isSealed]
      simp only [selected, found]
      rfl
    · rw [found] at total
      rw [totalActive_eq]
      simp only [Option.elim_some, released] at total ⊢
      omega
  | releaseRetired incarnation =>
    refine ⟨sound.staged, sound.current, ?_, sound.sealRoute, ?_, Nat.le_trans (Nat.le_of_eq (length_map _)) sound.few⟩
    · intro route mem
      obtain ⟨retired, was, rfl⟩ := mem_map.mp mem
      split
      · exact sound.retired retired was
      · exact sound.retired retired was
    · have fewer := sum_map_le before.retired _ (released_le incarnation)
      rw [totalActive_eq]
      dsimp only
      omega
  | close sealed unsealed exact isSource =>
    refine ⟨sound.staged, sound.current, sound.retired, ?_, sound.bounded, sound.few⟩
    rintro sealed ⟨⟩
    exact exact
  | reopen sealed found | succeed identity fencingToken sealed found unrouted admits =>
    exact ⟨sound.staged, sound.current, sound.retired, nofun, sound.bounded, sound.few⟩
  | refence current sealed fencingToken only serving atHighWater found =>
    refine ⟨sound.staged, ?_, sound.retired, ?_, ?_, sound.few⟩
    · rintro route ⟨⟩
      exact sound.current current only.1
    · rintro sealed ⟨⟩
      rfl
    · rw [only.1] at total
      exact totalActive_eq ▸ total
  | drainSealed current sealed only serving atHighWater found =>
    refine ⟨sound.staged, ?_, sound.retired, ?_, ?_, sound.few⟩
    · rintro route ⟨⟩
      exact ⟨nofun, (sound.current current only.1).2⟩
    · rintro sealed ⟨⟩
      rfl
    · rw [only.1] at total
      exact totalActive_eq ▸ total
  | removeSealed current sealed only draining atHighWater found =>
    refine ⟨sound.staged, nofun, sound.retired, ?_, ?_, sound.few⟩
    · rintro sealed ⟨⟩
      simp only [selected, only.2.1]
      rfl
    · rw [totalActive_eq]
      simp only [Option.elim_none]
      omega

end Edited

end Starring.Registry
