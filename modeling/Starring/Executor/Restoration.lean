import Starring.Executor.Rollback

/-! When a rollback brings the snapshot back. A deleted resource comes back under another
id and bare, so nothing of it may be lost: no overwrites, no channels under it, and no
overwrites for it elsewhere. -/

namespace Starring.Executor
open Foundation Foundation.UndoLog Planning List RollbackAction

/-- The same roles and channels, whatever their order and positions. -/
structure Same (first second : GuildState) : Prop where
  roles : (first.roles.map roleView).Perm (second.roles.map roleView)
  channels : (first.channels.map channelView).Perm (second.channels.map channelView)

def RollbackAction.Harmless (snapshot : GuildState) : RollbackAction → Prop
  | recreateRole before =>
    (snapshot.roles.filter fun role => role.id = before.id).length ≤ 1 ∧
      ∀ channel ∈ snapshot.channels, ∀ overwrite ∈ channel.overwrites, overwrite.target ≠ .role before.id
  | recreateChannel before =>
    (snapshot.channels.filter fun channel => channel.id = before.id).length ≤ 1 ∧ before.overwrites = [] ∧
      ∀ channel ∈ snapshot.channels, channel.parentId ≠ some before.id
  | restoreOverwrite channel target _ =>
    ∀ held ∈ snapshot.channels, held.id = channel →
      (held.overwrites.filter fun overwrite => overwrite.target = target).length ≤ 1
  | deleteRole _ | restoreRole _ _ | deleteChannel _ | restoreChannel _ _ => True

theorem dropped_roles (actions : List RollbackAction) :
    (actions.filterMap roleUndo).filterMap Undo.dropped =
      (actions.filterMap recreatedRole).map Role.id := by
  rw [filterMap_filterMap, map_filterMap]
  refine filterMap_congr fun action _ => ?_
  cases action <;> rfl

theorem dropped_channels (actions : List RollbackAction) :
    (actions.filterMap channelUndo).filterMap Undo.dropped =
      (actions.filterMap recreatedChannel).map Channel.id := by
  rw [filterMap_filterMap, map_filterMap]
  refine filterMap_congr fun action _ => ?_
  cases action with
  | restoreOverwrite channel target before => cases before <;> rfl
  | deleteRole | restoreRole | recreateRole | deleteChannel | restoreChannel | recreateChannel => rfl

theorem mem_recreatedRole {actions : List RollbackAction} {before : Role} :
    before ∈ actions.filterMap recreatedRole ↔ .recreateRole before ∈ actions := by
  rw [mem_filterMap]
  constructor
  · rintro ⟨action, mem, same⟩
    cases action <;> cases same
    exact mem
  · exact fun mem => ⟨_, mem, rfl⟩

theorem mem_recreatedChannel {actions : List RollbackAction} {before : Channel} :
    before ∈ actions.filterMap recreatedChannel ↔ .recreateChannel before ∈ actions := by
  rw [mem_filterMap]
  constructor
  · rintro ⟨action, mem, same⟩
    cases action <;> cases same
    exact mem
  · exact fun mem => ⟨_, mem, rfl⟩

theorem filter_eq_singleton {ρ ι : Type} [DecidableEq ι] {idOf : ρ → ι} {rows : List ρ} {row : ρ}
    (found : rows.find? (fun other => idOf other = idOf row) = some row)
    (few : (rows.filter fun other => idOf other = idOf row).length ≤ 1) :
    rows.filter (fun other => idOf other = idOf row) = [row] := by
  have mem : row ∈ rows.filter fun other => idOf other = idOf row :=
    mem_filter.mpr ⟨mem_of_find?_eq_some found, decide_eq_true rfl⟩
  match rows.filter (fun other => idOf other = idOf row), mem, few with
  | [only], mem, _ => rw [mem_singleton.mp mem]
  | _ :: _ :: _, _, few => simp at few

theorem map_eq_of_copies {α β γ : Type} {copy : α → β → Prop} {first : α → γ} {second : β → γ} {olds : List α}
    {news : List β} (copies : List.Forall₂ copy olds news)
    (same : ∀ old new, (old, new) ∈ olds.zip news → copy old new → second new = first old) :
    news.map second = olds.map first := by
  induction copies with
  | nil => rfl
  | cons here rest ih =>
    rw [map_cons, map_cons, same _ _ mem_cons_self here,
      ih fun old new mem => same old new (mem_cons_of_mem _ mem)]

theorem change_restoringSpec (channel : Channel) :
    (channelView channel).change (restoringSpec channel) = channelView channel := by
  simp [ChannelView.change, restoringSpec, channelView]

theorem putOverwrite_self {channel : Channel} {overwrite : PermissionOverwrite}
    (found : channel.overwrites.find? (fun other => other.target = overwrite.target) = some overwrite)
    (few : (channel.overwrites.filter fun other => other.target = overwrite.target).length ≤ 1) :
    (channelView channel).putOverwrite overwrite.target overwrite.allow overwrite.deny = channelView channel := by
  have only := filter_eq_singleton found few
  have split := Multiset.filter_add_not (fun other => other.target = overwrite.target)
    (channel.overwrites : Multiset PermissionOverwrite)
  rw [Multiset.filter_coe, only, Multiset.add_comm] at split
  exact congrArg (fun overwrites => { channelView channel with overwrites }) split

section
variable {snapshot : GuildState} {ids : Nat → UInt64} {pending : List RollbackAction} {names : Names}
  {store last : Store} {newRoles : List Role} {newChannels : List ChannelView}

theorem Given.exists_index {low high : Nat} {values : List UInt64} (given : Given ids low high values) {value : UInt64}
    (mem : value ∈ values) : ∃ index, low ≤ index ∧ index < high ∧ value = ids index := by
  obtain ⟨indices, rfl, -, bounded⟩ := given
  obtain ⟨index, inIndices, same⟩ := mem_map.mp mem
  exact ⟨index, (bounded index inIndices).1, (bounded index inIndices).2, same.symm⟩

theorem Given.nodup {low high : Nat} {values : List UInt64} (given : Given ids low high values)
    (unused : ∀ made < high, Unused snapshot ids made) : values.Nodup := by
  obtain ⟨indices, rfl, increasing, bounded⟩ := given
  refine pairwise_map.mpr (increasing.imp_of_mem fun _ later less => ?_)
  exact (unused _ (bounded _ later).2).first _ less

theorem Unused.ne_role {made : Nat} (unused : Unused snapshot ids made) {role : Role} (mem : role ∈ snapshot.roles) :
    role.id ≠ ⟨ids made⟩ := fun same =>
  unused.role (same ▸ mem_append_left _ (mem_append_left _ (mem_cons_of_mem _ (mem_map_of_mem mem))))

theorem Unused.ne_channel {made : Nat} (unused : Unused snapshot ids made) {channel : Channel}
    (mem : channel ∈ snapshot.channels) : channel.id ≠ ⟨ids made⟩ := fun same =>
  unused.channel (same ▸ mem_append_left _ (mem_map_of_mem mem))

variable (snapshot pending newRoles newChannels) in
/-- What was deleted goes by the id of its copy, and everything else by its own. -/
structure Restoring (relabel : Renaming) : Prop where
  role : ∀ before row, (before, row) ∈ (pending.filterMap recreatedRole).zip newRoles →
    relabel.role before.id = row.id
  channel : ∀ before view, (before, view) ∈ (pending.filterMap recreatedChannel).zip newChannels →
    relabel.channel before.id = view.id
  otherRole : ∀ id ∈ snapshot.roleIds, id ∉ (pending.filterMap recreatedRole).map Role.id →
    relabel.role id = id
  otherChannel : ∀ id ∈ snapshot.channelIds, id ∉ (pending.filterMap recreatedChannel).map Channel.id →
    relabel.channel id = id

theorem Restoring.channelView_rename {relabel : Renaming}
    (restoring : Restoring snapshot pending newRoles newChannels relabel)
    (harmless : ∀ action ∈ pending, action.Harmless snapshot) {channel : Channel} (mem : channel ∈ snapshot.channels) :
    channelView (channel.rename relabel) = { channelView channel with id := relabel.channel channel.id } := by
  rw [Channel.rename_of_fixed]
  · rfl
  · intro id parent
    refine restoring.otherChannel id (mem_append_right _ (mem_filterMap.mpr ⟨channel, mem, parent⟩)) fun gone => ?_
    obtain ⟨before, recreated, rfl⟩ := mem_map.mp gone
    exact (harmless _ (mem_recreatedChannel.mp recreated)).2.2 channel mem parent
  · intro overwrite held id target
    have known : id ∈ snapshot.roleIds := mem_append_left _ (mem_append_right _
      (mem_flatMap.mpr ⟨channel, mem, mem_flatMap.mpr ⟨overwrite, held, target⟩⟩))
    refine restoring.otherRole id known fun gone => ?_
    obtain ⟨before, recreated, rfl⟩ := mem_map.mp gone
    refine (harmless _ (mem_recreatedRole.mp recreated)).2 channel mem overwrite held ?_
    cases aimed : overwrite.target with
    | role other =>
      rw [aimed] at target
      rw [mem_singleton.mp target]
    | member other =>
      rw [aimed] at target
      cases target

variable (undoable : Undoable snapshot ids pending names store) (rebuilt : Rebuilt ids pending store last newRoles newChannels)
  (unused : ∀ made < last.made, Unused snapshot ids made)
include undoable rebuilt unused

theorem Rebuilt.roles_eq :
    last.guild.roles = (snapshot.roles.filter fun role =>
      role.id ∉ (pending.filterMap recreatedRole).map Role.id) ++ newRoles := by
  have spared : ∀ row ∈ newRoles, ∀ undo ∈ pending.filterMap roleUndo, ¬undo.Touches row.id := by
    intro row mem undo held touches
    obtain ⟨index, low, high, given⟩ := rebuilt.roleIds.exists_index (mem_map_of_mem mem)
    have fresh := unused index high
    have here : row.id = ⟨ids index⟩ := congrArg RoleId.mk given
    obtain ⟨action, inPending, same⟩ := mem_filterMap.mp held
    have captured := undoable.captured action inPending
    cases action <;> cases same
    · obtain ⟨earlier, before, old⟩ := undoable.rolesGiven _ inPending
      exact fresh.first earlier (before.trans_le low) (RoleId.mk.inj (old.symm.trans (touches.trans here)))
    · obtain ⟨role, inBase, found⟩ := exists_of_find? captured
      exact fresh.ne_role inBase ((of_decide_eq_true found).trans (touches.trans here))
    · exact touches
  have exactly : ∀ id restore, .put id restore ∈ pending.filterMap roleUndo → ∀ row,
      snapshot.roles.find? (fun row => row.id = id) = some row → restore row = row := by
    intro id restore mem row found
    obtain ⟨action, inPending, same⟩ := mem_filterMap.mp mem
    have captured := undoable.captured action inPending
    cases action <;> cases same
    obtain rfl := Option.some.inj (found.symm.trans captured)
    rfl
  have noneStuck : .stuck ∉ pending.filterMap roleUndo := by
    intro mem
    obtain ⟨action, -, same⟩ := mem_filterMap.mp mem
    cases action <;> cases same
  rw [rebuilt.roles.eq spared, undoable.roles.survives noneStuck, kept_eq_filter exactly, dropped_roles]

theorem Rebuilt.channels_eq (harmless : ∀ action ∈ pending, action.Harmless snapshot) :
    last.guild.channels.map channelView = ((snapshot.channels.filter fun channel =>
      channel.id ∉ (pending.filterMap recreatedChannel).map Channel.id).map channelView) ++ newChannels := by
  have spared : ∀ view ∈ newChannels, ∀ undo ∈ pending.filterMap channelUndo, ¬undo.Touches view.id := by
    intro view mem undo held touches
    obtain ⟨index, low, high, given⟩ := rebuilt.channelIds.exists_index (mem_map_of_mem mem)
    have fresh := unused index high
    have here : view.id = ⟨ids index⟩ := congrArg ChannelId.mk given
    obtain ⟨action, inPending, same⟩ := mem_filterMap.mp held
    have captured := undoable.captured action inPending
    cases action with
    | deleteChannel id =>
      cases same
      obtain ⟨earlier, before, old⟩ := undoable.channelsGiven _ inPending
      exact fresh.first earlier (before.trans_le low) (ChannelId.mk.inj (old.symm.trans (touches.trans here)))
    | restoreChannel id before =>
      cases same
      obtain ⟨channel, inBase, found⟩ := exists_of_find? captured
      exact fresh.ne_channel inBase ((of_decide_eq_true found).trans (touches.trans here))
    | recreateChannel before =>
      cases same
      exact touches
    | restoreOverwrite id target before =>
      cases before with
      | none =>
        cases same
        exact touches
      | some before =>
        cases same
        obtain ⟨channel, found, -⟩ := Option.bind_eq_some_iff.mp captured.symm
        obtain ⟨other, inBase, sameId⟩ := exists_of_find? found
        exact fresh.ne_channel inBase ((of_decide_eq_true sameId).trans (touches.trans here))
    | deleteRole | restoreRole | recreateRole => cases same
  have exactly : ∀ id restore, .put id restore ∈ pending.filterMap channelUndo → ∀ view,
      (snapshot.channels.map channelView).find? (fun view => view.id = id) = some view → restore view = view := by
    intro id restore mem view found
    rw [find?_map] at found
    obtain ⟨channel, held, rfl⟩ := Option.map_eq_some_iff.mp found
    obtain ⟨action, inPending, same⟩ := mem_filterMap.mp mem
    have captured := undoable.captured action inPending
    cases action with
    | restoreChannel other before =>
      cases same
      obtain rfl : channel = before := Option.some.inj (held.symm.trans captured)
      exact change_restoringSpec channel
    | restoreOverwrite other target before =>
      cases before with
      | none => cases same
      | some before =>
        cases same
        obtain ⟨first, firstFound, overwritten⟩ := Option.bind_eq_some_iff.mp captured.symm
        obtain rfl : channel = first := Option.some.inj (held.symm.trans firstFound)
        obtain rfl : before.target = target := by simpa using find?_some overwritten
        have sameId : channel.id = id := by simpa using find?_some firstFound
        exact putOverwrite_self overwritten
          (harmless _ inPending channel (mem_of_find?_eq_some held) sameId)
    | deleteRole | restoreRole | recreateRole | deleteChannel | recreateChannel => cases same
  rw [rebuilt.channels.eq spared, undoable.channels.survives rebuilt.free, kept_eq_filter exactly, dropped_channels,
    filter_map]
  rfl

theorem exists_restoring : ∃ relabel, Restoring snapshot pending newRoles newChannels relabel := by
  have newRole : ∀ id ∈ snapshot.roleIds, id ∉ newRoles.map Role.id := by
    intro id known mem
    obtain ⟨row, inNew, rfl⟩ := mem_map.mp mem
    obtain ⟨index, -, high, given⟩ := rebuilt.roleIds.exists_index (mem_map_of_mem inNew)
    exact (unused index high).role (given ▸ known)
  have newChannel : ∀ id ∈ snapshot.channelIds, id ∉ newChannels.map ChannelView.id := by
    intro id known mem
    obtain ⟨view, inNew, rfl⟩ := mem_map.mp mem
    obtain ⟨index, -, high, given⟩ := rebuilt.channelIds.exists_index (mem_map_of_mem inNew)
    exact (unused index high).channel (given ▸ known)
  have distinctRoles : (newRoles.map Role.id).Nodup := by
    refine List.Nodup.of_map RoleId.value ?_
    rw [map_map]
    exact rebuilt.roleIds.nodup unused
  have distinctChannels : (newChannels.map ChannelView.id).Nodup := by
    refine List.Nodup.of_map ChannelId.value ?_
    rw [map_map]
    exact rebuilt.channelIds.nodup unused
  obtain ⟨role, roles, otherRoles⟩ := exists_perm_of_zip rebuilt.roleCopies.length_eq
    (dropped_roles pending ▸ undoable.roles.once) distinctRoles
  obtain ⟨channel, channels, otherChannels⟩ := exists_perm_of_zip rebuilt.channelCopies.length_eq
    (dropped_channels pending ▸ undoable.channels.once) distinctChannels
  exact ⟨⟨role, channel⟩, roles, channels, fun id known kept => otherRoles id kept (newRole id known),
    fun id known kept => otherChannels id kept (newChannel id known)⟩

theorem Rebuilt.same (harmless : ∀ action ∈ pending, action.Harmless snapshot) {relabel : Renaming}
    (restoring : Restoring snapshot pending newRoles newChannels relabel) :
    Same last.guild (snapshot.rename relabel) where
  roles := by
    have single : ∀ before ∈ pending.filterMap recreatedRole,
        snapshot.roles.filter (fun other => other.id = before.id) = [before] := fun before mem =>
      have recreated := mem_recreatedRole.mp mem
      filter_eq_singleton (undoable.captured _ recreated) (harmless _ recreated).1
    have perm := perm_filter_append (dropped_roles pending ▸ undoable.roles.once) single
    have kept : ∀ role ∈ snapshot.roles.filter fun role =>
        role.id ∉ (pending.filterMap recreatedRole).map Role.id, role.rename relabel = role := by
      intro role mem
      obtain ⟨inBase, stays⟩ := mem_filter.mp mem
      have known : role.id ∈ snapshot.roleIds := mem_append_left _ (mem_append_left _
        (mem_cons_of_mem _ (mem_map_of_mem inBase)))
      rw [Role.rename, restoring.otherRole role.id known (of_decide_eq_true stays)]
    have copies : newRoles.map roleView =
        (pending.filterMap recreatedRole).map (roleView ∘ Role.rename relabel) := by
      refine map_eq_of_copies rebuilt.roleCopies fun before row mem copy => ?_
      rw [copy, ← restoring.role before row mem]
      rfl
    rw [rebuilt.roles_eq undoable unused, map_append, GuildState.rename, map_map]
    refine List.Perm.trans ?_ (perm.map _).symm
    rw [map_append, copies]
    refine List.Perm.of_eq (congrArg (· ++ _) (map_congr_left fun role mem => ?_))
    exact congrArg roleView (kept role mem).symm
  channels := by
    have single : ∀ before ∈ pending.filterMap recreatedChannel,
        snapshot.channels.filter (fun other => other.id = before.id) = [before] := fun before mem =>
      have recreated := mem_recreatedChannel.mp mem
      filter_eq_singleton (undoable.captured _ recreated) (harmless _ recreated).1
    have perm := perm_filter_append (dropped_channels pending ▸ undoable.channels.once) single
    have copies : newChannels.map id =
        (pending.filterMap recreatedChannel).map (channelView ∘ Channel.rename relabel) := by
      refine map_eq_of_copies rebuilt.channelCopies fun before view mem copy => ?_
      have recreated := mem_recreatedChannel.mp (of_mem_zip mem).1
      have bare : (before.overwrites : Multiset PermissionOverwrite) = 0 := by
        rw [(harmless _ recreated).2.1]
        rfl
      have inBase := mem_of_find?_eq_some (undoable.captured _ recreated)
      rw [Function.comp_apply, restoring.channelView_rename harmless inBase, restoring.channel before view mem, id, copy]
      exact congrArg (fun overwrites => { channelView before with id := view.id, overwrites }) bare.symm
    rw [rebuilt.channels_eq undoable unused harmless, GuildState.rename, map_map, ← map_id newChannels, copies]
    refine List.Perm.trans ?_ (perm.map _).symm
    rw [map_append]
    refine List.Perm.of_eq (congrArg (· ++ _) (map_congr_left fun channel mem => ?_))
    obtain ⟨inBase, stays⟩ := mem_filter.mp mem
    have known : channel.id ∈ snapshot.channelIds := mem_append_left _ (mem_map_of_mem inBase)
    rw [Function.comp_apply, restoring.channelView_rename harmless inBase,
      restoring.otherChannel channel.id known (of_decide_eq_true stays)]
    rfl

end

theorem rollbackStatus_succeeded {steps : List RollbackStepResult} (status : rollbackStatus steps = .succeeded) :
    ∀ step ∈ steps, step.outcome = .undone := by
  unfold rollbackStatus at status
  split at status
  · cases status
  · split at status
    · next all =>
      intro step mem
      have here := all_eq_true.mp all step mem
      cases outcome : step.outcome <;> rw [outcome] at here <;> simp_all
    · split at status <;> cases status

theorem rollbackStatus_notRequired {steps : List RollbackStepResult} (status : rollbackStatus steps = .notRequired) :
    steps = [] := by
  unfold rollbackStatus at status
  split at status
  · assumption
  · split at status
    · cases status
    · split at status <;> cases status

/-- Only what had to be created anew goes by another id. -/
structure MovesRecreated (snapshot : GuildState) (actions : List RollbackAction) (relabel : Renaming) : Prop where
  role : ∀ id ∈ snapshot.roleIds, (∀ before, .recreateRole before ∈ actions → before.id ≠ id) → relabel.role id = id
  channel : ∀ id ∈ snapshot.channelIds, (∀ before, .recreateChannel before ∈ actions → before.id ≠ id) →
    relabel.channel id = id

/-- What the rollback reports is true. -/
theorem rollback_truthful {request : ApprovedExecutionRequest} {ids : Nat → UInt64}
    {refuses : Nat → Bool → Option AdapterError} {run : JobRun} {store : Store}
    (strict : ∀ calls, refuses calls false ≠ none)
    (ran : executeWithRollback (guildStore ids refuses) request { guild := request.snapshot, calls := 0, made := 0 } =
      (.ok run, store))
    (unused : ∀ made < store.made, Unused request.snapshot ids made) :
    (run.rollback.status = .succeeded → (∀ step ∈ run.rollback.steps, step.action.Harmless request.snapshot) →
      ∃ relabel, MovesRecreated request.snapshot (run.rollback.steps.map RollbackStepResult.action) relabel ∧
        Same store.guild (request.snapshot.rename relabel)) ∧
    (run.job.status = .failed → run.rollback.status = .notRequired → store.guild = request.snapshot) := by
  unfold executeWithRollback at ran
  split at ran
  · cases ran
  · next result state executed =>
    obtain ⟨order, job, jobRan, rfl, rfl⟩ := execute_inv _ _ executed
    split at ran
    · next succeeded =>
      -- a job that has succeeded is not rolled back
      obtain ⟨made, rfl⟩ := Prod.mk.inj ran
      obtain rfl := Except.ok.inj made
      exact ⟨nofun, fun failed => absurd (succeeded.symm.trans failed) nofun⟩
    · obtain ⟨made, rfl⟩ := Prod.mk.inj ran
      obtain rfl := Except.ok.inj made
      obtain ⟨added, last, undone, actions, le, rebuilt⟩ :=
        rollback_run ids refuses request.guildId job.steps.reverse [] job.adapter
      rw [rollback, undone] at unused ⊢
      have recorded : JobRecorded request.snapshot ids job := by
        rw [← jobRan] at le ⊢
        exact (jobRecorded_start request.normalized request.guildId 0 0).run strict _ fun made less =>
          unused made (less.trans_le le)
      constructor
      · intro status harmless
        obtain ⟨newRoles, newChannels, done⟩ := rebuilt (rollbackStatus_succeeded status)
        have safe : ∀ action ∈ pendingOf job.steps, action.Harmless request.snapshot := by
          rw [pendingOf, ← actions]
          intro action mem
          obtain ⟨step, held, rfl⟩ := mem_map.mp mem
          exact harmless step held
        obtain ⟨relabel, restoring⟩ := exists_restoring recorded done unused
        refine ⟨relabel, ⟨fun id known stays => restoring.otherRole id known fun mem => ?_,
          fun id known stays => restoring.otherChannel id known fun mem => ?_⟩, done.same recorded unused safe restoring⟩
        · obtain ⟨before, recreated, same⟩ := mem_map.mp mem
          exact stays before (actions ▸ mem_recreatedRole.mp recreated) same
        · obtain ⟨before, recreated, same⟩ := mem_map.mp mem
          exact stays before (actions ▸ mem_recreatedChannel.mp recreated) same
      · intro failed status
        obtain rfl : added = [] := rollbackStatus_notRequired status
        have nothing : job.steps.reverse.filterMap StepResult.undo = [] := actions.symm
        rw [foldl_rollbackStep_none nothing] at undone
        exact (Prod.mk.inj undone).2 ▸ recorded.untouched nothing

namespace Refusal

def identity (key : String) : Identity :=
  { key := ⟨key⟩, matchBy := .byName, ownership := .managed, state := .present }

def hall (overwrites : List PermissionOverwrite) : Channel :=
  { id := ⟨10⟩, name := "hall", channelType := .text, parentId := none, position := 0, overwrites }

def guild (overwrites : List PermissionOverwrite) : GuildState :=
  { guild := { id := ⟨1⟩, name := "guild", ownerId := ⟨2⟩ }, roles := [], channels := [hall overwrites], members := [] }

def hidden : PermissionOverwrite := { target := .role ⟨1⟩, allow := .empty, deny := .viewChannel }

def normalized : NormalizedDesiredState :=
  { mode := .patch, scope := none, roles := []
    channels := [{ identity := identity "hall", name := some "hall", channelType := none, parent := none, overwrites := [] }]
    verificationPanels := [] }

/-- A channel is deleted, then a role is created. -/
def request (overwrites : List PermissionOverwrite) : ApprovedExecutionRequest :=
  { operationGraph := { nodes := [
      { id := 0, operation := .deleteChannel ⟨"hall"⟩, dependsOn := [], produces := [], consumes := [] },
      { id := 1, operation := .createRole ⟨"helper"⟩ none none, dependsOn := [0], produces := [], consumes := [] }] }
    normalized
    approval := { verdict := .allow, requiredApprovals := 0, approvals := [], rejection := none }
    snapshot := guild overwrites
    guildId := ⟨1⟩ }

/-- The second call is refused, and calls for what is not there. -/
def refuses (calls : Nat) (known : Bool) : Option AdapterError :=
  if calls = 1 then some { kind := .forbidden, message := "" }
  else if known then none else some { kind := .notFound, message := "" }

def ids (made : Nat) : UInt64 := 100 + UInt64.ofNat made

def outcome (overwrites : List PermissionOverwrite) : Except ExecutorError JobRun × Store :=
  executeWithRollback (guildStore ids refuses) (request overwrites) { guild := guild overwrites, calls := 0, made := 0 }

end Refusal

theorem bare_restored :
    ∃ run store relabel, Refusal.outcome [] = (.ok run, store) ∧ run.rollback.status = .succeeded ∧
      Same store.guild ((Refusal.guild []).rename relabel) := by
  obtain ⟨run, ran, checked⟩ := exists_ok_of_any (Refusal.outcome []).1
    (fun run => run.rollback.status = .succeeded ∧
      run.rollback.steps.map RollbackStepResult.action = [.recreateChannel (Refusal.hall [])])
    (by decide +kernel)
  obtain ⟨succeeded, actions⟩ := of_decide_eq_true checked
  have strict : ∀ calls, Refusal.refuses calls false ≠ none := by
    intro calls
    unfold Refusal.refuses
    split <;> simp
  have unused : ∀ made < (Refusal.outcome []).2.made, Unused (Refusal.guild []) Refusal.ids made := by
    have one : (Refusal.outcome []).2.made = 1 := by decide +kernel
    rw [one]
    intro made less
    obtain rfl := Nat.lt_one_iff.mp less
    exact ⟨fun _ earlier => (Nat.not_lt_zero _ earlier).elim, by decide +kernel, by decide +kernel⟩
  have harmless : ∀ step ∈ run.rollback.steps, step.action.Harmless (Refusal.guild []) := by
    intro step mem
    have here : step.action ∈ run.rollback.steps.map RollbackStepResult.action := mem_map_of_mem mem
    rw [actions, mem_singleton] at here
    rw [here]
    exact ⟨by decide +kernel, rfl, by decide +kernel⟩
  have whole : Refusal.outcome [] = (.ok run, (Refusal.outcome []).2) := Prod.ext ran rfl
  obtain ⟨relabel, -, same⟩ := (rollback_truthful strict whole unused).1 succeeded harmless
  exact ⟨run, _, relabel, whole, succeeded, same⟩

/-- The channel comes back without its overwrite, and yet the rollback is a success. -/
theorem overwrite_lost :
    ∃ run store, Refusal.outcome [Refusal.hidden] = (.ok run, store) ∧ run.rollback.status = .succeeded ∧
      (∀ made < store.made, Unused (Refusal.guild [Refusal.hidden]) Refusal.ids made) ∧
      ∀ relabel, ¬Same store.guild ((Refusal.guild [Refusal.hidden]).rename relabel) := by
  obtain ⟨run, ran, checked⟩ := exists_ok_of_any (Refusal.outcome [Refusal.hidden]).1
    (fun run => run.rollback.status = .succeeded) (by decide +kernel)
  refine ⟨run, _, Prod.ext ran rfl, of_decide_eq_true checked, ?_, fun relabel same => ?_⟩
  · have one : (Refusal.outcome [Refusal.hidden]).2.made = 1 := by decide +kernel
    rw [one]
    intro made less
    obtain rfl := Nat.lt_one_iff.mp less
    exact ⟨fun _ earlier => (Nat.not_lt_zero _ earlier).elim, by decide +kernel, by decide +kernel⟩
  · have counts := same.channels.map fun view => view.overwrites.card
    have none : ((Refusal.outcome [Refusal.hidden]).2.guild.channels.map channelView).map
        (fun view => view.overwrites.card) = [0] := by decide +kernel
    rw [none] at counts
    simp [GuildState.rename, Channel.rename, channelView, Refusal.guild, Refusal.hall] at counts

end Starring.Executor
