import Starring.Foundation.Tables
import Starring.Planning.Declarations
import Starring.Planning.Diff

/-! What a diff without conflicts decides. Each entry is decided in one of five ways,
and no two changes of a diff are about the same target. -/

namespace Starring.Planning
open Foundation List DiffResult

namespace DiffResult

@[simp] theorem append_changes (first second : DiffResult) :
    (first.append second).changes = first.changes ++ second.changes := rfl

@[simp] theorem append_conflicts (first second : DiffResult) :
    (first.append second).conflicts = first.conflicts ++ second.conflicts := rfl

@[simp] theorem change_changes (op : ChangeOp) (target : DiffTarget) (changed : List ChangedField) :
    (change op target changed).changes = [{ op, target, changed }] := rfl

@[simp] theorem change_conflicts (op : ChangeOp) (target : DiffTarget) (changed : List ChangedField) :
    (change op target changed).conflicts = [] := rfl

variable (target : DiffTarget)

@[simp] theorem noop_changes : (noop target).changes = [{ op := .noOp, target, changed := [] }] :=
  rfl

@[simp] theorem noop_conflicts : (noop target).conflicts = [] := rfl

@[simp] theorem pushConflict_changes (reason : String) : (pushConflict target reason).changes = [] := rfl

@[simp] theorem pushConflict_conflicts (reason : String) :
    (pushConflict target reason).conflicts = [{ target, reason }] := rfl

@[simp] theorem updateOrNoop_conflicts (changed : List ChangedField) :
    (updateOrNoop target changed).conflicts = [] := by
  unfold updateOrNoop
  split <;> rfl

theorem updateOrNoop_targets (changed : List ChangedField) :
    (updateOrNoop target changed).changes.map DiffChange.target = [target] := by
  unfold updateOrNoop
  split <;> rfl

section
variable {α : Type} {items : List α} {diffOne : α → DiffResult}

@[simp] theorem mem_concat_changes (change : DiffChange) :
    change ∈ (concat items diffOne).changes ↔ ∃ item ∈ items, change ∈ (diffOne item).changes := by
  induction items with
  | nil => simp [concat, empty]
  | cons item items ih => simp_all [concat]

@[simp] theorem concat_conflicts_eq_nil :
    (concat items diffOne).conflicts = [] ↔ ∀ item ∈ items, (diffOne item).conflicts = [] := by
  induction items with
  | nil => simp [concat, empty]
  | cons item items ih => simp_all [concat]

theorem concat_targets_sublist {targets : α → List DiffTarget}
    (each : ∀ item ∈ items, ((diffOne item).changes.map DiffChange.target).Sublist (targets item)) :
    ((concat items diffOne).changes.map DiffChange.target).Sublist (items.flatMap targets) := by
  induction items with
  | nil => exact List.Sublist.slnil
  | cons item items ih =>
    simp only [concat, foldr_cons, append_changes, map_append, flatMap_cons]
    exact (each item mem_cons_self).append (ih fun other mem => each other (mem_cons_of_mem _ mem))

theorem concat_targets_sublist_map {target : α → DiffTarget}
    (each : ∀ item ∈ items, ((diffOne item).changes.map DiffChange.target).Sublist [target item]) :
    ((concat items diffOne).changes.map DiffChange.target).Sublist (items.map target) := by
  have flat := concat_targets_sublist each
  rwa [← map_eq_flatMap] at flat

end

end DiffResult

section
variable {ρ : Type} {kind : Kind ρ} {target : DiffTarget} {identity : Identity} {resolved : ResolveResult ρ}
  {changed : ρ → List ChangedField} {details : ρ → DiffResult} {createdDetails : DiffResult}

/-- The ways in which an entry is decided without a conflict. -/
inductive Decided (target : DiffTarget) (identity : Identity) (resolved : ResolveResult ρ)
    (changed : ρ → List ChangedField) (details : ρ → DiffResult) (createdDetails : DiffResult) : DiffResult → Prop where
  | referred (current : ρ) (present : identity.state = .present) (found : resolved = .existing current)
      (referenced : identity.ownership = .referenced) :
      Decided target identity resolved changed details createdDetails (.noop target)
  | kept (current : ρ) (present : identity.state = .present) (found : resolved = .existing current)
      (owned : identity.ownership ≠ .referenced) :
      Decided target identity resolved changed details createdDetails
        ((updateOrNoop target (changed current)).append (details current))
  | created (present : identity.state = .present) (missing : resolved = .missing)
      (owned : identity.ownership ≠ .referenced) (byName : identity.matchBy = .byName) :
      Decided target identity resolved changed details createdDetails
        ((change .create target []).append createdDetails)
  | deleted (current : ρ) (absent : identity.state = .absent) (found : resolved = .existing current) :
      Decided target identity resolved changed details createdDetails (.change .delete target [])
  | gone (absent : identity.state = .absent) (missing : resolved = .missing) :
      Decided target identity resolved changed details createdDetails (.noop target)

theorem diffResource_decided
    (clean : (diffResource kind target identity resolved changed details createdDetails).conflicts = []) :
    Decided target identity resolved changed details createdDetails
      (diffResource kind target identity resolved changed details createdDetails) := by
  unfold diffResource at clean ⊢
  cases state : identity.state with
  | present =>
    cases found : resolved with
    | existing current =>
      by_cases referenced : identity.ownership = .referenced
      · simp only [referenced, if_true]
        exact .referred current state rfl referenced
      · simp only [referenced, if_false]
        exact .kept current state rfl referenced
    | missing =>
      by_cases referenced : identity.ownership = .referenced
      · simp [state, found, referenced] at clean
      · cases strategy : identity.matchBy with
        | byName =>
          simp only [referenced, Identity.isExplicitId, strategy, if_false]
          exact .created state rfl referenced strategy
        | byExplicitId id => simp [state, found, referenced, Identity.isExplicitId, strategy] at clean
    | conflict reason => simp [state, found] at clean
  | absent =>
    cases found : resolved with
    | existing current =>
      by_cases referenced : identity.ownership = .referenced
      · simp [state, found, referenced] at clean
      · simp only [referenced, if_false]
        exact .deleted current state rfl
    | missing => exact .gone state rfl
    | conflict reason => simp [state, found] at clean

variable {result : DiffResult}

theorem Decided.ne_conflict (decided : Decided target identity resolved changed details createdDetails result)
    (reason : String) : resolved ≠ .conflict reason := by
  rintro rfl
  cases decided <;> contradiction

theorem Decided.byName_of_missing (decided : Decided target identity resolved changed details createdDetails result)
    (present : identity.state = .present) (missing : resolved = .missing) : identity.matchBy = .byName := by
  cases decided with
  | referred current _ found referenced | kept current _ found owned => cases missing.symm.trans found
  | created _ _ owned byName => exact byName
  | deleted current absent found | gone absent _ => cases present.symm.trans absent

/-- What a change of the entry itself, and not of its details, is due to. -/
inductive Due (identity : Identity) (resolved : ResolveResult ρ) (changed : ρ → List ChangedField) : ChangeOp → Prop where
  | nothing : Due identity resolved changed .noOp
  | update (current : ρ) (present : identity.state = .present) (owned : identity.ownership ≠ .referenced)
      (found : resolved = .existing current) (differs : changed current ≠ []) : Due identity resolved changed .update
  | create (present : identity.state = .present) (missing : resolved = .missing) : Due identity resolved changed .create
  | delete (current : ρ) (absent : identity.state = .absent) (found : resolved = .existing current) :
      Due identity resolved changed .delete

theorem mem_updateOrNoop {fields : List ChangedField} {change : DiffChange}
    (mem : change ∈ (updateOrNoop target fields).changes) :
    change.op = .noOp ∨ change.op = .update ∧ fields ≠ [] := by
  unfold updateOrNoop at mem
  split at mem
  · exact .inl (mem_singleton.mp mem ▸ rfl)
  · next differs => exact .inr ⟨mem_singleton.mp mem ▸ rfl, differs⟩

theorem Decided.due (decided : Decided target identity resolved changed details createdDetails result)
    {change : DiffChange} (mem : change ∈ result.changes) (about : change.target = target)
    (other : ∀ current, ∀ detail ∈ (details current).changes, detail.target ≠ target)
    (otherCreated : ∀ detail ∈ createdDetails.changes, detail.target ≠ target) :
    Due identity resolved changed change.op := by
  cases decided with
  | referred current present found referenced | gone absent missing => exact mem_singleton.mp mem ▸ .nothing
  | kept current present found owned =>
    obtain own | detail := mem_append.mp mem
    · obtain none | ⟨update, differs⟩ := mem_updateOrNoop own
      · exact none ▸ .nothing
      · exact update ▸ .update current present owned found differs
    · exact (other current change detail about).elim
  | created present missing owned byName =>
    obtain own | detail := mem_append.mp mem
    · exact mem_singleton.mp own ▸ .create present missing
    · exact (otherCreated change detail about).elim
  | deleted current absent found => exact mem_singleton.mp mem ▸ .delete current absent found

theorem Decided.has (decided : Decided target identity resolved changed details createdDetails result) {op : ChangeOp}
    (due : Due identity resolved changed op) (acts : op ≠ .noOp) :
    ∃ change ∈ result.changes, change.op = op ∧ change.target = target := by
  cases due with
  | nothing => exact (acts rfl).elim
  | update current present owned found differs =>
    cases decided with
    | referred _ _ _ referenced => exact (owned referenced).elim
    | kept same _ sameFound _ =>
      obtain rfl := ResolveResult.existing.inj (found.symm.trans sameFound)
      refine ⟨{ op := .update, target, changed := changed current }, mem_append_left _ ?_, rfl, rfl⟩
      rw [updateOrNoop, if_neg differs]
      exact mem_singleton_self _
    | created _ missing _ _ => cases found.symm.trans missing
    | deleted _ absent _ | gone absent _ => cases present.symm.trans absent
  | create present missing =>
    cases decided with
    | referred _ _ found _ | kept _ _ found _ => cases missing.symm.trans found
    | created _ _ _ _ => exact ⟨_, mem_append_left _ (mem_singleton_self _), rfl, rfl⟩
    | deleted _ absent _ | gone absent _ => cases present.symm.trans absent
  | delete current absent found =>
    cases decided with
    | referred _ present _ _ | kept _ present _ _ | created present _ _ _ => cases present.symm.trans absent
    | deleted _ _ _ => exact ⟨_, mem_singleton_self _, rfl, rfl⟩
    | gone _ missing => cases found.symm.trans missing

theorem diffResource_targets_sublist
    (clean : (diffResource kind target identity resolved changed details createdDetails).conflicts = [])
    {targets : List DiffTarget} (each : ∀ current, ((details current).changes.map DiffChange.target).Sublist targets)
    (created : (createdDetails.changes.map DiffChange.target).Sublist targets) :
    ((diffResource kind target identity resolved changed details createdDetails).changes.map
      DiffChange.target).Sublist (target :: targets) := by
  have alone : [target].Sublist (target :: targets) := (nil_sublist targets).cons_cons target
  have decided := diffResource_decided clean
  generalize diffResource kind target identity resolved changed details createdDetails = result at decided
  cases decided with
  | referred current present found referenced => exact alone
  | kept current present found owned =>
    rw [append_changes, map_append, updateOrNoop_targets]
    exact (each current).cons_cons target
  | created present missing owned byName => exact created.cons_cons target
  | deleted current absent found => exact alone
  | gone absent missing => exact alone

end

section
variable {normalized : NormalizedDesiredState} {resolver : ResourceResolver}

theorem diff_panels_changes : (concat normalized.verificationPanels deferPanel).changes = [] :=
  eq_nil_iff_forall_not_mem.mpr fun change mem => by simp [deferPanel, empty] at mem

theorem mem_diff_changes (change : DiffChange) : change ∈ (diff normalized resolver).changes ↔
    (∃ role ∈ normalized.roles, change ∈ (diffRole resolver role).changes) ∨
      ∃ channel ∈ normalized.channels, change ∈ (diffChannel resolver normalized.roles channel).changes := by
  simp [diff, diff_panels_changes]

theorem diff_conflicts_eq_nil : (diff normalized resolver).conflicts = [] ↔
    (∀ role ∈ normalized.roles, (diffRole resolver role).conflicts = []) ∧
      ∀ channel ∈ normalized.channels, (diffChannel resolver normalized.roles channel).conflicts = [] := by
  have panels : (concat normalized.verificationPanels deferPanel).conflicts = [] := by
    simp [deferPanel, empty]
  simp [diff, panels]

def channelTargets (channel : NormalizedChannel) : List DiffTarget :=
  .channel channel.identity.key ::
    channel.overwrites.map fun overwrite => .overwrite channel.identity.key overwrite.target

theorem diffOverwrite_targets_sublist (resolver : ResourceResolver) (roles : List NormalizedRole) (channel : NormalizedChannel) (current : Channel)
    (overwrite : NormalizedOverwrite) :
    ((diffOverwrite resolver roles channel current overwrite).changes.map DiffChange.target).Sublist
      [.overwrite channel.identity.key overwrite.target] := by
  unfold diffOverwrite
  cases resolveOverwriteTarget resolver roles overwrite.target with
  | error reason => exact nil_sublist _
  | ok resolved =>
    simp only
    split
    · rw [updateOrNoop_targets]
    · exact List.Sublist.refl _

variable {roles : List NormalizedRole} {channel : NormalizedChannel}

theorem diffOverwrite_cases {current : Channel} {overwrite : NormalizedOverwrite}
    (clean : (diffOverwrite resolver roles channel current overwrite).conflicts = []) :
    (∃ target held, resolveOverwriteTarget resolver roles overwrite.target = .ok (some target) ∧
      (current.overwrites.find? fun held => held.target = target) = some held ∧
      held.allow = overwrite.allow ∧ held.deny = overwrite.deny) ∨
    ∃ change ∈ (diffOverwrite resolver roles channel current overwrite).changes,
      change.op ≠ .noOp ∧ change.target = .overwrite channel.identity.key overwrite.target := by
  unfold diffOverwrite at clean ⊢
  cases resolved : resolveOverwriteTarget resolver roles overwrite.target with
  | error reason => simp [resolved] at clean
  | ok target =>
    simp only
    split
    · next held found =>
      obtain ⟨wanted, rfl, here⟩ := Option.bind_eq_some_iff.mp found
      by_cases same : overwrite.allow = held.allow ∧ overwrite.deny = held.deny
      · exact .inl ⟨wanted, held, rfl, here, same.1.symm, same.2.symm⟩
      · right
        rw [updateOrNoop, if_neg fun unchanged => same (by simpa using unchanged)]
        exact ⟨_, mem_singleton_self _, nofun, rfl⟩
    · exact .inr ⟨_, mem_singleton_self _, nofun, rfl⟩

theorem diffChannel_targets_sublist (clean : (diffChannel resolver roles channel).conflicts = []) :
    ((diffChannel resolver roles channel).changes.map DiffChange.target).Sublist (channelTargets channel) := by
  refine diffResource_targets_sublist clean (fun current => ?_) ?_
  · exact concat_targets_sublist_map fun overwrite _ =>
      diffOverwrite_targets_sublist resolver roles channel current overwrite
  · exact concat_targets_sublist_map fun overwrite _ => List.Sublist.refl _

theorem channelTargets_nodup (wellFormed : WellFormed normalized) :
    (normalized.channels.flatMap channelTargets).Nodup := by
  refine nodup_flatMap.mpr ⟨fun channel mem => ?_, ?_⟩
  · refine nodup_cons.mpr ⟨by simp, ?_⟩
    have targets := (wellFormed.targets channel mem).map (f := DiffTarget.overwrite channel.identity.key)
      fun _ _ same => (DiffTarget.overwrite.inj same).2
    rwa [map_map] at targets
  · refine (pairwise_map.mp wellFormed.channelKeys).imp fun differ => ?_
    intro target first second
    simp only [channelTargets, mem_cons, mem_map] at first second
    obtain rfl | ⟨_, _, rfl⟩ := first
    · simp [differ] at second
    · simp [differ.symm] at second

theorem diff_targets_nodup (wellFormed : WellFormed normalized) (clean : (diff normalized resolver).conflicts = []) :
    ((diff normalized resolver).changes.map DiffChange.target).Nodup := by
  obtain ⟨roles, channels⟩ := diff_conflicts_eq_nil.mp clean
  have rolePart : ((concat normalized.roles (diffRole resolver)).changes.map DiffChange.target).Sublist
      (normalized.roles.map fun role => .role role.identity.key) :=
    concat_targets_sublist_map fun role mem =>
      diffResource_targets_sublist (roles role mem) (fun _ => nil_sublist []) (nil_sublist [])
  have channelPart := concat_targets_sublist fun channel mem =>
    diffChannel_targets_sublist (channels channel mem)
  have roleTargets := wellFormed.roleKeys.map (f := DiffTarget.role) fun _ _ same => DiffTarget.role.inj same
  rw [map_map] at roleTargets
  rw [diff, append_changes, append_changes, diff_panels_changes, append_nil, map_append]
  refine (rolePart.append channelPart).nodup (nodup_append.mpr ⟨roleTargets, channelTargets_nodup wellFormed, ?_⟩)
  intro first ofRole second ofChannel same
  obtain ⟨role, -, rfl⟩ := mem_map.mp ofRole
  obtain ⟨channel, -, inTargets⟩ := mem_flatMap.mp ofChannel
  simp [channelTargets, ← same] at inTargets

theorem overwrite_target_of_mem {current : Channel} {detail : DiffChange}
    (mem : detail ∈ (diffOverwrites resolver roles channel current).changes) :
    ∃ overwrite ∈ channel.overwrites, detail.target = .overwrite channel.identity.key overwrite.target := by
  obtain ⟨overwrite, inOverwrites, own⟩ := (mem_concat_changes detail).mp mem
  have sublist := diffOverwrite_targets_sublist resolver roles channel current overwrite
  exact ⟨overwrite, inOverwrites, mem_singleton.mp (sublist.subset (mem_map_of_mem own))⟩

section
variable (clean : (diff normalized resolver).conflicts = [])
include clean

variable {role : NormalizedRole}

theorem role_decided (mem : role ∈ normalized.roles) :
    Decided (.role role.identity.key) role.identity (resolver.resolveRole role.identity role.name) (roleChanged role)
      (fun _ => .empty) .empty (diffRole resolver role) :=
  diffResource_decided ((diff_conflicts_eq_nil.mp clean).1 role mem)

variable {channel : NormalizedChannel}

theorem channel_decided (mem : channel ∈ normalized.channels) : Decided (.channel channel.identity.key) channel.identity
      (resolver.resolveChannel channel.identity channel.name) (channelMetaChanged channel)
      (diffOverwrites resolver normalized.roles channel)
      (.concat channel.overwrites fun overwrite => .change .create (.overwrite channel.identity.key overwrite.target) [])
      (diffChannel resolver normalized.roles channel) :=
  diffResource_decided ((diff_conflicts_eq_nil.mp clean).2 channel mem)

variable {change : DiffChange}

theorem diffRole_target (mem : role ∈ normalized.roles) (changes : change ∈ (diffRole resolver role).changes) :
    change.target = .role role.identity.key := by
  have sublist := diffResource_targets_sublist ((diff_conflicts_eq_nil.mp clean).1 role mem)
    (fun _ => nil_sublist []) (nil_sublist [])
  exact mem_singleton.mp (sublist.subset (mem_map_of_mem changes))

theorem diffChannel_target (mem : channel ∈ normalized.channels)
    (changes : change ∈ (diffChannel resolver normalized.roles channel).changes) :
    change.target = .channel channel.identity.key ∨
      ∃ overwrite ∈ channel.overwrites, change.target = .overwrite channel.identity.key overwrite.target := by
  have sublist := diffChannel_targets_sublist ((diff_conflicts_eq_nil.mp clean).2 channel mem)
  obtain own | detail := mem_cons.mp (sublist.subset (mem_map_of_mem changes))
  · exact .inl own
  · obtain ⟨overwrite, inOverwrites, same⟩ := mem_map.mp detail
    exact .inr ⟨overwrite, inOverwrites, same.symm⟩

variable {key : ResourceKey}

theorem role_change_due (changes : change ∈ (diff normalized resolver).changes) (about : change.target = .role key) :
    ∃ role ∈ normalized.roles, role.identity.key = key ∧
      Due role.identity (resolver.resolveRole role.identity role.name) (roleChanged role) change.op := by
  obtain ⟨role, mem, own⟩ | ⟨channel, mem, own⟩ := (mem_diff_changes change).mp changes
  · have target := diffRole_target clean mem own
    refine ⟨role, mem, DiffTarget.role.inj (target.symm.trans about), ?_⟩
    exact (role_decided clean mem).due own target (fun _ _ detail => (not_mem_nil detail).elim)
      fun _ detail => (not_mem_nil detail).elim
  · obtain target | ⟨_, _, target⟩ := diffChannel_target clean mem own
    · cases target.symm.trans about
    · cases target.symm.trans about

theorem channel_change_due (changes : change ∈ (diff normalized resolver).changes)
    (about : change.target = .channel key) : ∃ channel ∈ normalized.channels, channel.identity.key = key ∧
      Due channel.identity (resolver.resolveChannel channel.identity channel.name) (channelMetaChanged channel)
        change.op := by
  obtain ⟨role, mem, own⟩ | ⟨channel, mem, own⟩ := (mem_diff_changes change).mp changes
  · cases (diffRole_target clean mem own).symm.trans about
  · obtain target | ⟨_, _, target⟩ := diffChannel_target clean mem own
    · refine ⟨channel, mem, DiffTarget.channel.inj (target.symm.trans about), ?_⟩
      refine (channel_decided clean mem).due own target (fun current detail inDetails => ?_) fun detail inDetails => ?_
      · obtain ⟨_, _, other⟩ := overwrite_target_of_mem inDetails
        rw [other]
        exact nofun
      · obtain ⟨_, _, created⟩ := (mem_concat_changes detail).mp inDetails
        rw [mem_singleton.mp created]
        exact nofun
    · cases target.symm.trans about

/-- Overwrites are changed only in a channel that is to be there and is owned. -/
theorem overwrite_change_channel (changes : change ∈ (diff normalized resolver).changes) {target : NormalizedTarget}
    (about : change.target = .overwrite key target) :
    ∃ channel ∈ normalized.channels, channel.identity.key = key ∧ channel.identity.state = .present ∧
      channel.identity.ownership ≠ .referenced := by
  obtain ⟨role, mem, own⟩ | ⟨channel, mem, own⟩ := (mem_diff_changes change).mp changes
  · cases (diffRole_target clean mem own).symm.trans about
  · obtain other | ⟨overwrite, _, same⟩ := diffChannel_target clean mem own
    · cases other.symm.trans about
    · refine ⟨channel, mem, (DiffTarget.overwrite.inj (same.symm.trans about)).1, ?_⟩
      have decided := channel_decided clean mem
      generalize diffChannel resolver normalized.roles channel = result at decided own
      cases decided with
      | referred current present found referenced | deleted current absent found | gone absent missing =>
        cases mem_singleton.mp own ▸ about
      | kept current present found owned | created present missing owned byName => exact ⟨present, owned⟩

theorem role_due_change (mem : role ∈ normalized.roles) {op : ChangeOp}
    (due : Due role.identity (resolver.resolveRole role.identity role.name) (roleChanged role) op) (acts : op ≠ .noOp) :
    ∃ change ∈ (diff normalized resolver).changes, change.op = op ∧ change.target = .role role.identity.key := by
  obtain ⟨change, own, sameOp, target⟩ := (role_decided clean mem).has due acts
  exact ⟨change, (mem_diff_changes change).mpr (.inl ⟨role, mem, own⟩), sameOp, target⟩

theorem channel_due_change (mem : channel ∈ normalized.channels) {op : ChangeOp}
    (due : Due channel.identity (resolver.resolveChannel channel.identity channel.name) (channelMetaChanged channel) op)
    (acts : op ≠ .noOp) : ∃ change ∈ (diff normalized resolver).changes,
      change.op = op ∧ change.target = .channel channel.identity.key := by
  obtain ⟨change, own, sameOp, target⟩ := (channel_decided clean mem).has due acts
  exact ⟨change, (mem_diff_changes change).mpr (.inr ⟨channel, mem, own⟩), sameOp, target⟩

theorem overwrite_created (mem : channel ∈ normalized.channels) (present : channel.identity.state = .present)
    (missing : resolver.resolveChannel channel.identity channel.name = .missing) {overwrite : NormalizedOverwrite}
    (inOverwrites : overwrite ∈ channel.overwrites) : ∃ change ∈ (diff normalized resolver).changes,
      change.op = .create ∧ change.target = .overwrite channel.identity.key overwrite.target := by
  refine ⟨⟨.create, .overwrite channel.identity.key overwrite.target, []⟩,
    (mem_diff_changes _).mpr (.inr ⟨channel, mem, ?_⟩), rfl, rfl⟩
  have decided := channel_decided clean mem
  generalize diffChannel resolver normalized.roles channel = result at decided
  cases decided with
  | referred current _ found _ | kept current _ found _ => cases missing.symm.trans found
  | created _ _ _ _ =>
    refine mem_append_right _ ((mem_concat_changes _).mpr ⟨overwrite, inOverwrites, ?_⟩)
    exact mem_singleton_self _
  | deleted current absent _ | gone absent _ => cases present.symm.trans absent

theorem overwrites_kept (mem : channel ∈ normalized.channels) (present : channel.identity.state = .present)
    (owned : channel.identity.ownership ≠ .referenced) {current : Channel}
    (found : resolver.resolveChannel channel.identity channel.name = .existing current)
    {overwrite : NormalizedOverwrite} (inOverwrites : overwrite ∈ channel.overwrites) :
    (diffOverwrite resolver normalized.roles channel current overwrite).conflicts = [] ∧
      ∀ change ∈ (diffOverwrite resolver normalized.roles channel current overwrite).changes,
        change ∈ (diff normalized resolver).changes := by
  have result : diffChannel resolver normalized.roles channel =
      (updateOrNoop (.channel channel.identity.key) (channelMetaChanged channel current)).append
        (diffOverwrites resolver normalized.roles channel current) := by
    simp only [diffChannel, diffResource, present, found, owned, if_false]
  refine ⟨?_, fun change own => (mem_diff_changes change).mpr (.inr ⟨channel, mem, ?_⟩)⟩
  · have conflicts := (diff_conflicts_eq_nil.mp clean).2 channel mem
    rw [result, append_conflicts, append_eq_nil_iff] at conflicts
    exact concat_conflicts_eq_nil.mp conflicts.2 overwrite inOverwrites
  · rw [result]
    exact mem_append_right _ ((mem_concat_changes change).mpr ⟨overwrite, inOverwrites, own⟩)

end

end

theorem roleByKey_eq_some {normalized : NormalizedDesiredState} (wellFormed : WellFormed normalized) (key : ResourceKey)
    (role : NormalizedRole) :
    roleByKey normalized.roles key = some role ↔ role ∈ normalized.roles ∧ role.identity.key = key := by
  have keys : (normalized.roles.reverse.map fun role => role.identity.key).Nodup := by
    rw [map_reverse]
    exact nodup_reverse.mpr wellFormed.roleKeys
  rw [← mem_reverse]
  exact Table.lookup_eq_some_iff keys key role

theorem resolveOverwriteTarget_role {resolver : ResourceResolver} {normalized : NormalizedDesiredState} {key : ResourceKey}
    (wellFormed : WellFormed normalized) {denoted : OverwriteTarget}
    (resolved : resolveOverwriteTarget resolver normalized.roles (.role key) = .ok (some denoted)) :
    ∃ role ∈ normalized.roles, role.identity.key = key ∧
      ∃ current, resolver.resolveRole role.identity role.name = .existing current ∧ denoted = .role current.id := by
  unfold resolveOverwriteTarget at resolved
  cases byKey : roleByKey normalized.roles key with
  | none => simp [byKey] at resolved
  | some role =>
    obtain ⟨mem, same⟩ := (roleByKey_eq_some wellFormed key role).mp byKey
    refine ⟨role, mem, same, ?_⟩
    cases found : resolver.resolveRole role.identity role.name with
    | existing current =>
      simp only [byKey, found, Except.ok.injEq, Option.some.injEq] at resolved
      exact ⟨current, rfl, resolved.symm⟩
    | missing | conflict reason => simp [byKey, found] at resolved

end Starring.Planning
