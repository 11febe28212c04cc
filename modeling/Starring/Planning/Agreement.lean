import Starring.Planning.Reconcile
import Starring.Planning.Decisions
import Starring.Planning.VirtualApply

/-! What a report of nothing to do says about the guild: every declared field is as
it should be, apart from the parents of channels, which no diff looks at. -/

namespace Starring.Planning
open Foundation

/-- Nothing but no-ops is reported for the target. -/
abbrev DiffResult.ReportsNoOp (result : DiffResult) (target : DiffTarget) : Prop :=
  ∀ change ∈ result.changes, change.target = target → change.op = .noOp

/-- The role has everything that is specified for it. -/
structure RoleAgrees (role : NormalizedRole) (current : Role) : Prop where
  name : ∀ name, role.name = some name → name = current.name
  permissions : ∀ permissions, role.permissions = some permissions → permissions = current.permissions

section
variable (guild : GuildState) (normalized : NormalizedDesiredState) (channel : NormalizedChannel) (current : Channel)

/-- The channel is under the one that the parent key resolves to. -/
def ParentAgrees : Prop :=
  ∀ key, channel.parent = some key → ∃ parent,
    (ResourceResolutionContext.new normalized (inMemoryMatchResolver guild) guild.guild.id).resolvedChannel key =
      some (.existing parent) ∧ current.parentId = some parent.id

/-- The channel has everything that is specified for it. -/
structure ChannelAgrees : Prop where
  name : ∀ name, channel.name = some name → name = current.name
  channelType : ∀ channelType, channel.channelType = some channelType → channelType = current.channelType
  parent : ParentAgrees guild normalized channel current
  overwrites : ∀ overwrite ∈ channel.overwrites, ∃ target held,
    resolveOverwriteTarget (inMemoryMatchResolver guild) normalized.roles overwrite.target = .ok (some target) ∧
      (current.overwrites.find? fun held => held.target = target) = some held ∧
      held.allow = overwrite.allow ∧ held.deny = overwrite.deny

end

theorem roleChanged_eq_nil (role : NormalizedRole) (current : Role) :
    roleChanged role current = [] ↔ RoleAgrees role current := by
  rw [roleChanged, List.append_eq_nil_iff, differs_eq_nil, differs_eq_nil]
  exact ⟨fun same => ⟨same.1, same.2⟩, fun agrees => ⟨agrees.name, agrees.permissions⟩⟩

theorem channelMetaChanged_eq_nil (channel : NormalizedChannel) (current : Channel) :
    channelMetaChanged channel current = [] ↔ (∀ name, channel.name = some name → name = current.name) ∧
      ∀ channelType, channel.channelType = some channelType → channelType = current.channelType := by
  rw [channelMetaChanged, List.append_eq_nil_iff, differs_eq_nil, differs_eq_nil]

/-- An entry that is to be there and is left alone has its resource, and nothing in it differs. -/
theorem Decided.found_of_idle {ρ : Type} {target : DiffTarget} {identity : Identity} {resolved : ResolveResult ρ}
    {changed : ρ → List ChangedField} {details : ρ → DiffResult} {createdDetails result : DiffResult}
    (decided : Decided target identity resolved changed details createdDetails result)
    (present : identity.state = .present) (owned : identity.ownership ≠ .referenced)
    (idle : result.ReportsNoOp target) : ∃ current, resolved = .existing current ∧ changed current = [] := by
  have refused (op : ChangeOp) (acts : op ≠ .noOp) : ¬Due identity resolved changed op := by
    intro due
    obtain ⟨change, own, sameOp, about⟩ := decided.has due acts
    exact acts (sameOp.symm.trans (idle change own about))
  cases found : resolved with
  | existing current =>
    refine ⟨current, rfl, ?_⟩
    by_contra differs
    exact refused .update nofun (.update current present owned found differs)
  | missing => exact (refused .create nofun (.create present found)).elim
  | conflict reason => exact (decided.ne_conflict reason found).elim

/-- Where nothing is in conflict, an entry for which nothing is to be done has all that is specified for
it; of a channel, all but the parent. -/
theorem noOp_sound_iff {normalized : NormalizedDesiredState} {guild : GuildState}
    (clean : (diff normalized (inMemoryMatchResolver guild)).conflicts = []) :
    (∀ role ∈ normalized.roles, role.identity.state = .present → role.identity.ownership ≠ .referenced →
      (diff normalized (inMemoryMatchResolver guild)).ReportsNoOp (.role role.identity.key) →
      ∃ current, (inMemoryMatchResolver guild).resolveRole role.identity role.name = .existing current ∧
        RoleAgrees role current) ∧
    ∀ channel ∈ normalized.channels, channel.identity.state = .present → channel.identity.ownership ≠ .referenced →
      (diff normalized (inMemoryMatchResolver guild)).ReportsNoOp (.channel channel.identity.key) →
      (∀ overwrite ∈ channel.overwrites, (diff normalized (inMemoryMatchResolver guild)).ReportsNoOp
        (.overwrite channel.identity.key overwrite.target)) →
      ∃ current, (inMemoryMatchResolver guild).resolveChannel channel.identity channel.name = .existing current ∧
        (ChannelAgrees guild normalized channel current ↔ ParentAgrees guild normalized channel current) := by
  constructor
  · intro role mem present owned idle
    obtain ⟨current, found, unchanged⟩ := (role_decided clean mem).found_of_idle present owned fun change own =>
      idle change ((mem_diff_changes change).mpr (.inl ⟨role, mem, own⟩))
    exact ⟨current, found, (roleChanged_eq_nil role current).mp unchanged⟩
  · intro channel mem present owned idle idleOverwrites
    obtain ⟨current, found, unchanged⟩ := (channel_decided clean mem).found_of_idle present owned fun change own =>
      idle change ((mem_diff_changes change).mpr (.inr ⟨channel, mem, own⟩))
    obtain ⟨name, channelType⟩ := (channelMetaChanged_eq_nil channel current).mp unchanged
    refine ⟨current, found, ChannelAgrees.parent, fun parent => ⟨name, channelType, parent, ?_⟩⟩
    intro overwrite inOverwrites
    obtain ⟨cleanOverwrite, reported⟩ := overwrites_kept clean mem present owned found inOverwrites
    obtain held | ⟨change, own, acts, about⟩ := diffOverwrite_cases cleanOverwrite
    · exact held
    · exact (acts (idleOverwrites overwrite inOverwrites change (reported change own) about)).elim

namespace Nested

def identity (key : String) : Identity :=
  { key := ⟨key⟩, matchBy := .byName, ownership := .managed, state := .present }

def area : NormalizedChannel :=
  { identity := identity "area", name := some "area", channelType := none, parent := none, overwrites := [] }

def hall : NormalizedChannel :=
  { identity := identity "hall", name := some "hall", channelType := none, parent := some ⟨"area"⟩
    overwrites := [{ target := .everyone, allow := .viewChannel, deny := .empty }] }

def normalized : NormalizedDesiredState :=
  { mode := .patch, scope := none, roles := [], channels := [area, hall], verificationPanels := [] }

def areaRow : Channel :=
  { id := ⟨7⟩, name := "area", channelType := .category, parentId := none, position := 0, overwrites := [] }

def hallRow (parentId : Option ChannelId) : Channel :=
  { id := ⟨8⟩, name := "hall", channelType := .text, parentId, position := 1
    overwrites := [{ target := .role ⟨1⟩, allow := .viewChannel, deny := .empty }] }

def guild (parentId : Option ChannelId) : GuildState :=
  { guild := { id := ⟨1⟩, name := "guild", ownerId := ⟨2⟩ }, roles := [], channels := [areaRow, hallRow parentId]
    members := [] }

end Nested

/-- Under the right parent everything agrees. -/
theorem nested_agrees :
    ∃ current, (inMemoryMatchResolver (Nested.guild (some ⟨7⟩))).resolveChannel Nested.hall.identity Nested.hall.name =
        .existing current ∧
      ChannelAgrees (Nested.guild (some ⟨7⟩)) Nested.normalized Nested.hall current := by
  have clean : (diff Nested.normalized (inMemoryMatchResolver (Nested.guild (some ⟨7⟩)))).conflicts = [] := by
    decide +kernel
  obtain ⟨current, found, agrees⟩ := (noOp_sound_iff clean).2 Nested.hall (by decide) rfl nofun (by decide +kernel)
    (by decide +kernel)
  have row : Nested.hallRow (some ⟨7⟩) = current := by
    have here : (inMemoryMatchResolver (Nested.guild (some ⟨7⟩))).resolveChannel Nested.hall.identity
        Nested.hall.name = .existing (Nested.hallRow (some ⟨7⟩)) := by decide +kernel
    exact ResolveResult.existing.inj (here.symm.trans found)
  refine ⟨current, found, agrees.mpr fun key parent => ⟨Nested.areaRow, ?_, row ▸ rfl⟩⟩
  obtain rfl := Option.some.inj parent
  decide +kernel

/-- A channel that hangs under no other is reported to need nothing, although a parent is declared for it. -/
theorem missing_parent_unreported :
    ∃ normalized guild, (diff normalized (inMemoryMatchResolver guild)).conflicts = [] ∧
      ∃ channel ∈ normalized.channels, channel.identity.state = .present ∧ channel.identity.ownership ≠ .referenced ∧
        (diff normalized (inMemoryMatchResolver guild)).ReportsNoOp (.channel channel.identity.key) ∧
        (∀ overwrite ∈ channel.overwrites, (diff normalized (inMemoryMatchResolver guild)).ReportsNoOp
          (.overwrite channel.identity.key overwrite.target)) ∧
        ∀ current, (inMemoryMatchResolver guild).resolveChannel channel.identity channel.name = .existing current →
          ¬ChannelAgrees guild normalized channel current := by
  refine ⟨Nested.normalized, Nested.guild none, by decide +kernel, Nested.hall, by decide, rfl, nofun, by decide +kernel,
    by decide +kernel, ?_⟩
  intro current found agrees
  obtain ⟨parent, -, under⟩ := agrees.parent ⟨"area"⟩ rfl
  have here : (inMemoryMatchResolver (Nested.guild none)).resolveChannel Nested.hall.identity Nested.hall.name =
      .existing (Nested.hallRow none) := by decide +kernel
  rw [← ResolveResult.existing.inj (here.symm.trans found)] at under
  cases under

end Starring.Planning
