import Starring.Planning.Normalize

/-! What a desired state has that passes its checks and compiles: distinct keys,
a name wherever one is matched by, and nothing to change in what is only referenced. -/

namespace Starring.Planning
open Foundation List

/-- The checks of one identity and the name next to it. -/
structure Proper (identity : Identity) (name : Option String) : Prop where
  named : identity.matchBy = .byName → name ≠ none
  foreign : identity.ownership = .referenced → name = none ∧ identity.state = .present

structure WellFormed (normalized : NormalizedDesiredState) : Prop where
  roleKeys : (normalized.roles.map fun role => role.identity.key).Nodup
  channelKeys : (normalized.channels.map fun channel => channel.identity.key).Nodup
  roles : ∀ role ∈ normalized.roles, Proper role.identity role.name
  channels : ∀ channel ∈ normalized.channels, Proper channel.identity channel.name
  targets : ∀ channel ∈ normalized.channels, (channel.overwrites.map NormalizedOverwrite.target).Nodup

namespace DesiredState

theorem repeatedKeys_eq_nil (seen keys : List ResourceKey) :
    repeatedKeys seen keys = [] ↔ keys.Nodup ∧ ∀ key ∈ keys, key ∉ seen := by
  induction keys generalizing seen with
  | nil => simp [repeatedKeys]
  | cons key keys ih =>
    by_cases old : key ∈ seen
    · simp [repeatedKeys, old]
    · rw [repeatedKeys, if_neg old, ih]
      simp only [nodup_cons, mem_cons]
      grind

variable {desired : DesiredState}

theorem validate_eq_ok : desired.validate = .ok () ↔
    desired.checkKeyUniqueness = [] ∧ desired.checkReferenceIntegrity = [] ∧ desired.checkModeScope = [] ∧
      desired.checkOwnershipState = [] ∧ desired.checkMatchName = [] := by
  unfold validate
  simp only [append_eq_nil_iff]
  split <;> simp_all

theorem checkOneOwnershipState_eq_nil (identity : Identity) (mutated : Bool) :
    checkOneOwnershipState identity mutated = [] ↔
      (identity.ownership = .referenced → mutated = false ∧ identity.state = .present) := by
  unfold checkOneOwnershipState
  cases identity.ownership <;> cases identity.state <;> cases mutated <;> simp

theorem checkOneMatchName_eq_nil (identity : Identity) (name : Option String) :
    checkOneMatchName identity name = [] ↔ (identity.matchBy = .byName → name ≠ none) := by
  unfold checkOneMatchName
  cases name <;> simp

variable (valid : desired.validate = .ok ())
include valid

theorem declaredKeys_nodup : desired.declaredKeys.Nodup := by
  have unique := (validate_eq_ok.mp valid).1
  rw [checkKeyUniqueness, map_eq_nil_iff, repeatedKeys_eq_nil] at unique
  exact unique.1

theorem role_proper (role : RoleIntent) (mem : role ∈ desired.roles) : Proper role.identity role.name := by
  obtain ⟨-, -, -, ownership, names⟩ := validate_eq_ok.mp valid
  rw [checkOwnershipState, append_eq_nil_iff, flatMap_eq_nil_iff] at ownership
  rw [checkMatchName, append_eq_nil_iff, flatMap_eq_nil_iff] at names
  refine ⟨(checkOneMatchName_eq_nil _ _).mp (names.1 role mem), fun referenced => ?_⟩
  obtain ⟨untouched, present⟩ := (checkOneOwnershipState_eq_nil _ _).mp (ownership.1 role mem) referenced
  rw [Bool.or_eq_false_iff, Option.isSome_eq_false_iff, Option.isNone_iff_eq_none] at untouched
  exact ⟨untouched.1, present⟩

theorem channel_proper (channel : ChannelIntent) (mem : channel ∈ desired.channels) :
    Proper channel.identity channel.name := by
  obtain ⟨-, -, -, ownership, names⟩ := validate_eq_ok.mp valid
  rw [checkOwnershipState, append_eq_nil_iff, flatMap_eq_nil_iff, flatMap_eq_nil_iff] at ownership
  rw [checkMatchName, append_eq_nil_iff, flatMap_eq_nil_iff, flatMap_eq_nil_iff] at names
  refine ⟨(checkOneMatchName_eq_nil _ _).mp (names.2 channel mem), fun referenced => ?_⟩
  obtain ⟨untouched, present⟩ := (checkOneOwnershipState_eq_nil _ _).mp (ownership.2 channel mem) referenced
  simp only [Bool.or_eq_false_iff, Option.isSome_eq_false_iff, Option.isNone_iff_eq_none] at untouched
  exact ⟨untouched.1.1.1.1, present⟩

end DesiredState

/-- A compiled channel has the identity and name of the one it comes from, and one overwrite per target. -/
theorem normalizeChannel_ok {channel : ChannelIntent} {normalized : NormalizedChannel}
    (compiled : normalizeChannel channel = .ok normalized) :
    normalized.identity = channel.identity ∧ normalized.name = channel.name ∧
      (normalized.overwrites.map NormalizedOverwrite.target).Nodup := by
  unfold normalizeChannel at compiled
  simp only at compiled
  split at compiled
  · cases compiled
  · obtain rfl := Except.ok.inj compiled
    refine ⟨rfl, rfl, ?_⟩
    have keys : ((overwriteMap channel).toList.map Prod.fst).Nodup := by
      rw [Std.ExtTreeMap.map_fst_toList_eq_keys]
      exact Std.ExtTreeMap.nodup_keys
    rw [map_map]
    exact (filter_sublist.map Prod.fst).nodup keys

theorem normalizeChannels_ok {channels : List ChannelIntent} {normalized : List NormalizedChannel}
    (compiled : normalizeChannels channels = .ok normalized) :
    (∀ result ∈ normalized, ∃ channel ∈ channels, normalizeChannel channel = .ok result) ∧
      normalized.map (fun result => result.identity.key) = channels.map fun channel => channel.identity.key := by
  induction channels generalizing normalized with
  | nil =>
    obtain rfl := Except.ok.inj compiled
    exact ⟨fun _ mem => (not_mem_nil mem).elim, rfl⟩
  | cons channel channels ih =>
    rw [normalizeChannels] at compiled
    cases first : normalizeChannel channel with
    | error errors => cases rest : normalizeChannels channels <;> simp [first, rest] at compiled
    | ok result =>
      cases rest : normalizeChannels channels with
      | error errors => simp [first, rest] at compiled
      | ok results =>
        simp only [first, rest, Except.ok.injEq] at compiled
        obtain rfl := compiled
        obtain ⟨sources, keys⟩ := ih rest
        refine ⟨fun other mem => ?_, ?_⟩
        · obtain rfl | later := mem_cons.mp mem
          · exact ⟨channel, mem_cons_self, first⟩
          · obtain ⟨source, inChannels, made⟩ := sources other later
            exact ⟨source, mem_cons_of_mem _ inChannels, made⟩
        · rw [map_cons, map_cons, keys, (normalizeChannel_ok first).1]

theorem wellFormed {desired : DesiredState} {normalized : NormalizedDesiredState} (valid : desired.validate = .ok ())
    (compiled : compile desired = .ok normalized) : WellFormed normalized := by
  rw [compile, bind_eq_ok] at compiled
  obtain ⟨channels, compiledChannels, made⟩ := compiled
  obtain rfl := Except.ok.inj made
  obtain ⟨source, sameKeys⟩ := normalizeChannels_ok compiledChannels
  have keys := DesiredState.declaredKeys_nodup valid
  rw [DesiredState.declaredKeys, nodup_append, nodup_append] at keys
  refine ⟨?_, ?_, ?_, ?_, ?_⟩
  · simpa [Function.comp_def, normalizeRole] using keys.1.1
  · simpa [sameKeys] using keys.1.2.1
  · intro role mem
    obtain ⟨intent, inDesired, rfl⟩ := mem_map.mp mem
    exact DesiredState.role_proper valid intent inDesired
  · intro channel mem
    obtain ⟨intent, inDesired, result⟩ := source channel mem
    obtain ⟨identity, name, -⟩ := normalizeChannel_ok result
    rw [identity, name]
    exact DesiredState.channel_proper valid intent inDesired
  · intro channel mem
    obtain ⟨intent, -, result⟩ := source channel mem
    exact (normalizeChannel_ok result).2.2

end Starring.Planning
