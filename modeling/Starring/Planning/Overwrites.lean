import Starring.Foundation.Maps
import Starring.Planning.Normalize

/-! The overwrites of a compiled channel, target by target. Grants and raw operations are merged
into one map, yet what ends up at a target depends on that target's own grant and operations only. -/

namespace Starring.Planning
open Foundation List

def AccessIntent.grantFor (self : AccessIntent) : NormalizedTarget → Option AccessGrant
  | .everyone => self.everyone
  | .role key => self.roles[key]?
  | .member _ => none

namespace ChannelIntent
variable (self : ChannelIntent) (target : NormalizedTarget)

def grantFor : Option AccessGrant := self.access.bind fun access => access.grantFor target

/-- The raw operations on one target, in their order. -/
def rawsFor : List PermissionOverwriteIntent :=
  (self.rawOverwrites.getD []).filter fun raw => rawTarget raw.target = target

def Mentions : Prop := (self.grantFor target).isSome = true ∨ self.rawsFor target ≠ []

/-- The grant for a target, followed by the raw operations on it. -/
def compiledEntry : Entry :=
  (self.rawsFor target).foldl (fun entry raw => applyRaw raw entry)
    ((self.grantFor target).elim (.empty, .empty) fun grant => applyGrant grant (.empty, .empty))

end ChannelIntent

namespace OverwriteMap

theorem getElem?_update (map : OverwriteMap) (target place : NormalizedTarget) (change : Entry → Entry) :
    (map.update target change)[place]? =
      if target = place then some (change (map[place]?.getD (.empty, .empty))) else map[place]? := by
  rw [update, Std.ExtTreeMap.getElem?_insert, Std.ExtTreeMap.getD_eq_getD_getElem?]
  by_cases same : target = place
  · subst same
    simp
  · rw [if_neg fun equal => same (Std.LawfulEqCmp.eq_of_compare equal), if_neg same]

/-- A change of an entry that may not be there yet. -/
def changed (change : Entry → Entry) (entry : Option Entry) : Option Entry :=
  some (change (entry.getD (.empty, .empty)))

/-- A run of updates does at one place what the updates of that place do, in their order. -/
theorem getElem?_foldl_update {ι : Type} (target : ι → NormalizedTarget) (change : ι → Entry → Entry) (items : List ι)
    (map : OverwriteMap) (place : NormalizedTarget) :
    (items.foldl (fun map item => map.update (target item) (change item)) map)[place]? =
      (items.filter fun item => target item = place).foldl (fun entry item => changed (change item) entry) map[place]? := by
  induction items generalizing map with
  | nil => rfl
  | cons item items ih =>
    rw [foldl_cons, ih, getElem?_update, filter_cons]
    by_cases here : target item = place
    · rw [if_pos here, if_pos (decide_eq_true here), foldl_cons]
      rfl
    · rw [if_neg here, if_neg fun same => here (of_decide_eq_true same)]

/-- Changes of an entry leave nothing only where nothing was and nothing is changed. -/
theorem foldl_changed {ι : Type} (change : ι → Entry → Entry) (items : List ι) (start : Option Entry) (entry : Entry) :
    items.foldl (fun entry item => changed (change item) entry) start = some entry ↔
      (start.isSome = true ∨ items ≠ []) ∧
        entry = items.foldl (fun entry item => change item entry) (start.getD (.empty, .empty)) := by
  induction items generalizing start with
  | nil => cases start <;> simp [eq_comm]
  | cons item items ih =>
    rw [foldl_cons, ih]
    simp [changed]

end OverwriteMap

open OverwriteMap

theorem getElem?_grantAccess (access : AccessIntent) (place : NormalizedTarget) :
    (grantAccess access ∅)[place]? = (access.grantFor place).map fun grant => applyGrant grant (.empty, .empty) := by
  have everyone : (access.everyone.elim (∅ : OverwriteMap) fun grant => update ∅ .everyone (applyGrant grant))[place]? =
      if .everyone = place then access.everyone.map fun grant => applyGrant grant (.empty, .empty) else none := by
    cases access.everyone with
    | none => simp
    | some grant => simp [getElem?_update]
  refine (getElem?_foldl_update (fun item : ResourceKey × AccessGrant => .role item.1) (fun item => applyGrant item.2)
    _ _ place).trans ?_
  rw [everyone]
  cases place with
  | everyone => simp [AccessIntent.grantFor]
  | member id => simp [AccessIntent.grantFor]
  | role key =>
    simp only [NormalizedTarget.role.injEq, filter_toList_key, AccessIntent.grantFor]
    cases access.roles[key]? <;> simp [changed]

theorem getElem?_overwriteMap (channel : ChannelIntent) (place : NormalizedTarget) (entry : Entry) :
    (overwriteMap channel)[place]? = some entry ↔
      channel.Mentions place ∧ entry = channel.compiledEntry place := by
  have granted : (channel.access.elim (∅ : OverwriteMap) fun access => grantAccess access ∅)[place]? =
      (channel.grantFor place).map fun grant => applyGrant grant (.empty, .empty) := by
    cases access : channel.access with
    | none => simp [ChannelIntent.grantFor, access]
    | some access' => simp [ChannelIntent.grantFor, access, getElem?_grantAccess]
  rw [overwriteMap, getElem?_foldl_update (fun raw => rawTarget raw.target) applyRaw, foldl_changed, granted,
    Option.isSome_map, ChannelIntent.compiledEntry]
  cases grant : channel.grantFor place <;> simp [ChannelIntent.Mentions, ChannelIntent.rawsFor, grant]

theorem overwriteMap_congr {channel other : ChannelIntent} (access : channel.access = other.access)
    (raws : ∀ target, channel.rawsFor target = other.rawsFor target) : overwriteMap channel = overwriteMap other := by
  refine Std.ExtTreeMap.ext_getElem? fun place => Option.ext fun entry => ?_
  have grants : channel.grantFor place = other.grantFor place := by
    rw [ChannelIntent.grantFor, ChannelIntent.grantFor, access]
  rw [getElem?_overwriteMap, getElem?_overwriteMap, ChannelIntent.Mentions, ChannelIntent.Mentions,
    ChannelIntent.compiledEntry, ChannelIntent.compiledEntry, raws, grants]

theorem normalizeChannel_overwrites {channel : ChannelIntent} {normalized : NormalizedChannel}
    (ok : normalizeChannel channel = .ok normalized) :
    (∀ item ∈ (overwriteMap channel).toList, overlaps item.2 = false) ∧
      normalized.overwrites = (overwriteMap channel).toList.map fun item => ⟨item.1, item.2.1, item.2.2⟩ := by
  simp only [normalizeChannel, ne_eq, ite_not] at ok
  split at ok
  · rename_i clean
    cases ok
    have apart : ∀ item ∈ (overwriteMap channel).toList, overlaps item.2 = false := by
      simpa using filter_eq_nil_iff.mp (map_eq_nil_iff.mp clean)
    refine ⟨apart, ?_⟩
    dsimp only
    rw [filter_eq_self.mpr fun item mem => by simp [apart item mem]]
  · cases ok

/-- The overwrites of a channel that is accepted are in the order of their targets, allow nothing that they deny, and
hold at each target that is mentioned what its grant and its raw operations come to. Moving a raw operation past the
operations on other targets changes nothing. -/
theorem overwrites_per_target :
    (∀ channel normalized, normalizeChannel channel = .ok normalized →
      normalized.overwrites.Pairwise (fun first second => compare first.target second.target = .lt) ∧
        (∀ overwrite ∈ normalized.overwrites, overwrite.allow.bits &&& overwrite.deny.bits = 0) ∧
        ∀ target allow deny, (⟨target, allow, deny⟩ : NormalizedOverwrite) ∈ normalized.overwrites ↔
          channel.Mentions target ∧ (allow, deny) = channel.compiledEntry target) ∧
    ∀ (channel : ChannelIntent) (raws reordered : List PermissionOverwriteIntent),
      (∀ target, (reordered.filter fun raw => rawTarget raw.target = target) =
        raws.filter fun raw => rawTarget raw.target = target) →
      normalizeChannel { channel with rawOverwrites := some reordered } =
        normalizeChannel { channel with rawOverwrites := some raws } := by
  refine ⟨fun channel normalized ok => ?_, fun channel raws reordered same => ?_⟩
  · obtain ⟨apart, overwrites⟩ := normalizeChannel_overwrites ok
    rw [overwrites]
    refine ⟨pairwise_map.mpr Std.ExtTreeMap.ordered_keys_toList, fun overwrite mem => ?_, fun target allow deny => ?_⟩
    · obtain ⟨item, held, rfl⟩ := mem_map.mp mem
      simpa [overlaps] using apart item held
    · rw [← getElem?_overwriteMap, ← Std.ExtTreeMap.mem_toList_iff_getElem?_eq_some, mem_map]
      constructor
      · rintro ⟨⟨_, _, _⟩, held, same⟩
        cases same
        exact held
      · intro held
        exact ⟨_, held, rfl⟩
  · have built : overwriteMap { channel with rawOverwrites := some reordered } =
        overwriteMap { channel with rawOverwrites := some raws } := overwriteMap_congr rfl same
    rw [normalizeChannel, normalizeChannel, built]

end Starring.Planning
