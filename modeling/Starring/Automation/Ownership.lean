import Starring.Automation.Effects
import Starring.Automation.References

/-! Instances and what they own. The manifest of an instance names, once each, the keys of
everything its rule creates, and the executor has an id for each of these keys by the
time the instance is registered. -/

namespace Starring.Automation
open Foundation List ExecutionState
open Planning (ResourceBindingMap)

def keysOf (kind : CreatedKind) (made : List (String × CreatedKind)) : List String :=
  (made.filter fun entry => entry.2 = kind).map Prod.fst

def InstanceResourceRefs.refs (self : InstanceResourceRefs) : CreatedKind → StringMap CreatedRef
  | .role => self.roles
  | .channel => self.channels
  | .message => self.messages
  | .ofInstance => ∅

section Footprint

theorem countKeys_append (keys : List String) (key : String) :
    countKeys (keys ++ [key]) = (countKeys keys).insert key ((countKeys keys).getD key 0 + 1) := by
  rw [countKeys, foldl_append]
  rfl

theorem getElem?_countKeys (keys : List String) (key : String) :
    (countKeys keys)[key]? = if key ∈ keys then some (keys.count key) else none := by
  induction keys using List.reverseRecOn with
  | nil => simp [countKeys]
  | append_singleton keys last ih =>
    rw [countKeys_append]
    by_cases same : last = key
    · subst same
      rw [Std.ExtTreeMap.getElem?_insert_self, Std.ExtTreeMap.getD_eq_getD_getElem?, ih]
      by_cases mem : last ∈ keys
      · simp [mem]
      · simp [mem, count_eq_zero_of_not_mem mem]
    · rw [getElem?_insert_of_ne same, ih]
      simp [Ne.symm same, count_append, count_cons_of_ne same]

theorem ownable_append (actions : List ActionSpec) (action : ActionSpec) :
    ownable (actions ++ [action]) =
      (action.produced.map fun made => (ownable actions).insert made.1 made.2).getD (ownable actions) := by
  rw [ownable, foldl_append]
  rfl

variable {actions : List ActionSpec}

theorem mem_ownable {made : String × CreatedKind} (mem : made ∈ actions.filterMap ActionSpec.produced) :
    made.1 ∈ ownable actions := by
  induction actions using List.reverseRecOn with
  | nil => simp at mem
  | append_singleton actions action ih =>
    rw [filterMap_append, mem_append] at mem
    rw [ownable_append]
    obtain mem | mem := mem
    · cases produced : action.produced with
      | none => exact ih mem
      | some other => exact Std.ExtTreeMap.mem_insert.mpr (.inr (ih mem))
    · obtain ⟨_, here, produced⟩ := mem_filterMap.mp mem
      obtain rfl := mem_singleton.mp here
      rw [produced]
      exact Std.ExtTreeMap.mem_insert_self

theorem footprint_clean {rule : InteractionRule} (clean : checkInstanceFootprint rule = [])
    (registers : rule.actions.any ActionSpec.isRegister = true) :
    (rule.actions.filter ActionSpec.isRegister).length = 1 ∧
      producedAfter (rule.actions.findIdx ActionSpec.isRegister) rule.actions = [] ∧
      (∀ made ∈ rule.actions.filterMap ActionSpec.produced, made.1 ∈ manifestKeys rule.actions) ∧
      (manifestKeys rule.actions).Nodup := by
  have some_ : (rule.actions.filter ActionSpec.isRegister).length ≠ 0 := by
    simpa [length_eq_zero_iff, filter_eq_nil_iff] using registers
  rw [checkInstanceFootprint, if_neg some_] at clean
  simp only [append_eq_nil_iff, reportIf_eq_nil, flatMap_eq_nil_iff, not_not] at clean
  obtain ⟨⟨⟨single, after⟩, owned⟩, counted⟩ := clean
  refine ⟨by omega, after, fun made mem => ?_, ?_⟩
  · obtain ⟨kind, found⟩ := exists_of_mem (mem_ownable mem)
    obtain ⟨count, found⟩ := exists_of_mem (owned _ (Std.ExtTreeMap.mem_toList_iff_getElem?_eq_some.mpr found))
    rw [getElem?_countKeys] at found
    by_contra absent
    simp [absent] at found
  · refine nodup_iff_count_le_one.mpr fun key => ?_
    by_cases mem : key ∈ manifestKeys rule.actions
    · have entry := counted (key, (manifestKeys rule.actions).count key)
        (Std.ExtTreeMap.mem_toList_iff_getElem?_eq_some.mpr (by rw [getElem?_countKeys, if_pos mem]))
      omega
    · rw [count_eq_zero_of_not_mem mem]
      exact Nat.zero_le 1

theorem created_eq_produced {action : ActionSpec} (other : action.isRegister = false) : action.created = action.produced := by
  cases action <;> first | rfl | cases other

theorem created_kind (others : ∀ action ∈ actions, action.isRegister = false) :
    ∀ made ∈ actions.filterMap ActionSpec.created, made.2 ≠ .ofInstance := by
  intro made mem
  obtain ⟨action, held, created⟩ := mem_filterMap.mp mem
  have other := others action held
  cases action <;> cases created <;> simp_all [ActionSpec.isRegister]

theorem manifestKeys_eq_nil (others : ∀ action ∈ actions, action.isRegister = false) : manifestKeys actions = [] := by
  refine flatMap_eq_nil_iff.mpr fun action mem => ?_
  have other := others action mem
  cases action <;> first | rfl | cases other

/-- A rule that registers an instance does so once, after everything that it creates and the manifest names. -/
theorem exists_register {rule : InteractionRule} (clean : checkInstanceFootprint rule = [])
    (registers : rule.actions.any ActionSpec.isRegister = true) :
    ∃ before key kind resources after, rule.actions = before ++ .registerInstance key kind resources :: after ∧
      (∀ action ∈ before, action.isRegister = false) ∧ (∀ action ∈ after, action.created = none) ∧
      resources.keys.Nodup ∧ ∀ made ∈ before.filterMap ActionSpec.created, made.1 ∈ resources.keys := by
  obtain ⟨single, late, owned, distinct⟩ := footprint_clean clean registers
  obtain ⟨register, found⟩ := find?_isSome.mpr (any_eq_true.mp registers) |> Option.isSome_iff_exists.mp
  obtain ⟨here, before, after, split_, others⟩ := find?_eq_some_iff_append.mp found
  have others : ∀ action ∈ before, action.isRegister = false := by simpa using others
  obtain ⟨key, kind, resources, rfl⟩ : ∃ key kind resources, register = .registerInstance key kind resources := by
    cases register <;> first | exact ⟨_, _, _, rfl⟩ | cases here
  have alone : ∀ action ∈ after, action.isRegister = false := by
    rw [split_, filter_append, filter_eq_nil_iff.mpr (by simpa using others), filter_cons_of_pos here] at single
    simpa [filter_eq_nil_iff] using single
  have named : manifestKeys rule.actions = resources.keys := by
    rw [split_, manifestKeys, flatMap_append, flatMap_cons]
    change manifestKeys before ++ (resources.keys ++ manifestKeys after) = _
    rw [manifestKeys_eq_nil others, manifestKeys_eq_nil alone, nil_append, append_nil]
  have place : rule.actions.findIdx ActionSpec.isRegister = before.length := by
    rw [split_, findIdx_append, if_neg (by simpa using others), findIdx_cons, here]
    simp
  refine ⟨before, key, kind, resources, after, split_, others, fun action mem => ?_, named ▸ distinct, ?_⟩
  · obtain ⟨index, held⟩ := mem_iff_getElem?.mp mem
    have held : rule.actions[before.length + (index + 1)]? = some action := by
      rw [split_, getElem?_append_right (Nat.le_add_right _ _), Nat.add_sub_cancel_left]
      exact held
    have quiet := flatMap_eq_nil_iff.mp late (action, before.length + (index + 1))
      (mem_zipIdx_iff_getElem?.mpr held)
    rw [created_eq_produced (alone action mem)]
    cases produced : action.produced with
    | none => rfl
    | some made =>
      simp only [produced, place, reportIf_eq_nil] at quiet
      omega
  · intro made mem
    rw [← named]
    apply owned
    obtain ⟨action, held, created⟩ := mem_filterMap.mp mem
    rw [created_eq_produced (others action held)] at created
    rw [split_]
    exact mem_filterMap.mpr ⟨action, mem_append_left _ held, created⟩

end Footprint

section Table
variable {rule : InteractionRule} {modals : ModalKeys} {actions : List ActionSpec} {created last : StringMap CreatedKind}

theorem checkAction_fresh {action : ActionSpec} (clean : checkAction rule modals action created = ([], last))
    {made : String × CreatedKind} (creates : action.created = some made) : created[made.1]? = none := by
  cases action with
  | createChannel | createRole | registerInstance =>
    cases creates
    simp only [checkAction, recordCreated, Prod.mk.injEq, append_eq_nil_iff, reportIf_eq_nil] at clean
    simpa using clean.1.1
  | postPanel =>
    cases creates
    simp only [checkAction, recordCreated, Prod.mk.injEq, append_eq_nil_iff, reportIf_eq_nil] at clean
    simpa using clean.1.1.1
  | grantRole | respondEphemeral | openModal | upsertOverwrite | deferEphemeral | editResponse | teardownInstance =>
    cases creates

theorem table_of_audit (clean : auditEach (checkAction rule modals) actions created = ([], last)) :
    ((actions.filterMap ActionSpec.created).map Prod.fst).Nodup ∧
      (∀ made ∈ actions.filterMap ActionSpec.created, created[made.1]? = none) ∧
      ∀ key kind, last[key]? = some kind ↔
        created[key]? = some kind ∨ (key, kind) ∈ actions.filterMap ActionSpec.created := by
  induction actions generalizing created with
  | nil =>
    cases clean
    simp
  | cons action actions ih =>
    obtain ⟨next, here, later⟩ := auditEach_cons.mp clean
    obtain ⟨distinct, fresh, table⟩ := ih later
    have recorded : next = record created action.created := by rw [← checkAction_state rule modals, here]
    cases creates : action.created with
    | none =>
      rw [creates] at recorded
      subst recorded
      rw [filterMap_cons_none creates]
      exact ⟨distinct, fresh, table⟩
    | some made =>
      have unknown := checkAction_fresh here creates
      rw [creates] at recorded
      subst recorded
      rw [filterMap_cons_some creates]
      have apart : ∀ other ∈ actions.filterMap ActionSpec.created, made.1 ≠ other.1 ∧ created[other.1]? = none := by
        intro other mem
        have unset := fresh other mem
        have ne : made.1 ≠ other.1 := by
          intro same
          simp [record, same] at unset
        rw [record, getElem?_insert_of_ne ne] at unset
        exact ⟨ne, unset⟩
      refine ⟨nodup_cons.mpr ⟨fun mem => ?_, distinct⟩, fun other mem => ?_, fun key kind => ?_⟩
      · obtain ⟨other, held, same⟩ := mem_map.mp mem
        exact (apart other held).1 same.symm
      · obtain rfl | mem := mem_cons.mp mem
        · exact unknown
        · exact (apart other mem).2
      · have known : created[key]? = some kind → made.1 ≠ key := by
          rintro found rfl
          cases unknown.symm.trans found
        rw [table, getElem?_record, mem_cons, and_iff_right_of_imp known, eq_comm, or_assoc, or_left_comm]

variable {key : String}

theorem mem_keysOf {kind : CreatedKind} {made : List (String × CreatedKind)} :
    key ∈ keysOf kind made ↔ (key, kind) ∈ made := by
  simp [keysOf]

theorem InstanceResourceRefs.mem_keys {self : InstanceResourceRefs} :
    key ∈ self.keys ↔ ∃ kind, key ∈ (self.refs kind).toList.map fun entry => entry.2.created := by
  simp only [InstanceResourceRefs.keys, map_append, mem_append]
  constructor
  · rintro ((mem | mem) | mem)
    · exact ⟨.role, mem⟩
    · exact ⟨.channel, mem⟩
    · exact ⟨.message, mem⟩
  · rintro ⟨kind, mem⟩
    cases kind with
    | role => exact .inl (.inl mem)
    | channel => exact .inl (.inr mem)
    | message => exact .inr mem
    | ofInstance => simp [InstanceResourceRefs.refs] at mem

theorem InstanceResourceRefs.refs_nodup {self : InstanceResourceRefs} (distinct : self.keys.Nodup) (kind : CreatedKind) :
    ((self.refs kind).toList.map fun entry => entry.2.created).Nodup := by
  rw [InstanceResourceRefs.keys, map_append, map_append, nodup_append, nodup_append] at distinct
  obtain ⟨⟨roles, channels, -⟩, messages, -⟩ := distinct
  cases kind with
  | role => exact roles
  | channel => exact channels
  | message => exact messages
  | ofInstance => exact nodup_nil

/-- Every entry of a checked manifest names something that has been created, as what it is. -/
theorem checkManifest_clean {resources : InstanceResourceRefs} (clean : checkManifest rule created resources = [])
    (kind : CreatedKind) : ∀ entry ∈ (resources.refs kind).toList, created[entry.2.created]? = some kind := by
  simp only [checkManifest, append_eq_nil_iff, checkManifestEntries, flatMap_eq_nil_iff,
    checkCreated_eq_nil] at clean
  obtain ⟨⟨⟨-, roles⟩, channels⟩, messages⟩ := clean
  cases kind with
  | role => exact fun entry mem => (roles entry mem).2
  | channel => exact fun entry mem => (channels entry mem).2
  | message => exact fun entry mem => (messages entry mem).2
  | ofInstance => simp [InstanceResourceRefs.refs]

theorem manifest_perm {before : List ActionSpec} {instanceKind : InstanceKind} {resources : InstanceResourceRefs}
    {table : StringMap CreatedKind} (clean : auditEach (checkAction rule modals) before ∅ = ([], table))
    (checked : checkAction rule modals (.registerInstance key instanceKind resources) table = ([], last))
    (distinct : resources.keys.Nodup) (named : ∀ made ∈ before.filterMap ActionSpec.created, made.1 ∈ resources.keys)
    {kind : CreatedKind} (ownable : kind ≠ .ofInstance) :
    ((resources.refs kind).toList.map fun entry => entry.2.created).Perm
      (keysOf kind (before.filterMap ActionSpec.created)) := by
  obtain ⟨keys, -, held⟩ := table_of_audit clean
  have manifest : ∀ kind, ∀ entry ∈ (resources.refs kind).toList,
      (record table (some (key, .ofInstance)))[entry.2.created]? = some kind := by
    simp only [checkAction, Prod.mk.injEq, append_eq_nil_iff] at checked
    exact checkManifest_clean checked.1.2
  have entry_ : ∀ kind name, name ∈ ((resources.refs kind).toList.map fun entry => entry.2.created) →
      kind ≠ .ofInstance → (name, kind) ∈ before.filterMap ActionSpec.created := by
    intro kind name mem ownable
    obtain ⟨entry, listed, rfl⟩ := mem_map.mp mem
    obtain same | ⟨-, found⟩ := getElem?_record.mp (manifest kind entry listed)
    · cases same
      exact absurd rfl ownable
    · simpa using (held _ _).mp found
  refine (perm_ext_iff_of_nodup (resources.refs_nodup distinct kind) ?_).mpr fun name => ?_
  · exact keys.sublist (filter_sublist.map _)
  · rw [mem_keysOf]
    constructor
    · exact fun mem => entry_ kind name mem ownable
    · intro made
      obtain ⟨other, mem⟩ := InstanceResourceRefs.mem_keys.mp (named _ made)
      have known : other ≠ .ofInstance := by
        rintro rfl
        simp [InstanceResourceRefs.refs] at mem
      -- one key has one kind
      have same : table[name]? = some other := (held _ _).mpr (.inr (entry_ other name mem known))
      rw [(held _ _).mpr (.inr made)] at same
      cases same
      exact mem

end Table

/-- What a call brings into being. -/
inductive Creation where
  | role (id : RoleId)
  | channel (id : ChannelId)
  | message (message : InstanceMessageRef)
  | registered (registered : AutomationInstance)

namespace Creation

def role? : Creation → Option RoleId
  | role id => some id
  | _ => none

def channel? : Creation → Option ChannelId
  | channel id => some id
  | _ => none

def message? : Creation → Option InstanceMessageRef
  | message posted => some posted
  | _ => none

def registered? : Creation → Option AutomationInstance
  | registered listed => some listed
  | _ => none

end Creation

/-- An instance counts as soon as it has been handed over. -/
def ServiceEvent.creation? : ServiceEvent → Option Creation
  | createRole _ _ (.ok id) => some (.role id)
  | createChannel _ _ (.ok id) => some (.channel id)
  | postPanel _ channel _ (.ok id) => some (.message { channel, id })
  | registerInstance registered _ => some (.registered registered)
  | _ => none

def creations (log : List ServiceEvent) : List Creation := log.filterMap ServiceEvent.creation?

theorem creations_append (log entries : List ServiceEvent) : creations (log ++ entries) = creations log ++ creations entries :=
  filterMap_append

theorem creations_eq_nil {log : List ServiceEvent} (quiet : ∀ entry ∈ log, entry.creation? = none) : creations log = [] :=
  filterMap_eq_nil_iff.mpr quiet

def ExecutionState.noted (self : ExecutionState) (made : String × CreatedKind) : Option Creation :=
  match made.2 with
  | .role => self.createdRoles[made.1]?.map .role
  | .channel => self.createdChannels[made.1]?.map .channel
  | .message => self.createdMessages[made.1]?.map .message
  | .ofInstance => none

section Tracking
variable {state next last : ExecutionState} {log entries : List ServiceEvent} {made : List (String × CreatedKind)}
  {step : PlannedAction} {entry : ServiceEvent}

theorem StepEffect.quiet (effect : StepEffect step state entry next) (nothing : step.created = none) :
    entry.creation? = none ∧ next = state := by
  cases effect <;> first | exact ⟨rfl, rfl⟩ | cases nothing

/-- A resource that is created is noted under its key, and nothing else is noted anew. -/
theorem StepEffect.creates (effect : StepEffect step state entry next) {new : String × CreatedKind}
    (creates : step.created = some new) (resource : new.2 ≠ .ofInstance) :
    ∃ creation, entry.creation? = some creation ∧ next.noted new = some creation ∧
      ∀ other, other.1 ≠ new.1 → next.noted other = state.noted other := by
  cases effect with
  | createRole key name guild spec id =>
    cases creates
    refine ⟨.role id, rfl, by simp [noted], fun other ne => ?_⟩
    simp [noted, getElem?_insert_of_ne (Ne.symm ne)]
  | createChannel key name guild spec id =>
    cases creates
    refine ⟨.channel id, rfl, by simp [noted], fun other ne => ?_⟩
    simp [noted, getElem?_insert_of_ne (Ne.symm ne)]
  | postPanel key planned content buttons guild channel spec id =>
    cases creates
    refine ⟨.message { channel, id }, rfl, by simp [noted], fun other ne => ?_⟩
    simp [noted, getElem?_insert_of_ne (Ne.symm ne)]
  | registerInstance =>
    cases creates
    exact absurd rfl resource
  | grantRole | respondEphemeral | openModal | upsertOverwrite | deferEphemeral | editResponse | teardownInstance =>
    cases creates

/-- The executor has noted everything that was created, in this order. -/
def Tracked (made : List (String × CreatedKind)) (state : ExecutionState) (log : List ServiceEvent) : Prop :=
  made.map state.noted = (creations log).map some

theorem Tracked.after_step (tracked : Tracked made state log) (effect : StepEffect step state entry next)
    (fresh : ((made ++ step.created.toList).map Prod.fst).Nodup)
    (resources : ∀ new ∈ step.created, new.2 ≠ .ofInstance) :
    Tracked (made ++ step.created.toList) next (log ++ [entry]) := by
  unfold Tracked at tracked ⊢
  rw [creations_append, map_append, map_append, ← tracked]
  cases creates : step.created with
  | none =>
    obtain ⟨silent, rfl⟩ := effect.quiet creates
    simp [creations, silent]
  | some new =>
    obtain ⟨creation, called, noted, others⟩ := effect.creates creates (resources new creates)
    rw [creates, Option.toList_some, map_append, nodup_append] at fresh
    have kept : made.map next.noted = made.map state.noted := by
      refine map_congr_left fun other mem => others other fun same => ?_
      exact fresh.2.2 other.1 (mem_map_of_mem mem) new.1 (by simp) same
    simp [creations, called, noted, kept]

theorem Tracked.after_run {steps : List PlannedAction} (tracked : Tracked made state log)
    (effects : Effects steps state entries last) (fresh : ((made ++ steps.filterMap PlannedAction.created).map Prod.fst).Nodup)
    (resources : ∀ new ∈ steps.filterMap PlannedAction.created, new.2 ≠ .ofInstance) :
    Tracked (made ++ steps.filterMap PlannedAction.created) last (log ++ entries) := by
  induction effects generalizing made log with
  | nil state => simpa using tracked
  | @cons step steps state next last entry entries first rest ih =>
    have split_ : (step :: steps).filterMap PlannedAction.created =
        step.created.toList ++ steps.filterMap PlannedAction.created := by
      cases creates : step.created <;> simp [creates]
    rw [split_, ← append_assoc] at fresh ⊢
    rw [split_] at resources
    have one : Tracked (made ++ step.created.toList) next (log ++ [entry]) :=
      tracked.after_step first (fresh.sublist ((sublist_append_left _ _).map _)) fun new mem =>
        resources new (mem_append_left _ (Option.mem_toList.mpr mem))
    have all := ih one fresh fun new mem => resources new (mem_append_right _ mem)
    rwa [append_assoc log, singleton_append] at all

theorem Tracked.unregistered (tracked : Tracked made state log) :
    (creations log).filterMap Creation.registered? = [] := by
  refine filterMap_eq_nil_iff.mpr fun creation mem => ?_
  obtain ⟨⟨key, kind⟩, -, noted⟩ := mem_map.mp (tracked ▸ mem_map_of_mem mem : some creation ∈ made.map state.noted)
  cases kind with
  | ofInstance => cases noted
  | role | channel | message =>
    obtain ⟨_, -, rfl⟩ := Option.map_eq_some_iff.mp noted
    rfl

theorem Effects.quiet {steps : List PlannedAction} (effects : Effects steps state entries last)
    (nothing : ∀ step ∈ steps, step.created = none) : creations entries = [] := by
  induction effects with
  | nil => rfl
  | cons first rest ih =>
    obtain ⟨silent, -⟩ := first.quiet (nothing _ mem_cons_self)
    rw [creations, filterMap_cons_none silent]
    exact ih fun step mem => nothing step (mem_cons_of_mem _ mem)

end Tracking

section Manifests

variable {ι : Type}

theorem foldlM_resolved_perm {created : StringMap ι} {list : List (String × CreatedRef)} {start last : StringMap ι}
    (distinct : (list.map Prod.fst).Nodup) (absent : ∀ entry ∈ list, start[entry.1]? = none)
    (ok : list.foldlM (fun resolved entry => do
      let id ← orReject created[entry.2.created]? (unresolvedManifest entry.2.created)
      .ok (resolved.insert entry.1 id)) start = Except.ok last) : (last.toList.map Prod.snd).Perm
      (start.toList.map Prod.snd ++ (list.map fun entry => entry.2.created).filterMap (created[·]?)) := by
  induction list generalizing start with
  | nil =>
    cases ok
    simp
  | cons entry list ih =>
    rw [foldlM_cons] at ok
    obtain ⟨next, here, rest⟩ := bind_eq_ok.mp ok
    obtain ⟨id, found, same⟩ := orReject_bind_eq_ok.mp here
    cases same
    rw [map_cons, nodup_cons] at distinct
    have later : ∀ other ∈ list, (start.insert entry.1 id)[other.1]? = none := by
      intro other mem
      have ne : entry.1 ≠ other.1 := fun same => distinct.1 (mem_map.mpr ⟨other, mem, same.symm⟩)
      rw [getElem?_insert_of_ne ne]
      exact absent other (mem_cons_of_mem _ mem)
    refine (ih distinct.2 later rest).trans ?_
    rw [map_cons, filterMap_cons_some found]
    refine (((toList_insert_perm (absent entry mem_cons_self)).map Prod.snd).append_right _).trans ?_
    exact perm_middle.symm

/-- The ids of a resolved manifest are those that the keys in it stand for. -/
theorem resolveEntries_perm {created : StringMap ι} {refs : StringMap CreatedRef} {resolved : StringMap ι}
    (ok : resolveEntries created refs = .ok resolved) :
    (resolved.toList.map Prod.snd).Perm ((refs.toList.map fun entry => entry.2.created).filterMap (created[·]?)) := by
  exact foldlM_resolved_perm (nodup_keys_toList refs) (by simp) ok

/-- A manifest that names the keys of one kind resolves to what was created of it. -/
theorem owned_perm {state : ExecutionState} {log : List ServiceEvent} {made : List (String × CreatedKind)}
    (tracked : Tracked made state log) {kind : CreatedKind} {created : StringMap ι} {pick : Creation → Option ι}
    (picked : ∀ key other, (state.noted (key, other)).bind pick = if other = kind then created[key]? else none)
    {refs : StringMap CreatedRef} {resolved : StringMap ι} (ok : resolveEntries created refs = .ok resolved)
    (named : (refs.toList.map fun entry => entry.2.created).Perm (keysOf kind made)) :
    (resolved.toList.map Prod.snd).Perm ((creations log).filterMap pick) := by
  have same : (creations log).filterMap pick = (keysOf kind made).filterMap (created[·]?) := by
    calc (creations log).filterMap pick
      _ = ((creations log).map some).filterMap fun noted => noted.bind pick := by simp [filterMap_map]
      _ = made.filterMap fun entry => (state.noted entry).bind pick := by rw [← tracked, filterMap_map]; rfl
      _ = (keysOf kind made).filterMap (created[·]?) := ?_
    rw [keysOf, filterMap_map, filterMap_filter]
    refine filterMap_congr fun entry _ => ?_
    rw [picked entry.1 entry.2]
    simp
  rw [same]
  exact (resolveEntries_perm ok).trans (named.filterMap _)

structure Owns (resources : InstanceResources) (created : List Creation) : Prop where
  roles : (resources.roles.toList.map Prod.snd).Perm (created.filterMap Creation.role?)
  channels : (resources.channels.toList.map Prod.snd).Perm (created.filterMap Creation.channel?)
  messages : (resources.messages.toList.map Prod.snd).Perm (created.filterMap Creation.message?)

theorem resolveManifest_owns {state : ExecutionState} {log : List ServiceEvent} {made : List (String × CreatedKind)}
    (tracked : Tracked made state log) {refs : InstanceResourceRefs} {resources : InstanceResources}
    (ok : state.resolveManifest refs = .ok resources)
    (named : ∀ kind, kind ≠ .ofInstance →
      ((refs.refs kind).toList.map fun entry => entry.2.created).Perm (keysOf kind made)) :
    Owns resources (creations log) := by
  obtain ⟨roles, rolesOk, ok⟩ := bind_eq_ok.mp ok
  obtain ⟨channels, channelsOk, ok⟩ := bind_eq_ok.mp ok
  obtain ⟨messages, messagesOk, same⟩ := bind_eq_ok.mp ok
  cases same
  constructor
  · refine owned_perm tracked (fun key kind => ?_) rolesOk (named .role (by decide))
    cases kind <;> simp [noted, Creation.role?, Option.bind_map, Function.comp_def]
  · refine owned_perm tracked (fun key kind => ?_) channelsOk (named .channel (by decide))
    cases kind <;> simp [noted, Creation.channel?, Option.bind_map, Function.comp_def]
  · refine owned_perm tracked (fun key kind => ?_) messagesOk (named .message (by decide))
    cases kind <;> simp [noted, Creation.message?, Option.bind_map, Function.comp_def]

end Manifests

section Plans
variable {event : RuntimeEvent} {ruleset : InteractionRuleSet} {bindings : ResourceBindingMap}

theorem mapM_created {actions : List ActionSpec} {steps : List PlannedAction}
    (planned : actions.mapM (interpretAction event ruleset bindings) = some steps) :
    steps.filterMap PlannedAction.created = actions.filterMap ActionSpec.created := by
  simpa using congrArg (List.filterMap id) (map_planned (fun _ _ => interpretAction_created) planned)

theorem mapM_register {before after : List ActionSpec} {key : String} {kind : InstanceKind}
    {resources : InstanceResourceRefs} {steps : List PlannedAction}
    (planned : (before ++ .registerInstance key kind resources :: after).mapM
      (interpretAction event ruleset bindings) = some steps) :
    ∃ first second, steps = first ++ .registerInstance key kind resources :: second ∧
      first.filterMap PlannedAction.created = before.filterMap ActionSpec.created ∧
      second.filterMap PlannedAction.created = after.filterMap ActionSpec.created := by
  rw [mapM_append] at planned
  obtain ⟨first, early, planned⟩ := Option.bind_eq_some_iff.mp planned
  obtain ⟨rest, late, same⟩ := Option.bind_eq_some_iff.mp planned
  cases same
  rw [mapM_cons] at late
  obtain ⟨step, here, tail⟩ := Option.bind_eq_some_iff.mp late
  obtain ⟨second, later, same⟩ := Option.bind_eq_some_iff.mp tail
  cases same
  cases here
  exact ⟨first, second, rfl, mapM_created early, mapM_created later⟩

variable {σ : Type} {services : AutomationServices σ} {quote : String → String} {context : RuntimeContext}

/-- A run that registers an instance once, after everything else has been created. -/
theorem effects_owned {before after : List PlannedAction} {key : String} {kind : InstanceKind}
    {resources : InstanceResourceRefs} {state last : ExecutionState} {entries : List ServiceEvent}
    (effects : Effects (before ++ .registerInstance key kind resources :: after) state entries last)
    (fresh : ((before.filterMap PlannedAction.created).map Prod.fst).Nodup)
    (others : ∀ new ∈ before.filterMap PlannedAction.created, new.2 ≠ .ofInstance)
    (nothing : after.filterMap PlannedAction.created = [])
    (named : ∀ kind, kind ≠ .ofInstance → ((resources.refs kind).toList.map fun entry => entry.2.created).Perm
      (keysOf kind (before.filterMap PlannedAction.created))) :
    ∃ registered created, creations entries = created ++ [.registered registered] ∧
      created.filterMap Creation.registered? = [] ∧ Owns registered.resources created := by
  obtain ⟨first, middle, second, rfl, early, late⟩ := effects.append_left
  cases late with
  | cons here later =>
    cases here with
    | registerInstance key kind resources registered id _ resolved =>
      have start : Tracked [] state [] := rfl
      have tracked : Tracked (before.filterMap PlannedAction.created) middle first := start.after_run early fresh others
      have silent := later.quiet (filterMap_eq_nil_iff.mp nothing)
      refine ⟨registered, creations first, ?_, ?_, resolveManifest_owns tracked resolved named⟩
      · have here : creations (.registerInstance registered (.ok ()) :: _) = .registered registered :: [] :=
          congrArg (Creation.registered registered :: ·) silent
        rw [creations_append, here]
      · exact tracked.unregistered

/-- The instance that a checked rule registers lists what the run of its plan has created. The plan
is carried out with its leading deferral, or without it. -/
theorem registered_owns_created {rule : InteractionRule} (accepted : validateStructural ruleset = .ok ())
    (mem : rule ∈ ruleset.rules) (registers : rule.actions.any ActionSpec.isRegister = true)
    {lead steps : List PlannedAction} (deferral : lead = [] ∨ lead = [.deferEphemeral])
    (planned : interpretRule event ruleset bindings rule = some { steps := lead ++ steps }) {behind last : σ}
    {log : List ServiceEvent} {result : RunResult}
    (ran : executePlan services.logged quote context { steps } (behind, []) = (.ok result, (last, log))) :
    ∃ registered, (creations log).filterMap Creation.registered? = [registered] ∧
      Owns registered.resources (creations log) := by
  obtain ⟨modals, -, rules⟩ := exists_accepted accepted
  have clean : auditEach (checkAction rule modals) rule.actions ∅ = ([], _) := Prod.ext (rules rule mem).actions rfl
  obtain ⟨before, key, kind, resources, after, split_, others, quiet, distinct, named⟩ :=
    exists_register (rules rule mem).footprint registers
  rw [split_] at clean
  obtain ⟨table, early, checked⟩ := auditEach_append.mp clean
  obtain ⟨next, here, -⟩ := auditEach_cons.mp checked
  obtain ⟨mapped, mapM, same⟩ := Option.map_eq_some_iff.mp planned
  rw [split_] at mapM
  obtain ⟨early', second, rfl, produced, nothing⟩ := mapM_register mapM
  obtain ⟨first, rfl, makes⟩ : ∃ first, steps = first ++ .registerInstance key kind resources :: second ∧
      first.filterMap PlannedAction.created = before.filterMap ActionSpec.created := by
    obtain rfl | rfl := deferral
    · cases same
      exact ⟨early', rfl, produced⟩
    · cases early' with
      | nil => cases same
      | cons step first =>
        cases same
        exact ⟨first, rfl, produced⟩
  obtain ⟨drawn, entries, instances, finish, rfl, only, effects⟩ := executePlan_effects ran
  have silent : creations drawn = [] := by
    refine creations_eq_nil fun entry mem => ?_
    obtain ⟨reply, rfl⟩ := only entry mem
    rfl
  obtain ⟨registered, created, all, unregistered, owns⟩ := effects_owned effects
    (makes ▸ (table_of_audit early).1) (makes ▸ created_kind others)
    (nothing.trans (filterMap_eq_nil_iff.mpr quiet)) fun kind ownable => makes ▸ manifest_perm early here distinct named ownable
  have listed : creations ([] ++ (drawn ++ entries)) = created ++ [.registered registered] := by
    rw [nil_append, creations_append, silent, all, nil_append]
  rw [listed]
  refine ⟨registered, by simp [unregistered, Creation.registered?], ?_⟩
  constructor
  · rw [filterMap_append, filterMap_cons_none rfl, filterMap_nil, append_nil]
    exact owns.roles
  · rw [filterMap_append, filterMap_cons_none rfl, filterMap_nil, append_nil]
    exact owns.channels
  · rw [filterMap_append, filterMap_cons_none rfl, filterMap_nil, append_nil]
    exact owns.messages

end Plans

/-- A room with a role and a panel, which are to be owned by its instance. -/
def openedRoomRun : Except AdapterError RunResult × Nat × List ServiceEvent :=
  executePlan countingServices.logged id (openedRoom []).context
    { steps := (openedRoom [.registerInstance "room" ⟨"room"⟩ roomManifest]).plan.steps } (0, [])

theorem opened_room_owned : ∃ registered, (creations openedRoomRun.2.2).filterMap Creation.registered? = [registered] ∧
    Owns registered.resources (creations openedRoomRun.2.2) := by
  have accepted : validateStructural (openingRoom [.registerInstance "room" ⟨"room"⟩ roomManifest]) = .ok () := by
    decide +kernel
  have returns : openedRoomRun.1.isOk = true := by decide +kernel
  obtain ⟨result, returned⟩ : ∃ result, openedRoomRun.1 = .ok result := by
    cases outcome : openedRoomRun.1 with
    | ok result => exact ⟨result, rfl⟩
    | error error => simp [outcome, Except.isOk, Except.toBool] at returns
  obtain ⟨rule, mem, registers, planned⟩ :
      ∃ rule ∈ (openingRoom [.registerInstance "room" ⟨"room"⟩ roomManifest]).rules,
        rule.actions.any ActionSpec.isRegister = true ∧
        interpretRule opening (openingRoom [.registerInstance "room" ⟨"room"⟩ roomManifest]) lobbyBindings rule =
          some { steps := [] ++ (openedRoom [.registerInstance "room" ⟨"room"⟩ roomManifest]).plan.steps } :=
    ⟨_, mem_singleton.mpr rfl, rfl, rfl⟩
  exact registered_owns_created accepted mem registers (.inl rfl) planned
    (show executePlan countingServices.logged id (openedRoom []).context _ (0, []) = _ from Prod.ext returned rfl)

end Starring.Automation
