import Starring.Automation.Effects
import Starring.Automation.Preflight.Producers
import Starring.Automation.References
import Starring.Foundation.Lockstep

/-! A prepared plan and the plan it was prepared from. The two executions go in lockstep: one
keeps what has been created by entry, the other by key, and they hand the same calls to the
services. -/

namespace Starring.Automation
open Foundation Calls ExecutionState

/-- The error that a run makes of a call that fails. -/
def ServiceEvent.failure? : ServiceEvent → Option AdapterError
  | grantRole _ _ _ (.error error) => some error
  | createChannel _ _ (.error error) => some error
  | createRole _ _ (.error error) => some error
  | upsertOverwrite _ _ _ _ _ (.error error) => some error
  | postPanel _ _ _ (.error error) => some error
  | respondEphemeral _ (.error error) => some error
  | openModal _ (.error error) => some error
  | deferEphemeral (.error error) => some error
  | editResponse _ (.error error) => some error
  | registerInstance _ (.error error) => some (instanceRegisterError error)
  | generate (.error error) => some (instanceIdError error)
  | teardown _ _ (.error error) => some (teardownError error)
  | _ => none

def LastFailed {σ : Type} (error : AdapterError) (state : σ × List ServiceEvent) : Prop :=
  ∃ calls event, state.2 = calls ++ [event] ∧ event.failure? = some error

section Accounting
variable {σ α ε : Type}

theorem logged_accounts {call : Calls ε σ α} {entry : Except ε α → ServiceEvent} {change : ε → AdapterError}
    (fails : ∀ error, (entry (.error error)).failure? = some (change error)) :
    ((call.logged entry).mapError change).Accounts LastFailed := by
  rintro ⟨behind, log⟩ error ⟨last, log'⟩ failed
  rcases called : call.logged entry (behind, log) with ⟨reply, after⟩
  simp only [mapError, called, Prod.mk.injEq] at failed
  obtain ⟨same, rfl⟩ := failed
  obtain ⟨-, rfl⟩ := logged_eq.mp called
  cases reply with
  | ok value => cases same
  | error reason =>
    cases same
    exact ⟨log, _, rfl, fails reason⟩

theorem call_accounts {call : Calls AdapterError σ α} {entry : Except AdapterError α → ServiceEvent}
    (fails : ∀ error, (entry (.error error)).failure? = some error) : (call.logged entry).Accounts LastFailed := by
  intro state error last failed
  have kept : ((call.logged entry).mapError id) state = (.error error, last) := by
    rw [mapError, failed]
    rfl
  exact logged_accounts fails state error last kept

theorem editResponse_accounts (services : AutomationServices σ) (content : String) (output : RunResult) :
    (editResponse services.logged content output).Accounts LastFailed := by
  intro state error last failed
  unfold editResponse at failed
  rcases called : services.logged.editResponse content state with ⟨reason | _, after⟩
  · simp only [called] at failed
    split at failed
    · cases failed
      exact call_accounts (fun _ => rfl) state error last called
    · cases failed
  · simp only [called] at failed
    cases failed

end Accounting

/-- The state of the one run and of the other, before the step at a place. -/
structure Simulates (producers : StringMap Producer) (preallocated : Std.ExtTreeMap ActionEntryId InstanceId) (done : Nat)
    (progress : Progress) (prepared : PreflightProgress) : Prop where
  output : progress.output = prepared.output
  roles : Matches producers .role done progress.state.createdRoles prepared.state.roles
  channels : Matches producers .channel done progress.state.createdChannels prepared.state.channels
  messages : Matches producers .message done progress.state.createdMessages prepared.state.messages
  instances : Matches producers .ofInstance done progress.state.createdInstances prepared.state.instances
  planned : ∀ (key : String) (entry : ActionEntryId), producers[key]? = some (Producer.mk entry .ofInstance) →
    progress.state.plannedInstances[key]? = preallocated[entry]?

section References
variable {context : RuntimeContext} {producers : StringMap Producer} {entry : ActionEntryId}
  {state : ExecutionState} {prepared : PreflightExecutionState} {before after : PreparationEvidence}

theorem findProducer_ok {key : String} {kind : ProducerOutputKind} {producer : Producer}
    (found : findProducer producers entry key kind = .ok producer) :
    producers[key]? = some (Producer.mk producer.entry kind) := by
  simp only [findProducer, orReject_bind_eq_ok, check_bind_eq_ok, rejectIf_eq_ok, not_not] at found
  obtain ⟨_, found, rfl, same⟩ := found
  cases same
  exact found

theorem resolvePriorProducer_ok {key : String} {kind : ProducerOutputKind} {reference : CreatedOutputRef kind}
    (made : resolvePriorProducer producers entry key kind before = (.ok reference, after)) :
    producers[key]? = some (Producer.mk reference.producer kind) ∧ reference.producer.val < entry.val := by
  obtain ⟨producer, _, found, made⟩ := bind_ok.mp made
  obtain ⟨_, _, prior, made⟩ := bind_ok.mp made
  obtain ⟨_, _, -, made⟩ := bind_ok.mp made
  cases made
  obtain ⟨found, -⟩ := ofExcept_eq.mp found
  obtain ⟨prior, -⟩ := ofExcept_eq.mp prior
  exact ⟨findProducer_ok found, not_le.mp (rejectIf_eq_ok.mp prior)⟩

theorem contextInstance_ok {found : AutomationInstance} (known : contextInstance context entry = .ok found) :
    ∃ resolved, context.resolvedInstance = some resolved ∧ resolved.resolved = found := by
  simp only [contextInstance, orReject_bind_eq_ok, check_bind_eq_ok] at known
  obtain ⟨resolved, known, -, same⟩ := known
  cases same
  exact ⟨resolved, known, rfl⟩

theorem resolveRole_agrees {role : PlannedRole} {reference : PreflightRoleRef}
    (made : resolvePreflightRole context producers entry role before = (.ok reference, after))
    (agree : Matches producers .role entry.val state.createdRoles prepared.roles) :
    ∃ id, state.resolveRole context role = .ok id ∧ prepared.resolveRole entry reference = .ok id := by
  cases role with
  | resolved id =>
    obtain ⟨_, _, -, made⟩ := bind_ok.mp made
    obtain ⟨_, _, -, made⟩ := bind_ok.mp made
    cases made
    exact ⟨id, rfl, rfl⟩
  | created key =>
    obtain ⟨produced, _, found, made⟩ := bind_ok.mp made
    cases made
    obtain ⟨found, prior⟩ := resolvePriorProducer_ok found
    obtain ⟨id, byKey, byEntry⟩ := agree.resolve found prior
    exact ⟨id, orReject_eq_ok.mpr byKey, orReject_eq_ok.mpr byEntry⟩
  | ofInstance aliasName =>
    obtain ⟨_, _, -, made⟩ := bind_ok.mp made
    obtain ⟨found, _, known, made⟩ := bind_ok.mp made
    obtain ⟨id, _, held, made⟩ := bind_ok.mp made
    obtain ⟨_, _, -, made⟩ := bind_ok.mp made
    cases made
    obtain ⟨resolved, about, rfl⟩ := contextInstance_ok (ofExcept_eq.mp known).1
    have held := orReject_eq_ok.mp (ofExcept_eq.mp held).1
    refine ⟨id, ?_, rfl⟩
    simp [ExecutionState.resolveRole, about, held]

theorem resolveChannel_agrees {channel : PlannedChannel} {reference : PreflightChannelRef}
    (made : resolvePreflightChannel producers entry channel before = (.ok reference, after))
    (agree : Matches producers .channel entry.val state.createdChannels prepared.channels) :
    ∃ id, state.resolveChannel channel = .ok id ∧ prepared.resolveChannel entry reference = .ok id := by
  cases channel with
  | resolved id =>
    obtain ⟨_, _, -, made⟩ := bind_ok.mp made
    obtain ⟨_, _, -, made⟩ := bind_ok.mp made
    cases made
    exact ⟨id, rfl, rfl⟩
  | created key =>
    obtain ⟨produced, _, found, made⟩ := bind_ok.mp made
    cases made
    obtain ⟨found, prior⟩ := resolvePriorProducer_ok found
    obtain ⟨id, byKey, byEntry⟩ := agree.resolve found prior
    exact ⟨id, orReject_eq_ok.mpr byKey, orReject_eq_ok.mpr byEntry⟩

theorem resolveTarget_agrees {target : PlannedOverwriteTarget} {reference : PreflightOverwriteTarget}
    (made : resolvePreflightTarget context producers entry target before = (.ok reference, after))
    (agree : Matches producers .role entry.val state.createdRoles prepared.roles) :
    ∃ resolved, prepareTarget context state target = .ok resolved ∧
      prepared.resolveTarget entry context.guildId reference = .ok resolved := by
  cases target with
  | everyone =>
    cases made
    exact ⟨_, rfl, rfl⟩
  | role role =>
    obtain ⟨found, _, known, made⟩ := bind_ok.mp made
    cases made
    obtain ⟨id, byKey, byEntry⟩ := resolveRole_agrees known agree
    refine ⟨.role id, ?_, ?_⟩
    · rw [prepareTarget, byKey]
      rfl
    · rw [PreflightExecutionState.resolveTarget, byEntry]
      rfl

theorem resolveInstance_agrees {instanceRef : InstanceRef} {reference : PreflightInstanceRef}
    (made : resolveTeardownInstance context producers entry instanceRef before = (.ok reference, after))
    (agree : Matches producers .ofInstance entry.val state.createdInstances prepared.instances) :
    ∃ id, state.resolveInstanceRef context instanceRef = .ok id ∧ prepared.resolveInstance entry reference = .ok id := by
  cases instanceRef with
  | event =>
    obtain ⟨found, _, known, made⟩ := bind_ok.mp made
    obtain ⟨_, _, -, made⟩ := bind_ok.mp made
    obtain ⟨_, _, -, made⟩ := bind_ok.mp made
    obtain ⟨_, _, -, made⟩ := bind_ok.mp made
    cases made
    obtain ⟨resolved, about, rfl⟩ := contextInstance_ok (ofExcept_eq.mp known).1
    refine ⟨resolved.resolved.id, ?_, rfl⟩
    simp [resolveInstanceRef, eventInstance, about]
  | created reference =>
    obtain ⟨registered, _, found, made⟩ := bind_ok.mp made
    cases made
    obtain ⟨found, prior⟩ := resolvePriorProducer_ok found
    obtain ⟨id, byKey, byEntry⟩ := agree.resolve found prior
    refine ⟨id, ?_, orReject_eq_ok.mpr byEntry⟩
    simp [resolveInstanceRef, byKey]

/-- A button leads to the same instance, which may be one that is yet to be registered. -/
theorem resolveButton_agrees {preallocated : Std.ExtTreeMap ActionEntryId InstanceId}
    (planned : ∀ (key : String) (entry : ActionEntryId), producers[key]? = some (Producer.mk entry .ofInstance) →
      state.plannedInstances[key]? = preallocated[entry]?)
    {button : ButtonSpec} {made : PreflightButtonSpec}
    (ready : resolveButton context producers preallocated entry button = .ok made) :
    state.resolvePanelButton context button = .ok made.resolved := by
  unfold resolveButton at ready
  unfold resolvePanelButton
  split at ready
  · rename_i route
    cases ready
    simp only [route]
    rfl
  · rename_i route
    obtain ⟨found, known, same⟩ := bind_eq_ok.mp ready
    cases same
    obtain ⟨resolved, about, rfl⟩ := contextInstance_ok known
    simp only [route]
    refine bind_eq_ok.mpr ⟨resolved.resolved.id, ?_, rfl⟩
    simp [resolveButtonInstance, eventInstance, about]
  · rename_i route
    obtain ⟨producer, found, ready⟩ := bind_eq_ok.mp ready
    obtain ⟨instanceId, held, same⟩ := bind_eq_ok.mp ready
    cases same
    simp only [route]
    refine bind_eq_ok.mpr ⟨instanceId, orReject_eq_ok.mpr ?_, rfl⟩
    rw [planned _ _ (findProducer_ok found)]
    exact orReject_eq_ok.mp held

theorem resolveButtons_agree {preallocated : Std.ExtTreeMap ActionEntryId InstanceId}
    (planned : ∀ (key : String) (entry : ActionEntryId), producers[key]? = some (Producer.mk entry .ofInstance) →
      state.plannedInstances[key]? = preallocated[entry]?)
    {buttons : List ButtonSpec} {made : List PreflightButtonSpec}
    (ready : buttons.mapM (resolveButton context producers preallocated entry) = .ok made) :
    state.resolvePanelButtons context buttons = .ok (made.map PreflightButtonSpec.resolved) := by
  unfold resolvePanelButtons
  induction buttons generalizing made with
  | nil =>
    cases ready
    rfl
  | cons button buttons ih =>
    rw [List.mapM_cons] at ready
    obtain ⟨first, here, ready⟩ := bind_eq_ok.mp ready
    obtain ⟨rest, later, same⟩ := bind_eq_ok.mp ready
    cases same
    rw [List.mapM_cons, resolveButton_agrees planned here, ih later]
    rfl

theorem resolveEntries_agree {ι : Type} {kind : ProducerOutputKind} {byKey : StringMap ι}
    {byEntry : Std.ExtTreeMap ActionEntryId ι} {refs : StringMap CreatedRef} {resolved : StringMap (CreatedOutputRef kind)}
    (made : resolveManifestRefs producers entry kind refs before = (.ok resolved, after))
    (agree : Matches producers kind entry.val byKey byEntry) :
    ∃ ids, resolveEntries byKey refs = .ok ids ∧ resolveProducedEntries byEntry entry resolved = .ok ids := by
  have inserts : ∀ (built : StringMap (CreatedOutputRef kind)) (item : String × CreatedRef) earlier next later,
      (do ofExcept (rejectIf (boundedKey item.1 = false) (.invalidKey entry))
          let reference ← resolvePriorProducer producers entry item.2.created kind
          pure (built.insert item.1 reference) : Preparing (StringMap (CreatedOutputRef kind))) earlier = (.ok next, later) →
      ∃ reference, (producers[item.2.created]? = some (Producer.mk reference.producer kind) ∧
        reference.producer.val < entry.val) ∧ next = built.insert item.1 reference := by
    intro built item _ next _ stepped
    obtain ⟨_, _, -, stepped⟩ := bind_ok.mp stepped
    obtain ⟨reference, _, prior, same⟩ := bind_ok.mp stepped
    cases same
    exact ⟨reference, resolvePriorProducer_ok prior, rfl⟩
  obtain ⟨held, others⟩ := of_foldlM_insert _ inserts (nodup_keys_toList refs) made
  have absent_ : ∀ aliasName, refs[aliasName]? = none → resolved[aliasName]? = none := fun aliasName absent => by
    rw [others aliasName (not_mem_keys_toList absent), Std.ExtTreeMap.getElem?_empty]
  -- both parts have the keys of the manifest, and a value for each
  have present : ∀ (aliasName : String) (reference : CreatedRef), refs[aliasName]? = some reference →
      ∃ (output : CreatedOutputRef kind) (value : ι),
        resolved[aliasName]? = some output ∧ byKey[reference.created]? = some value ∧ byEntry[output.producer]? = some value := by
    intro aliasName reference found
    obtain ⟨output, ⟨producer, prior⟩, entered⟩ :=
      held (aliasName, reference) (Std.ExtTreeMap.mem_toList_iff_getElem?_eq_some.mpr found)
    obtain ⟨value, here, there⟩ := agree.resolve producer prior
    exact ⟨output, value, entered, here, there⟩
  obtain ⟨ids, byKeys, keyed, fewer⟩ := foldlM_insert
    (fun reference : CreatedRef => orReject byKey[reference.created]? (unresolvedManifest reference.created))
    (nodup_keys_toList refs) (fun item mem => by
      obtain ⟨_, value, -, here, -⟩ := present item.1 item.2 (Std.ExtTreeMap.mem_toList_iff_getElem?_eq_some.mp mem)
      exact ⟨value, orReject_eq_ok.mpr here⟩) ∅
  obtain ⟨ids', byEntries, entered, fewer'⟩ := foldlM_insert
    (fun output : CreatedOutputRef kind => orReject byEntry[output.producer]? (executionInvariant entry))
    (nodup_keys_toList resolved) (fun item mem => by
      have mem := Std.ExtTreeMap.mem_toList_iff_getElem?_eq_some.mp mem
      cases found : refs[item.1]? with
      | none => cases (absent_ _ found).symm.trans mem
      | some reference =>
        obtain ⟨_, value, same, -, there⟩ := present item.1 reference found
        cases same.symm.trans mem
        exact ⟨value, orReject_eq_ok.mpr there⟩) ∅
  have same : ids = ids' := by
    refine Std.ExtTreeMap.ext_getElem? fun aliasName => ?_
    cases found : refs[aliasName]? with
    | none =>
      rw [fewer _ (not_mem_keys_toList found), fewer' _ (not_mem_keys_toList (absent_ _ found))]
    | some reference =>
      obtain ⟨output, value, produced, here, there⟩ := present aliasName reference found
      rw [keyed _ (Std.ExtTreeMap.mem_toList_iff_getElem?_eq_some.mpr found) value (orReject_eq_ok.mpr here),
        entered _ (Std.ExtTreeMap.mem_toList_iff_getElem?_eq_some.mpr produced) value (orReject_eq_ok.mpr there)]
  exact ⟨ids, byKeys, same ▸ byEntries⟩

theorem resolveManifest_agrees {resources : InstanceResourceRefs} {refs : PreflightInstanceResourceRefs}
    (made : resolvePreflightManifest producers entry resources before = (.ok refs, after))
    (roles : Matches producers .role entry.val state.createdRoles prepared.roles)
    (channels : Matches producers .channel entry.val state.createdChannels prepared.channels)
    (messages : Matches producers .message entry.val state.createdMessages prepared.messages) :
    ∃ resolved, state.resolveManifest resources = .ok resolved ∧ prepared.resolveResources entry refs = .ok resolved := by
  obtain ⟨roleRefs, _, madeRoles, made⟩ := bind_ok.mp made
  obtain ⟨channelRefs, _, madeChannels, made⟩ := bind_ok.mp made
  obtain ⟨messageRefs, _, madeMessages, same⟩ := bind_ok.mp made
  cases same
  obtain ⟨roleIds, roleKeys, roleEntries⟩ := resolveEntries_agree madeRoles roles
  obtain ⟨channelIds, channelKeys, channelEntries⟩ := resolveEntries_agree madeChannels channels
  obtain ⟨messageIds, messageKeys, messageEntries⟩ := resolveEntries_agree madeMessages messages
  refine ⟨{ roles := roleIds, channels := channelIds, messages := messageIds }, ?_, ?_⟩
  · rw [resolveManifest, roleKeys, channelKeys, messageKeys]
    rfl
  · rw [PreflightExecutionState.resolveResources, roleEntries, channelEntries, messageEntries]
    rfl

theorem renderText_agrees (quote : String → String) {source rendered : String} {sanitize : SanitizeContext}
    (made : preflightRender context entry source sanitize = .ok rendered) :
    renderText quote source context sanitize = .ok rendered := by
  unfold preflightRender at made
  unfold renderText
  rw [mapError_eq_ok] at made ⊢
  exact made

end References

section Steps
variable {σ : Type} (services : AutomationServices σ) (quote : String → String) {context : RuntimeContext}
  {producers : StringMap Producer} {preallocated : Std.ExtTreeMap ActionEntryId InstanceId} {steps : List PlannedAction}
  {entry : ActionEntryId} {step : PlannedAction} {action : PreparedPlanAction} {progress : Progress}
  {prepared : PreflightProgress} {before after : PreparationEvidence}

/-- A step that creates nothing leaves the two states alike. -/
theorem Simulates.skip (indexed : Indexed producers steps) {done : Nat} (here : steps[done]? = some step)
    (quiet : step.created = none) (simulates : Simulates producers preallocated done progress prepared) :
    Simulates producers preallocated (done + 1) progress prepared := by
  have other : ∀ (kind : CreatedKind) (key : String), step.created ≠ some (key, kind) := by simp [quiet]
  exact { simulates with
    roles := simulates.roles.skip indexed here (other _)
    channels := simulates.channels.skip indexed here (other _)
    messages := simulates.messages.skip indexed here (other _)
    instances := simulates.instances.skip indexed here (other _) }

theorem ensureOutput_self (entry : ActionEntryId) : ensureOutput entry entry = .ok () :=
  rejectIf_eq_ok.mpr fun ne => ne rfl

theorem step_lockstep (indexed : Indexed producers steps) (here : steps[entry.val]? = some step)
    (made : preparePlanAction context producers preallocated entry step before = (.ok action, after))
    (simulates : Simulates producers preallocated entry.val progress prepared) :
    Lockstep LastFailed (Simulates producers preallocated (entry.val + 1))
      (runStep services.logged quote context progress (step, entry.val))
      (executePlanAction services.logged context prepared action) := by
  have quietly : step.created = none → Simulates producers preallocated (entry.val + 1) progress prepared :=
    fun quiet => simulates.skip indexed here quiet
  have place : ∀ key kind, step.created = some (key, kind) → producers[key]? = some (Producer.mk entry kind) :=
    fun key kind creates => (indexed _ _ _).mpr ⟨step, here, creates⟩
  obtain ⟨output, roles, channels, messages, instances, planned⟩ := simulates
  cases step with
  | grantRole role target =>
    obtain ⟨_, _, -, made⟩ := bind_ok.mp made
    obtain ⟨_, _, -, made⟩ := bind_ok.mp made
    obtain ⟨_, _, -, made⟩ := bind_ok.mp made
    obtain ⟨reference, _, known, made⟩ := bind_ok.mp made
    cases made
    obtain ⟨id, byKey, byEntry⟩ := resolveRole_agrees known roles
    have ready : prepareAction quote entry.val (.grantRole role target) context progress.state = .ok (.grantRole id target) :=
      bind_eq_ok.mpr ⟨id, byKey, rfl⟩
    rw [runStep, ofExcept_bind_ok ready, executePlanAction, ofExcept_bind_ok byEntry]
    exact .call (call_accounts fun _ => rfl) fun _ => .pure (quietly rfl)
  | respondEphemeral content =>
    obtain ⟨rendered, _, text, made⟩ := bind_ok.mp made
    cases made
    have text := renderText_agrees quote (ofExcept_eq.mp text).1
    have ready : prepareAction quote entry.val (.respondEphemeral content) context progress.state =
        .ok (.respondEphemeral rendered) := bind_eq_ok.mpr ⟨rendered, text, rfl⟩
    rw [runStep, ofExcept_bind_ok ready]
    exact .call (call_accounts fun _ => rfl) fun _ => .pure (quietly rfl)
  | openModal modal =>
    obtain ⟨_, _, -, made⟩ := bind_ok.mp made
    cases made
    exact .call (call_accounts fun _ => rfl) fun _ => .pure (quietly rfl)
  | createChannel key name =>
    obtain ⟨_, _, -, made⟩ := bind_ok.mp made
    obtain ⟨rendered, _, text, made⟩ := bind_ok.mp made
    cases made
    have text := renderText_agrees quote (ofExcept_eq.mp text).1
    have ready : prepareAction quote entry.val (.createChannel key name) context progress.state =
        .ok (.createChannel entry.val key rendered) := bind_eq_ok.mpr ⟨rendered, text, rfl⟩
    rw [runStep, ofExcept_bind_ok ready, executePlanAction, ofExcept_bind_ok (ensureOutput_self entry)]
    refine .call (call_accounts fun _ => rfl) fun id => .pure ?_
    exact { output := by rw [output], planned
            roles := roles.skip indexed here (by simp [PlannedAction.created])
            channels := channels.insert indexed (place key .channel rfl) id
            messages := messages.skip indexed here (by simp [PlannedAction.created])
            instances := instances.skip indexed here (by simp [PlannedAction.created]) }
  | createRole key name =>
    obtain ⟨_, _, -, made⟩ := bind_ok.mp made
    obtain ⟨rendered, _, text, made⟩ := bind_ok.mp made
    cases made
    have text := renderText_agrees quote (ofExcept_eq.mp text).1
    have ready : prepareAction quote entry.val (.createRole key name) context progress.state =
        .ok (.createRole entry.val key rendered) := bind_eq_ok.mpr ⟨rendered, text, rfl⟩
    rw [runStep, ofExcept_bind_ok ready, executePlanAction, ofExcept_bind_ok (ensureOutput_self entry)]
    refine .call (call_accounts fun _ => rfl) fun id => .pure ?_
    exact { output := by rw [output], planned
            roles := roles.insert indexed (place key .role rfl) id
            channels := channels.skip indexed here (by simp [PlannedAction.created])
            messages := messages.skip indexed here (by simp [PlannedAction.created])
            instances := instances.skip indexed here (by simp [PlannedAction.created]) }
  | upsertOverwrite channel target allow deny =>
    obtain ⟨_, _, -, made⟩ := bind_ok.mp made
    obtain ⟨_, _, -, made⟩ := bind_ok.mp made
    obtain ⟨_, _, -, made⟩ := bind_ok.mp made
    obtain ⟨channelRef, _, knownChannel, made⟩ := bind_ok.mp made
    obtain ⟨targetRef, _, knownTarget, made⟩ := bind_ok.mp made
    cases made
    obtain ⟨id, channelKey, channelEntry⟩ := resolveChannel_agrees knownChannel channels
    obtain ⟨resolved, targetKey, targetEntry⟩ := resolveTarget_agrees knownTarget roles
    have ready : prepareAction quote entry.val (.upsertOverwrite channel target allow deny) context progress.state =
        .ok (.upsertOverwrite id resolved allow deny) :=
      bind_eq_ok.mpr ⟨id, channelKey, bind_eq_ok.mpr ⟨resolved, targetKey, rfl⟩⟩
    rw [runStep, ofExcept_bind_ok ready, executePlanAction, ofExcept_bind_ok channelEntry,
      ofExcept_bind_ok targetEntry]
    exact .call (call_accounts fun _ => rfl) fun _ => .pure (quietly rfl)
  | postPanel key channel content buttons =>
    obtain ⟨_, _, -, made⟩ := bind_ok.mp made
    obtain ⟨_, _, -, made⟩ := bind_ok.mp made
    obtain ⟨_, _, -, made⟩ := bind_ok.mp made
    obtain ⟨channelRef, _, knownChannel, made⟩ := bind_ok.mp made
    obtain ⟨rendered, _, text, made⟩ := bind_ok.mp made
    obtain ⟨buttonRefs, _, resolved, made⟩ := bind_ok.mp made
    cases made
    obtain ⟨channelId, channelKey, channelEntry⟩ := resolveChannel_agrees knownChannel channels
    have text := renderText_agrees quote (ofExcept_eq.mp text).1
    have resolved := resolveButtons_agree planned (ofExcept_eq.mp resolved).1
    have ready : prepareAction quote entry.val (.postPanel key channel content buttons) context progress.state =
        .ok (.postPanel entry.val key channelId
          { content := rendered, buttons := buttonRefs.map PreflightButtonSpec.resolved }) :=
      bind_eq_ok.mpr ⟨channelId, channelKey, bind_eq_ok.mpr ⟨rendered, text,
        bind_eq_ok.mpr ⟨_, resolved, rfl⟩⟩⟩
    rw [runStep, ofExcept_bind_ok ready, executePlanAction, ofExcept_bind_ok (ensureOutput_self entry),
      ofExcept_bind_ok channelEntry]
    refine .call (call_accounts fun _ => rfl) fun id => .pure ?_
    exact { output := by rw [output], planned
            roles := roles.skip indexed here (by simp [PlannedAction.created])
            channels := channels.skip indexed here (by simp [PlannedAction.created])
            messages := messages.insert indexed (place key .message rfl) _
            instances := instances.skip indexed here (by simp [PlannedAction.created]) }
  | deferEphemeral =>
    cases made
    exact .call (call_accounts fun _ => rfl) fun _ => .pure (quietly rfl)
  | editResponse content =>
    obtain ⟨rendered, _, text, made⟩ := bind_ok.mp made
    cases made
    have text := renderText_agrees quote (ofExcept_eq.mp text).1
    have ready : prepareAction quote entry.val (.editResponse content) context progress.state =
        .ok (.editResponse rendered) := bind_eq_ok.mpr ⟨rendered, text, rfl⟩
    rw [runStep, ofExcept_bind_ok ready, executeAction, executePlanAction, output]
    exact .call (editResponse_accounts _ _ _) fun edited => .pure { quietly rfl with output := rfl }
  | registerInstance key kind resources =>
    obtain ⟨_, _, -, made⟩ := bind_ok.mp made
    obtain ⟨id, _, drawn, made⟩ := bind_ok.mp made
    obtain ⟨refs, _, manifest, made⟩ := bind_ok.mp made
    cases made
    have found := place key .ofInstance rfl
    have drawn : progress.state.plannedInstances[key]? = some id :=
      (planned key entry found).trans (orReject_eq_ok.mp (ofExcept_eq.mp drawn).1)
    obtain ⟨owned, byKey, byEntry⟩ := resolveManifest_agrees manifest roles channels messages
    have ready : prepareAction quote entry.val (.registerInstance key kind resources) context progress.state =
        .ok (.registerInstance entry.val key id
          { id, guildId := context.guildId, rulesetKey := context.rulesetKey, rulesetVersion := context.rulesetVersion
            kind, createdBy := context.actor, resources := owned, status := .active }) :=
      bind_eq_ok.mpr ⟨id, orReject_eq_ok.mpr drawn, bind_eq_ok.mpr ⟨owned, byKey, rfl⟩⟩
    rw [runStep, ofExcept_bind_ok ready, executePlanAction, ofExcept_bind_ok (ensureOutput_self entry),
      ofExcept_bind_ok byEntry]
    refine .call (logged_accounts fun _ => rfl) fun _ => .pure ?_
    exact { output := by rw [output], planned
            roles := roles.skip indexed here (by simp [PlannedAction.created])
            channels := channels.skip indexed here (by simp [PlannedAction.created])
            messages := messages.skip indexed here (by simp [PlannedAction.created])
            instances := instances.insert indexed found id }
  | teardownInstance instanceRef =>
    obtain ⟨_, _, -, made⟩ := bind_ok.mp made
    obtain ⟨_, _, -, made⟩ := bind_ok.mp made
    obtain ⟨reference, _, known, made⟩ := bind_ok.mp made
    cases made
    obtain ⟨id, byKey, byEntry⟩ := resolveInstance_agrees known instances
    have ready : prepareAction quote entry.val (.teardownInstance instanceRef) context progress.state =
        .ok (.teardownInstance entry.val id) := bind_eq_ok.mpr ⟨id, byKey, rfl⟩
    rw [runStep, ofExcept_bind_ok ready, executePlanAction, ofExcept_bind_ok byEntry]
    exact .call (logged_accounts fun _ => rfl) fun _ => .pure { quietly rfl with output := by rw [output] }

variable {plan : ActionPlan}

/-- What a preparation that succeeds has found out, and which ids it has drawn. -/
theorem prepareActionPlan_ok {generate : Calls String σ InstanceId} {made : PreparedActionPlan} {state last : σ}
    (ready : prepareActionPlan generate context plan state = (.ok made, last)) :
    made.context = context ∧ plan.steps.length ≤ maxPreflightActions ∧ ∃ producers preallocated,
      Indexed producers plan.steps ∧ preallocateInstances generate producers state = (.ok preallocated, last) ∧
      List.Forall₂ (fun item action => ∃ before after,
        preparePlanStep context producers preallocated item before = (.ok action, after)) plan.steps.zipIdx made.actions := by
  obtain ⟨_, _, checked, ready⟩ := bind_ok.mp ready
  obtain ⟨-, rfl⟩ := ofExcept_eq.mp checked
  obtain ⟨_, _, counted, ready⟩ := bind_ok.mp ready
  obtain ⟨few, rfl⟩ := ofExcept_eq.mp counted
  obtain ⟨producers, _, keyed, ready⟩ := bind_ok.mp ready
  obtain ⟨entered, rfl⟩ := ofExcept_eq.mp keyed
  obtain ⟨preallocated, _, drawn, ready⟩ := bind_ok.mp ready
  obtain ⟨built, rfl⟩ := ofExcept_eq.mp ready
  rcases mapped : plan.steps.zipIdx.mapM (preparePlanStep context producers preallocated)
      { snapshotRequest := { guildId := context.guildId, actor := context.actor, observations := ∅, existingRoles := ∅
                             existingChannels := ∅ }
        dependencies := ∅ } with ⟨reply, evidence⟩
  rw [mapped] at built
  obtain ⟨actions, rfl, digested⟩ := bind_eq_ok.mp built
  obtain ⟨material, -, same⟩ := bind_eq_ok.mp digested
  cases same
  exact ⟨rfl, not_lt.mp (rejectIf_eq_ok.mp few), producers, preallocated, indexProducers_indexed entered, drawn,
    forall₂_of_mapM mapped⟩

theorem steps_lockstep (indexed : Indexed producers plan.steps) {actions : List PreparedPlanAction}
    (made : List.Forall₂ (fun item action => ∃ before after,
      preparePlanStep context producers preallocated item before = (.ok action, after)) plan.steps.zipIdx actions)
    (simulates : Simulates producers preallocated 0 progress prepared) :
    Lockstep LastFailed (fun progress prepared => progress.output = prepared.output)
      (plan.steps.zipIdx.foldlM (runStep services.logged quote context) progress)
      (actions.foldlM (executePlanAction services.logged context) prepared) := by
  refine (Lockstep.foldlM (Simulates producers preallocated) ?_ made simulates).mono fun _ _ both => both.output
  rintro ⟨step, place⟩ mem action ⟨before, after, ready⟩ progress prepared simulates
  obtain ⟨entry, _, placed, ready⟩ := bind_ok.mp ready
  obtain ⟨_, _, -, ready⟩ := bind_ok.mp ready
  obtain rfl := ActionEntryId.fromIndex_eq_ok.mp (ofExcept_eq.mp placed).1
  exact step_lockstep services quote indexed (List.mem_zipIdx_iff_getElem?.mp mem) ready simulates

/-- A prepared plan is carried out as the plan itself: the preparation only draws the ids of the instances, after which
the two runs make the same calls, get the same replies and return the same; and no run fails but with a call. -/
theorem preflighted_refines_legacy {made : PreparedActionPlan} {behind between : σ} {drawn : List ServiceEvent}
    (ready : prepareActionPlan services.logged.generate context plan (behind, []) = (.ok made, (between, drawn)))
    (identity : ActionPlanSnapshotIdentity) :
    (∀ event ∈ drawn, ∃ reply, event = .generate reply) ∧
      executePreflightedActionPlan services.logged { prepared := made, snapshotIdentity := identity } identity
          (between, drawn) =
        executePlan services.logged quote context plan (behind, []) ∧
      ∀ error last, executePlan services.logged quote context plan (behind, []) = (.error error, last) →
        LastFailed error last := by
  obtain ⟨rfl, few, producers, preallocated, indexed, allocated, actions⟩ := prepareActionPlan_ok ready
  obtain ⟨planned, draws, agree⟩ := preallocate_plans indexed List.drop_zero (instanceEntries_val indexed few) allocated
    (Matches.empty : Matches producers .ofInstance 0 (∅ : StringMap InstanceId) ∅) (by simp)
  obtain ⟨_, log, only⟩ := foldlM_drawn draws
  rw [List.nil_append] at log
  subst log
  have started : prepare services.logged plan (behind, []) =
      (.ok { createdRoles := ∅, createdChannels := ∅, createdMessages := ∅, plannedInstances := planned
             createdInstances := ∅ }, (between, drawn)) := bind_ok.mpr ⟨planned, _, draws, rfl⟩
  have alike : Simulates producers preallocated 0
      { state := { createdRoles := ∅, createdChannels := ∅, createdMessages := ∅, plannedInstances := planned
                   createdInstances := ∅ }, output := { created := [], teardowns := [] } }
      { state := { roles := ∅, channels := ∅, messages := ∅, instances := ∅ }
        output := { created := [], teardowns := [] } } :=
    { output := rfl, roles := .empty, channels := .empty, messages := .empty, instances := .empty, planned := agree.same }
  have same := steps_lockstep services quote indexed actions alike
  have matching : rejectIf (identity ≠ identity) snapshotDrift = .ok () := rejectIf_eq_ok.mpr fun ne => ne rfl
  have whole := same.bind fun progress prepared outputs =>
    Lockstep.pure (show progress.output = prepared.output from outputs)
  refine ⟨only, ?_, fun error last failed => ?_⟩
  · rw [executePreflightedActionPlan, ofExcept_bind_ok matching, executePlan, bind_of_ok started]
    exact (whole.eq _).symm
  · rw [executePlan, bind_of_ok started] at failed
    exact whole.accounts _ error last failed

end Steps

/-- The preparation of the plan that opens a room and registers it. -/
def preparedRoom : Except ActionPlanPreflightError PreparedActionPlan × Nat × List ServiceEvent :=
  prepareActionPlan countingServices.logged.generate (openedRoom []).context
    (openedRoom [.registerInstance "room" ⟨"room"⟩ roomManifest]).plan (0, [])

def roomSnapshot : ActionPlanSnapshotIdentity := { value := "snapshot-1", checked := by decide +kernel }

theorem prepared_room_refines :
    ∃ made, preparedRoom.1 = .ok made ∧ (∀ event ∈ preparedRoom.2.2, ∃ reply, event = .generate reply) ∧
      executePreflightedActionPlan countingServices.logged { prepared := made, snapshotIdentity := roomSnapshot } roomSnapshot
          preparedRoom.2 =
        executePlan countingServices.logged id (openedRoom []).context
          (openedRoom [.registerInstance "room" ⟨"room"⟩ roomManifest]).plan (0, []) := by
  obtain ⟨made, ready, -⟩ := exists_ok_of_any preparedRoom.1 (fun _ => true) (by decide +kernel)
  obtain ⟨drawn, same, -⟩ := preflighted_refines_legacy countingServices id
    (show prepareActionPlan countingServices.logged.generate (openedRoom []).context _ (0, []) = _ from Prod.ext ready rfl)
    roomSnapshot
  exact ⟨made, ready, drawn, same⟩

end Starring.Automation
