import Starring.Automation.Creation

/-! The calls of a run, as a relation between the steps of the plan and the log. -/

namespace Starring.Automation
open Foundation Calls List

/-- What a step does: the call that it makes, and what the executor notes of the reply. -/
inductive StepEffect : PlannedAction → ExecutionState → ServiceEvent → ExecutionState → Prop where
  | grantRole (role : PlannedRole) (target member : UserId) (guild : GuildId) (id : RoleId)
    (reply : Except AdapterError Unit) (state : ExecutionState) :
    StepEffect (.grantRole role target) state (.grantRole guild member id reply) state
  | respondEphemeral (content rendered : String) (reply : Except AdapterError Unit) (state : ExecutionState) :
    StepEffect (.respondEphemeral content) state (.respondEphemeral rendered reply) state
  | openModal (modal : ModalPresentation) (reply : Except AdapterError Unit) (state : ExecutionState) :
    StepEffect (.openModal modal) state (.openModal modal reply) state
  | createChannel (key name : String) (guild : GuildId) (spec : CreateChannelSpec) (id : ChannelId) (state : ExecutionState) :
    StepEffect (.createChannel key name) state (.createChannel guild spec (.ok id))
      { state with createdChannels := state.createdChannels.insert key id }
  | createRole (key name : String) (guild : GuildId) (spec : CreateRoleSpec) (id : RoleId) (state : ExecutionState) :
    StepEffect (.createRole key name) state (.createRole guild spec (.ok id))
      { state with createdRoles := state.createdRoles.insert key id }
  | upsertOverwrite (channel : PlannedChannel) (target : PlannedOverwriteTarget) (allow deny : Permissions) (guild : GuildId)
    (id : ChannelId) (resolved : OverwriteTarget) (reply : Except AdapterError Unit) (state : ExecutionState) :
    StepEffect (.upsertOverwrite channel target allow deny) state
      (.upsertOverwrite guild id resolved allow deny reply) state
  | postPanel (key : String) (planned : PlannedChannel) (content : String) (buttons : List ButtonSpec) (guild : GuildId)
    (channel : ChannelId) (spec : PostPanelSpec) (id : MessageId) (state : ExecutionState) :
    StepEffect (.postPanel key planned content buttons) state (.postPanel guild channel spec (.ok id))
      { state with createdMessages := state.createdMessages.insert key { channel, id } }
  | deferEphemeral (reply : Except AdapterError Unit) (state : ExecutionState) :
    StepEffect .deferEphemeral state (.deferEphemeral reply) state
  | editResponse (content rendered : String) (reply : Except AdapterError Unit) (state : ExecutionState) :
    StepEffect (.editResponse content) state (.editResponse rendered reply) state
  | registerInstance (key : String) (kind : InstanceKind) (resources : InstanceResourceRefs) (registered : AutomationInstance)
    (id : InstanceId) (state : ExecutionState) (resolved : state.resolveManifest resources = .ok registered.resources) :
    StepEffect (.registerInstance key kind resources) state (.registerInstance registered (.ok ()))
      { state with createdInstances := state.createdInstances.insert key id }
  | teardownInstance (instanceRef : InstanceRef) (guild : GuildId) (id : InstanceId) (outcome : TeardownOutcome)
    (state : ExecutionState) : StepEffect (.teardownInstance instanceRef) state (.teardown guild id (.ok outcome)) state

inductive Effects : List PlannedAction → ExecutionState → List ServiceEvent → ExecutionState → Prop where
  | nil (state : ExecutionState) : Effects [] state [] state
  | cons {step : PlannedAction} {steps : List PlannedAction} {state next last : ExecutionState} {entry : ServiceEvent}
    {entries : List ServiceEvent} (first : StepEffect step state entry next) (rest : Effects steps next entries last) :
    Effects (step :: steps) state (entry :: entries) last

theorem Effects.append_left {before after : List PlannedAction} {state last : ExecutionState} {entries : List ServiceEvent}
    (effects : Effects (before ++ after) state entries last) :
    ∃ first middle second, entries = first ++ second ∧ Effects before state first middle ∧
      Effects after middle second last := by
  induction before generalizing state entries with
  | nil => exact ⟨[], state, entries, rfl, .nil state, effects⟩
  | cons step before ih =>
    cases effects with
    | cons here rest =>
      obtain ⟨first, middle, second, rfl, early, late⟩ := ih rest
      exact ⟨_ :: first, middle, second, rfl, .cons here early, late⟩

section Steps
variable {σ : Type} {services : AutomationServices σ} {quote : String → String} {context : RuntimeContext}
  {progress after : Progress} {behind last : σ} {log log' : List ServiceEvent}

theorem effect_of_call {α : Type} {call : Calls AdapterError σ α} {entry : Except AdapterError α → ServiceEvent}
    (ran : (call.logged entry >>= fun _ => (pure progress : Calls AdapterError (σ × List ServiceEvent) Progress))
      (behind, log) = (.ok after, (last, log'))) :
    ∃ reply, log' = log ++ [entry reply] ∧ after = progress := by
  obtain ⟨value, ⟨between, noted⟩, called, same⟩ := bind_ok.mp ran
  obtain ⟨-, rfl⟩ := logged_eq.mp called
  cases same
  exact ⟨_, rfl, rfl⟩

theorem editResponse_logged {content : String} {output result : RunResult}
    (ran : editResponse services.logged content output (behind, log) = (.ok result, (last, log'))) :
    ∃ reply, log' = log ++ [.editResponse content reply] := by
  unfold editResponse at ran
  rcases called : services.logged.editResponse content (behind, log) with ⟨reply, between, noted⟩
  obtain ⟨-, rfl⟩ := logged_eq.mp called
  rw [called] at ran
  refine ⟨reply, ?_⟩
  cases reply with
  | ok _ =>
    cases ran
    rfl
  | error _ =>
    simp only at ran
    split at ran
    · cases ran
    · cases ran
      rfl

theorem runStep_effect {step : PlannedAction} {index : Nat}
    (ran : runStep services.logged quote context progress (step, index) (behind, log) = (.ok after, (last, log'))) :
    ∃ entry, log' = log ++ [entry] ∧ StepEffect step progress.state entry after.state := by
  obtain ⟨action, between, prepared, executed⟩ := bind_ok.mp ran
  obtain ⟨ready, rfl⟩ := ofExcept_eq.mp prepared
  cases step with
  | grantRole role target =>
    obtain ⟨id, -, same⟩ := bind_eq_ok.mp ready
    cases same
    obtain ⟨reply, noted, rfl⟩ := effect_of_call executed
    exact ⟨_, noted, .grantRole _ _ _ _ _ _ _⟩
  | respondEphemeral content =>
    obtain ⟨rendered, -, same⟩ := bind_eq_ok.mp ready
    cases same
    obtain ⟨reply, noted, rfl⟩ := effect_of_call executed
    exact ⟨_, noted, .respondEphemeral _ _ _ _⟩
  | openModal modal =>
    cases ready
    obtain ⟨reply, noted, rfl⟩ := effect_of_call executed
    exact ⟨_, noted, .openModal _ _ _⟩
  | createChannel key name =>
    obtain ⟨rendered, -, same⟩ := bind_eq_ok.mp ready
    cases same
    obtain ⟨id, ⟨_, noted⟩, called, same⟩ := bind_ok.mp executed
    obtain ⟨-, rfl⟩ := logged_eq.mp called
    cases same
    exact ⟨_, rfl, .createChannel _ _ _ _ _ _⟩
  | createRole key name =>
    obtain ⟨rendered, -, same⟩ := bind_eq_ok.mp ready
    cases same
    obtain ⟨id, ⟨_, noted⟩, called, same⟩ := bind_ok.mp executed
    obtain ⟨-, rfl⟩ := logged_eq.mp called
    cases same
    exact ⟨_, rfl, .createRole _ _ _ _ _ _⟩
  | upsertOverwrite channel target allow deny =>
    obtain ⟨id, -, ready⟩ := bind_eq_ok.mp ready
    obtain ⟨resolved, -, same⟩ := bind_eq_ok.mp ready
    cases same
    obtain ⟨reply, noted, rfl⟩ := effect_of_call executed
    exact ⟨_, noted, .upsertOverwrite _ _ _ _ _ _ _ _ _⟩
  | postPanel key channel content buttons =>
    obtain ⟨channelId, -, ready⟩ := bind_eq_ok.mp ready
    obtain ⟨rendered, -, ready⟩ := bind_eq_ok.mp ready
    obtain ⟨resolved, -, same⟩ := bind_eq_ok.mp ready
    cases same
    obtain ⟨id, ⟨_, noted⟩, called, same⟩ := bind_ok.mp executed
    obtain ⟨-, rfl⟩ := logged_eq.mp called
    cases same
    exact ⟨_, rfl, .postPanel _ _ _ _ _ _ _ _ _⟩
  | deferEphemeral =>
    cases ready
    obtain ⟨reply, noted, rfl⟩ := effect_of_call executed
    exact ⟨_, noted, .deferEphemeral _ _⟩
  | editResponse content =>
    obtain ⟨rendered, -, same⟩ := bind_eq_ok.mp ready
    cases same
    obtain ⟨output, ⟨_, noted⟩, called, same⟩ := bind_ok.mp executed
    cases same
    obtain ⟨reply, noted⟩ := editResponse_logged called
    exact ⟨_, noted, .editResponse _ _ _ _⟩
  | registerInstance key kind resources =>
    obtain ⟨id, -, ready⟩ := bind_eq_ok.mp ready
    obtain ⟨resolved, manifest, same⟩ := bind_eq_ok.mp ready
    cases same
    obtain ⟨_, ⟨_, noted⟩, called, same⟩ := bind_ok.mp executed
    obtain ⟨-, rfl⟩ := logged_eq.mp (mapError_ok.mp called)
    cases same
    exact ⟨_, rfl, .registerInstance _ _ _ _ _ _ manifest⟩
  | teardownInstance instanceRef =>
    obtain ⟨id, -, same⟩ := bind_eq_ok.mp ready
    cases same
    obtain ⟨_, ⟨_, noted⟩, called, same⟩ := bind_ok.mp executed
    obtain ⟨-, rfl⟩ := logged_eq.mp (mapError_ok.mp called)
    cases same
    exact ⟨_, rfl, .teardownInstance _ _ _ _ _⟩

theorem foldlM_drawn {steps : List PlannedAction} {planned found : StringMap InstanceId}
    (ran : steps.foldlM (planInstance services.logged) planned (behind, log) = (.ok found, (last, log'))) :
    ∃ drawn, log' = log ++ drawn ∧ ∀ entry ∈ drawn, ∃ reply, entry = .generate reply := by
  induction steps generalizing planned behind log with
  | nil =>
    cases ran
    exact ⟨[], (append_nil _).symm, by simp⟩
  | cons step steps ih =>
    rw [foldlM_cons] at ran
    obtain ⟨next, ⟨between, noted⟩, first, rest⟩ := bind_ok.mp ran
    obtain ⟨later, rfl, only⟩ := ih rest
    have here : noted = log ∨ ∃ reply, noted = log ++ [.generate reply] := by
      unfold planInstance at first
      split at first
      · split at first
        · cases first
          exact .inl rfl
        · obtain ⟨id, ⟨_, noted'⟩, called, same⟩ := bind_ok.mp first
          obtain ⟨-, rfl⟩ := logged_eq.mp (mapError_ok.mp called)
          cases same
          exact .inr ⟨_, rfl⟩
      · cases first
        exact .inl rfl
    obtain rfl | ⟨reply, rfl⟩ := here
    · exact ⟨later, rfl, only⟩
    · exact ⟨.generate reply :: later, append_assoc _ _ _, forall_mem_cons.mpr ⟨⟨reply, rfl⟩, only⟩⟩

theorem foldlM_effects {steps : List (PlannedAction × Nat)}
    (ran : steps.foldlM (runStep services.logged quote context) progress (behind, log) = (.ok after, (last, log'))) :
    ∃ entries, log' = log ++ entries ∧ Effects (steps.map Prod.fst) progress.state entries after.state := by
  induction steps generalizing progress behind log with
  | nil =>
    cases ran
    exact ⟨[], (append_nil _).symm, .nil _⟩
  | cons step steps ih =>
    rw [foldlM_cons] at ran
    obtain ⟨next, ⟨between, noted⟩, first, rest⟩ := bind_ok.mp ran
    obtain ⟨entry, rfl, effect⟩ := runStep_effect first
    obtain ⟨entries, rfl, effects⟩ := ih rest
    exact ⟨entry :: entries, append_assoc _ _ _, .cons effect effects⟩

/-- The calls of a run that returns: ids are drawn, then every step makes its call. -/
theorem executePlan_effects {plan : ActionPlan} {result : RunResult}
    (ran : executePlan services.logged quote context plan (behind, log) = (.ok result, (last, log'))) :
    ∃ drawn entries plannedInstances end_, log' = log ++ (drawn ++ entries) ∧
      (∀ entry ∈ drawn, ∃ reply, entry = .generate reply) ∧
      Effects plan.steps { createdRoles := ∅, createdChannels := ∅, createdMessages := ∅, plannedInstances
                           createdInstances := ∅ } entries end_ := by
  obtain ⟨state, ⟨_, noted⟩, prepared, ran⟩ := bind_ok.mp ran
  obtain ⟨plannedInstances, ⟨_, noted'⟩, planned, same⟩ := bind_ok.mp prepared
  cases same
  obtain ⟨drawn, rfl, only⟩ := foldlM_drawn planned
  obtain ⟨progress, ⟨_, noted'⟩, stepped, same⟩ := bind_ok.mp ran
  cases same
  obtain ⟨entries, rfl, effects⟩ := foldlM_effects stepped
  rw [zipIdx_map_fst] at effects
  exact ⟨drawn, entries, plannedInstances, progress.state, append_assoc _ _ _, only, effects⟩

end Steps

end Starring.Automation
