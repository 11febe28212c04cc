import Starring.Automation.Creation

/-! References of a plan. The checks of a ruleset keep a table of what the actions of a rule
create, and the executor keeps tables of what its steps have created. As long as they
agree, every reference that has been checked leads somewhere. Buttons are not checked. -/

namespace Starring.Automation
open Foundation Calls List ExecutionState
open Planning (ResourceBindingMap)

/-- The errors of a reference that leads nowhere. -/
inductive Unresolved : AdapterError → Prop where
  | createdRole (key : String) : Unresolved (unresolvedCreatedRole key)
  | createdChannel (key : String) : Unresolved (unresolvedCreatedChannel key)
  | plannedInstance (key : String) : Unresolved (unresolvedPlannedInstance key)
  | manifest (key : String) : Unresolved (unresolvedManifest key)
  | eventInstance : Unresolved eventInstanceMissing
  | instanceContext (aliasName : String) : Unresolved (instanceContextMissing aliasName)
  | instanceResource (instanceId : InstanceId) (aliasName : String) :
    Unresolved (instanceResourceNotFound instanceId aliasName)

theorem not_unresolved_template (quote : String → String) (error : TemplateError) :
    ¬Unresolved (templateError quote error) := by
  have starts : ∀ {error}, Unresolved error → ¬['t'] <+: error.message.toList := by
    intro error unresolved
    cases unresolved <;>
      simp [unresolvedCreatedRole, unresolvedCreatedChannel, unresolvedPlannedInstance, unresolvedManifest,
        eventInstanceMissing, instanceContextMissing, instanceResourceNotFound, badRequest]
  intro unresolved
  apply starts unresolved
  simp [templateError, badRequest]

/-- Services that never fail, whatever they return. -/
structure AutomationServices.Infallible {σ : Type} (services : AutomationServices σ) : Prop where
  grantRole : ∀ guild member role, (services.grantRole guild member role).Answers
  createChannel : ∀ guild spec, (services.createChannel guild spec).Answers
  createRole : ∀ guild spec, (services.createRole guild spec).Answers
  upsertOverwrite : ∀ guild channel target allow deny, (services.upsertOverwrite guild channel target allow deny).Answers
  postPanel : ∀ guild channel spec, (services.postPanel guild channel spec).Answers
  respondEphemeral : ∀ content, (services.respondEphemeral content).Answers
  openModal : ∀ modal, (services.openModal modal).Answers
  deferEphemeral : services.deferEphemeral.Answers
  editResponse : ∀ content, (services.editResponse content).Answers
  registerInstance : ∀ registered, (services.registerInstance registered).Answers
  generate : services.generate.Answers
  teardown : ∀ guild instanceId, (services.teardown guild instanceId).Answers

def PlannedAction.text? : PlannedAction → Option (String × SanitizeContext)
  | respondEphemeral content | editResponse content | postPanel _ _ content _ => some (content, .ephemeralMessageContent)
  | createChannel _ name => some (name, .channelName)
  | createRole _ name => some (name, .roleName)
  | _ => none

def PlannedAction.buttons : PlannedAction → List ButtonSpec
  | postPanel _ _ _ buttons => buttons
  | _ => []

def Renders (context : RuntimeContext) (step : PlannedAction) : Prop :=
  ∀ text ∈ step.text?, ∃ out,
    (TemplateString.parse text.1 >>= fun template => template.render context.inputs text.2) = .ok out

/-- The keys of the instances that a plan registers. -/
def registeredKeys (steps : List PlannedAction) : List String :=
  steps.filterMap fun
    | .registerInstance key _ _ => some key
    | _ => none

/-- The button leads to an instance, and not to one that the plan registers. -/
def Dangling (registered : List String) (button : ButtonSpec) : Prop :=
  ∃ instanceRef action, button.route = .instanceAction instanceRef action ∧
    ∀ key ∈ registered, instanceRef ≠ .created ⟨key⟩

/-- A step with such a button comes, and the steps can be rendered up to it. -/
def ReachesDangling (context : RuntimeContext) (registered : List String) (steps : List PlannedAction) : Prop :=
  ∃ before step after, steps = before ++ step :: after ∧ (∀ earlier ∈ before, Renders context earlier) ∧
    Renders context step ∧ ∃ button ∈ step.buttons, Dangling registered button

theorem reachesDangling_cons {context : RuntimeContext} {registered : List String} {step : PlannedAction}
    {steps : List PlannedAction} :
    ReachesDangling context registered (step :: steps) ↔
      Renders context step ∧ ((∃ button ∈ step.buttons, Dangling registered button) ∨
        ReachesDangling context registered steps) := by
  constructor
  · rintro ⟨before, found, after, same, renders, here, dangling⟩
    cases before with
    | nil =>
      obtain ⟨rfl, rfl⟩ := List.cons.inj same
      exact ⟨here, .inl dangling⟩
    | cons first before =>
      obtain ⟨rfl, rfl⟩ := List.cons.inj same
      refine ⟨renders step mem_cons_self, .inr ⟨before, found, after, rfl, ?_, here, dangling⟩⟩
      exact fun earlier mem => renders earlier (mem_cons_of_mem _ mem)
  · rintro ⟨here, dangling | ⟨before, found, after, rfl, renders, there, dangling⟩⟩
    · exact ⟨[], step, steps, rfl, by simp, here, dangling⟩
    · refine ⟨step :: before, found, after, rfl, ?_, there, dangling⟩
      intro earlier mem
      obtain rfl | mem := mem_cons.mp mem
      · exact here
      · exact renders earlier mem

/-- The key is in the table where the executor looks for it. -/
def Holds (registered : List String) (state : ExecutionState) : CreatedKind → String → Prop
  | .role, key => key ∈ state.createdRoles
  | .channel, key => key ∈ state.createdChannels
  | .message, key => key ∈ state.createdMessages
  | .ofInstance, key => key ∈ registered

structure Agrees (created : StringMap CreatedKind) (registered : List String) (state : ExecutionState) : Prop where
  held : ∀ key kind, created[key]? = some kind → Holds registered state kind key
  planned : ∀ key, key ∈ state.plannedInstances ↔ key ∈ registered

theorem resolveEntries_ok {ι : Type} {created : StringMap ι} {refs : StringMap CreatedRef}
    (held : ∀ entry ∈ refs.toList, entry.2.created ∈ created) : ∃ resolved, resolveEntries created refs = .ok resolved := by
  suffices ∀ (entries : List (String × CreatedRef)) (resolved : StringMap ι), (∀ entry ∈ entries, entry.2.created ∈ created) →
      ∃ last, entries.foldlM (fun resolved entry => do
        let id ← orReject created[entry.2.created]? (unresolvedManifest entry.2.created)
        .ok (resolved.insert entry.1 id)) resolved = Except.ok last from this _ _ held
  intro entries
  induction entries with
  | nil => exact fun resolved _ => ⟨resolved, rfl⟩
  | cons entry entries ih =>
    intro resolved held
    obtain ⟨id, found⟩ := exists_of_mem (held entry mem_cons_self)
    obtain ⟨last, rest⟩ := ih (resolved.insert entry.1 id) fun other mem => held other (mem_cons_of_mem _ mem)
    exact ⟨last, by simpa [found, bind, Except.bind, orReject] using rest⟩

namespace Agrees
variable {created : StringMap CreatedKind} {registered : List String} {state : ExecutionState} {rule : InteractionRule}
  {bindings : ResourceBindingMap}

theorem resolveRole (agrees : Agrees created registered state) (context : RuntimeContext)
    (outside : rule.trigger.isInstanceAction = false) {role : RoleRef} (clean : checkRoleRef rule created role = []) {planned : PlannedRole}
    (found : Automation.resolveRole bindings role = some planned) : ∃ id, state.resolveRole context planned = .ok id := by
  cases role with
  | existing key =>
    obtain ⟨id, -, rfl⟩ := Option.map_eq_some_iff.mp found
    exact ⟨id, rfl⟩
  | created reference =>
    cases found
    have held := agrees.held _ .role (checkCreated_eq_nil.mp clean)
    obtain ⟨id, found⟩ := exists_of_mem held
    exact ⟨id, orReject_eq_ok.mpr found⟩
  | ofInstance instanceRef aliasName =>
    -- roles of the event's instance are for instance actions only
    simp [checkRoleRef, outside] at clean

theorem resolveChannel (agrees : Agrees created registered state) {channel : ChannelRef}
    (clean : checkChannelRef rule created channel = []) {planned : PlannedChannel}
    (found : Automation.resolveChannel bindings channel = some planned) : ∃ id, state.resolveChannel planned = .ok id := by
  cases channel with
  | existing key =>
    obtain ⟨id, -, rfl⟩ := Option.map_eq_some_iff.mp found
    exact ⟨id, rfl⟩
  | created reference =>
    cases found
    have held := agrees.held _ .channel (checkCreated_eq_nil.mp clean)
    obtain ⟨id, found⟩ := exists_of_mem held
    exact ⟨id, orReject_eq_ok.mpr found⟩

theorem resolveInstanceRef (agrees : Agrees created registered state) (context : RuntimeContext)
    (outside : rule.trigger.isInstanceAction = false) {instanceRef : InstanceRef} (clean : checkTeardownInstanceRef rule created instanceRef = []) :
    ∃ id, state.resolveInstanceRef context instanceRef = .ok id := by
  cases instanceRef with
  | event => simp [checkTeardownInstanceRef, outside] at clean
  | created reference =>
    have held := (agrees.planned _).mpr (agrees.held _ .ofInstance (checkCreated_eq_nil.mp clean))
    obtain ⟨id, found⟩ := exists_of_mem held
    cases known : state.createdInstances[reference.created]? with
    | some other => exact ⟨other, by simp [ExecutionState.resolveInstanceRef, known]⟩
    | none => exact ⟨id, by simp [ExecutionState.resolveInstanceRef, known, found]⟩

theorem resolveManifest (agrees : Agrees created registered state) {resources : InstanceResourceRefs}
    (clean : checkManifest rule created resources = []) : ∃ resolved, state.resolveManifest resources = .ok resolved := by
  simp only [checkManifest, append_eq_nil_iff, checkManifestEntries, flatMap_eq_nil_iff,
    checkCreated_eq_nil] at clean
  obtain ⟨⟨⟨-, roles⟩, channels⟩, messages⟩ := clean
  obtain ⟨_, roles⟩ := resolveEntries_ok fun entry mem => agrees.held _ .role (roles entry mem).2
  obtain ⟨_, channels⟩ := resolveEntries_ok fun entry mem => agrees.held _ .channel (channels entry mem).2
  obtain ⟨_, messages⟩ := resolveEntries_ok fun entry mem => agrees.held _ .message (messages entry mem).2
  exact ⟨_, by rw [ExecutionState.resolveManifest, roles, channels, messages]; rfl⟩

theorem record (agrees : Agrees created registered state) {after : ExecutionState} {made : String × CreatedKind}
    (keeps : ∀ kind key, Holds registered state kind key → Holds registered after kind key)
    (new : Holds registered after made.2 made.1) (planned : after.plannedInstances = state.plannedInstances) :
    Agrees (Automation.record created (some made)) registered after where
  held key kind found := by
    obtain rfl | ⟨-, found⟩ := getElem?_record.mp found
    · exact new
    · exact keeps kind key (agrees.held key kind found)
  planned := planned ▸ agrees.planned

end Agrees

section Steps
variable {quote : String → String} {context : RuntimeContext} {registered : List String} {state : ExecutionState}

theorem renderText_cases (quote : String → String) (context : RuntimeContext) (text : String × SanitizeContext) :
    (∃ out, renderText quote text.1 context text.2 = .ok out ∧
      (TemplateString.parse text.1 >>= fun template => template.render context.inputs text.2) = .ok out) ∨
    ∃ error, renderText quote text.1 context text.2 = .error (templateError quote error) ∧
      ∀ out, (TemplateString.parse text.1 >>= fun template => template.render context.inputs text.2) ≠ .ok out := by
  unfold renderText
  cases TemplateString.parse text.1 >>= fun template => template.render context.inputs text.2 with
  | ok out => exact .inl ⟨out, rfl, rfl⟩
  | error error => exact .inr ⟨error, rfl, by simp⟩

theorem resolvePanelButton_cases (outside : context.resolvedInstance = none)
    (planned : ∀ key, key ∈ state.plannedInstances ↔ key ∈ registered) (button : ButtonSpec) :
    (∃ resolved, state.resolvePanelButton context button = .ok resolved ∧ ¬Dangling registered button) ∨
    ∃ error, state.resolvePanelButton context button = .error error ∧ Unresolved error ∧ Dangling registered button := by
  cases route : button.route with
  | static key =>
    refine .inl ⟨_, by rw [resolvePanelButton, route], ?_⟩
    rintro ⟨_, _, other, -⟩
    cases route.symm.trans other
  | instanceAction instanceRef action =>
    have dangles : (∀ key ∈ registered, instanceRef ≠ .created ⟨key⟩) ↔ Dangling registered button := by
      simp [Dangling, route]
    have resolves : state.resolvePanelButton context button =
        (state.resolveButtonInstance context instanceRef).map fun instanceId =>
          { label := button.label, route := .instanceAction instanceId action } := by
      simp only [resolvePanelButton, route]
      cases state.resolveButtonInstance context instanceRef <;> rfl
    rw [resolves, ← dangles]
    cases instanceRef with
    | event =>
      refine .inr ⟨eventInstanceMissing, ?_, .eventInstance, by simp⟩
      rw [resolveButtonInstance, eventInstance, outside]
      rfl
    | created reference =>
      rw [resolveButtonInstance]
      cases found : state.plannedInstances[reference.created]? with
      | some id =>
        refine .inl ⟨_, rfl, fun dangling => ?_⟩
        exact dangling _ ((planned _).mp (mem_of_getElem? found)) rfl
      | none =>
        refine .inr ⟨_, rfl, .plannedInstance reference.created, ?_⟩
        rintro key mem same
        cases same
        obtain ⟨id, held⟩ := exists_of_mem ((planned _).mpr mem)
        cases found.symm.trans held

theorem resolvePanelButtons_cases (outside : context.resolvedInstance = none)
    (planned : ∀ key, key ∈ state.plannedInstances ↔ key ∈ registered) (buttons : List ButtonSpec) :
    (∃ resolved, state.resolvePanelButtons context buttons = .ok resolved ∧
      ¬∃ button ∈ buttons, Dangling registered button) ∨
    ∃ error, state.resolvePanelButtons context buttons = .error error ∧ Unresolved error ∧
      ∃ button ∈ buttons, Dangling registered button := by
  induction buttons with
  | nil => exact .inl ⟨[], rfl, by simp⟩
  | cons button buttons ih =>
    unfold resolvePanelButtons at ih ⊢
    rw [mapM_cons]
    simp only [mem_cons, exists_eq_or_imp]
    obtain ⟨here, resolved, whole⟩ | ⟨error, failed, unresolved, dangling⟩ :=
      resolvePanelButton_cases outside planned button
    · obtain ⟨rest, later, sound⟩ | ⟨error, failed, unresolved, dangling⟩ := ih
      · exact .inl ⟨here :: rest, by rw [resolved, later]; rfl, by simp [whole, sound]⟩
      · exact .inr ⟨error, by rw [resolved, failed]; rfl, unresolved, .inr dangling⟩
    · exact .inr ⟨error, by rw [failed]; rfl, unresolved, .inl dangling⟩

/-- How the preparation of a checked step can end. -/
inductive Preparation (quote : String → String) (context : RuntimeContext) (registered : List String)
    (step : PlannedAction) : Except AdapterError PreparedAction → Prop where
  | unrendered (error : TemplateError) (text : ¬Renders context step) :
    Preparation quote context registered step (.error (templateError quote error))
  | dangling (error : AdapterError) (unresolved : Unresolved error) (text : Renders context step)
    (button : ∃ button ∈ step.buttons, Dangling registered button) :
    Preparation quote context registered step (.error error)
  | ready (action : PreparedAction) (text : Renders context step)
    (buttons : ¬∃ button ∈ step.buttons, Dangling registered button) :
    Preparation quote context registered step (.ok action)

theorem Preparation.ofText (step : PlannedAction) {text : String × SanitizeContext} (shown : step.text? = some text)
    (plain : step.buttons = []) (next : String → PreparedAction) :
    Preparation quote context registered step
      (do let content ← renderText quote text.1 context text.2; .ok (next content)) := by
  obtain ⟨out, rendered, renders⟩ | ⟨error, rendered, fails⟩ := renderText_cases quote context text
  · rw [rendered]
    refine .ready _ ?_ (by simp [plain])
    rintro _ same
    cases shown.symm.trans same
    exact ⟨out, renders⟩
  · rw [rendered]
    refine .unrendered error fun renders => ?_
    obtain ⟨out, renders⟩ := renders text shown
    exact fails out renders

/-- A step that shows no text and has no buttons, and whose references are there. -/
theorem Preparation.ofReady {step : PlannedAction} (silent : step.text? = none) (plain : step.buttons = [])
    {result : Except AdapterError PreparedAction} {action : PreparedAction} (ready : result = .ok action) :
    Preparation quote context registered step result := by
  rw [ready]
  exact .ready action (by simp [Renders, silent]) (by simp [plain])

theorem checkChannelRef_message {rule : InteractionRule} {created : StringMap CreatedKind} {key : String}
    {channel : ChannelRef} (clean : checkChannelRef rule (record created (some (key, .message))) channel = []) :
    checkChannelRef rule created channel = [] := by
  cases channel with
  | existing _ => rfl
  | created reference =>
    obtain same | ⟨-, found⟩ := getElem?_record.mp (checkCreated_eq_nil.mp clean)
    · cases same
    · exact checkCreated_eq_nil.mpr found

/-- An action that has been checked is prepared, unless its text or a button of it stands in the way. -/
theorem prepareAction_checked (quote : String → String) {rule : InteractionRule} {modals : ModalKeys} {created : StringMap CreatedKind}
    {event : RuntimeEvent} {ruleset : InteractionRuleSet} {bindings : ResourceBindingMap} {action : ActionSpec}
    {step : PlannedAction} (outside : rule.trigger.isInstanceAction = false) (alone : context.resolvedInstance = none)
    (agrees : Agrees created registered state) (clean : (checkAction rule modals action created).1 = [])
    (planned : interpretAction event ruleset bindings action = some step)
    (own : ∀ key, action.created = some (key, .ofInstance) → key ∈ registered) (index : Nat) :
    Preparation quote context registered step (prepareAction quote index step context state) := by
  cases action with
  | grantRole role target =>
    obtain ⟨role, found, rfl⟩ := Option.map_eq_some_iff.mp planned
    obtain ⟨id, resolved⟩ := agrees.resolveRole context outside clean found
    exact .ofReady rfl rfl (by rw [prepareAction, resolved]; rfl)
  | respondEphemeral content =>
    cases planned
    exact .ofText (.respondEphemeral content) rfl rfl _
  | openModal modal =>
    obtain ⟨_, -, rfl⟩ := Option.map_eq_some_iff.mp planned
    exact .ofReady rfl rfl rfl
  | createChannel key name =>
    cases planned
    exact .ofText (.createChannel key name) rfl rfl _
  | createRole key name =>
    cases planned
    exact .ofText (.createRole key name) rfl rfl _
  | upsertOverwrite channelRef targetSpec allow deny =>
    obtain ⟨channel, found, planned⟩ := Option.bind_eq_some_iff.mp planned
    obtain ⟨target, aimed, planned⟩ := Option.bind_eq_some_iff.mp planned
    cases planned
    simp only [checkAction, append_eq_nil_iff] at clean
    obtain ⟨⟨⟨channelClean, targetClean⟩, -⟩, -⟩ := clean
    obtain ⟨channelId, resolved⟩ := agrees.resolveChannel channelClean found
    obtain ⟨_, targeted⟩ : ∃ resolved, prepareTarget context state target = .ok resolved := by
      cases targetSpec with
      | everyone =>
        cases aimed
        exact ⟨_, rfl⟩
      | role role =>
        obtain ⟨role, found, rfl⟩ := Option.map_eq_some_iff.mp aimed
        obtain ⟨id, resolved⟩ := agrees.resolveRole context outside targetClean found
        exact ⟨_, by rw [prepareTarget, resolved]; rfl⟩
    exact .ofReady rfl rfl (by rw [prepareAction, resolved, targeted]; rfl)
  | postPanel key channel content buttons =>
    obtain ⟨channel, found, rfl⟩ := Option.map_eq_some_iff.mp planned
    simp only [checkAction, append_eq_nil_iff] at clean
    obtain ⟨⟨-, channelClean⟩, -⟩ := clean
    obtain ⟨channelId, resolved⟩ := agrees.resolveChannel (checkChannelRef_message channelClean) found
    have shown : Renders context (.postPanel key channel content buttons) ↔ ∃ out, (TemplateString.parse content >>=
        fun template => template.render context.inputs .ephemeralMessageContent) = .ok out := by
      simp [Renders, PlannedAction.text?]
    rw [prepareAction, resolved]
    obtain ⟨out, rendered, renders⟩ | ⟨error, rendered, fails⟩ :=
      renderText_cases quote context (content, .ephemeralMessageContent)
    · obtain ⟨_, found, whole⟩ | ⟨error, failed, unresolved, dangling⟩ :=
        resolvePanelButtons_cases alone agrees.planned buttons
      · simp only [bind, Except.bind, rendered, found]
        exact .ready _ (shown.mpr ⟨out, renders⟩) whole
      · simp only [bind, Except.bind, rendered, failed]
        exact .dangling _ unresolved (shown.mpr ⟨out, renders⟩) dangling
    · simp only [bind, Except.bind, rendered]
      exact .unrendered error fun text => (shown.mp text).elim fails
  | deferEphemeral =>
    cases planned
    exact .ofReady rfl rfl rfl
  | editResponse content =>
    cases planned
    exact .ofText (.editResponse content) rfl rfl _
  | registerInstance key kind resources =>
    cases planned
    simp only [checkAction, append_eq_nil_iff] at clean
    have mem := own key rfl
    obtain ⟨id, known⟩ := exists_of_mem ((agrees.planned key).mpr mem)
    have recorded : Agrees (record created (some (key, .ofInstance))) registered state :=
      agrees.record (fun _ _ held => held) mem rfl
    obtain ⟨resolved, manifest⟩ := recorded.resolveManifest clean.2
    exact .ofReady rfl rfl (by rw [prepareAction, known, manifest]; rfl)
  | teardownInstance instanceRef =>
    cases planned
    obtain ⟨id, resolved⟩ := agrees.resolveInstanceRef context outside clean
    exact .ofReady rfl rfl (by rw [prepareAction, resolved]; rfl)

end Steps

section Runs
variable {σ : Type} {services : AutomationServices σ} {context : RuntimeContext} {registered : List String}

theorem executeAction_answers (infallible : services.Infallible) (guild : GuildId) (action : PreparedAction)
    (progress : Progress) : (executeAction services guild action progress).Answers := by
  cases action with
  | grantRole => exact (infallible.grantRole _ _ _).bind fun _ => .pure _
  | respondEphemeral => exact (infallible.respondEphemeral _).bind fun _ => .pure _
  | openModal => exact (infallible.openModal _).bind fun _ => .pure _
  | createChannel => exact (infallible.createChannel _ _).bind fun _ => .pure _
  | createRole => exact (infallible.createRole _ _).bind fun _ => .pure _
  | upsertOverwrite => exact (infallible.upsertOverwrite _ _ _ _ _).bind fun _ => .pure _
  | postPanel => exact (infallible.postPanel _ _ _).bind fun _ => .pure _
  | deferEphemeral => exact infallible.deferEphemeral.bind fun _ => .pure _
  | editResponse content =>
    refine Answers.bind (fun behind => ?_) fun _ => .pure _
    obtain ⟨_, last, edited⟩ := infallible.editResponse content behind
    exact ⟨progress.output, last, by rw [editResponse, edited]⟩
  | registerInstance => exact ((infallible.registerInstance _).mapError _).bind fun _ => .pure _
  | teardownInstance => exact ((infallible.teardown _ _).mapError _).bind fun _ => .pure _

theorem executeAction_agrees {guild : GuildId} {action : PreparedAction} {progress after : Progress} {behind last : σ}
    (ran : executeAction services guild action progress behind = (.ok after, last)) {created : StringMap CreatedKind}
    (agrees : Agrees created registered progress.state)
    (own : ∀ key, action.created = some (key, .ofInstance) → key ∈ registered) :
    Agrees (record created action.created) registered after.state := by
  cases action with
  | grantRole | respondEphemeral | openModal | upsertOverwrite | deferEphemeral | editResponse | teardownInstance =>
    obtain ⟨_, _, -, same⟩ := bind_ok.mp ran
    cases same
    exact agrees
  | createChannel index key name | createRole index key name | postPanel index key channel spec =>
    obtain ⟨id, _, -, same⟩ := bind_ok.mp ran
    cases same
    refine agrees.record (fun kind other held => ?_) Std.ExtTreeMap.mem_insert_self rfl
    cases kind <;> first | exact held | exact Std.ExtTreeMap.mem_insert.mpr (.inr held)
  | registerInstance index key id instance_ =>
    obtain ⟨_, _, -, same⟩ := bind_ok.mp ran
    cases same
    exact agrees.record (fun kind _ held => by cases kind <;> exact held) (own key rfl) rfl

variable {event : RuntimeEvent} {ruleset : InteractionRuleSet} {bindings : ResourceBindingMap}

theorem foldlM_unresolved (infallible : services.Infallible) (quote : String → String) {rule : InteractionRule}
    {modals : ModalKeys} (outside : rule.trigger.isInstanceAction = false) (alone : context.resolvedInstance = none)
    {actions : List ActionSpec} {steps : List PlannedAction} {created last : StringMap CreatedKind}
    (planned : actions.mapM (interpretAction event ruleset bindings) = some steps)
    (clean : auditEach (checkAction rule modals) actions created = ([], last))
    (own : ∀ key ∈ registeredKeys steps, key ∈ registered) (index : Nat) (progress : Progress)
    (agrees : Agrees created registered progress.state) (behind : σ) :
    (∃ error after, (steps.zipIdx index).foldlM (runStep services quote context) progress behind = (.error error, after) ∧
      Unresolved error) ↔ ReachesDangling context registered steps := by
  induction actions generalizing steps created index progress behind with
  | nil =>
    cases planned
    constructor
    · rintro ⟨error, after, ran, -⟩
      cases ran
    · rintro ⟨before, step, after, same, -⟩
      simp at same
  | cons action actions ih =>
    rw [mapM_cons] at planned
    obtain ⟨step, here, planned⟩ := Option.bind_eq_some_iff.mp planned
    obtain ⟨later, rest, planned⟩ := Option.bind_eq_some_iff.mp planned
    cases planned
    obtain ⟨next, checked, clean⟩ := auditEach_cons.mp clean
    have recorded : next = record created step.created := by
      rw [interpretAction_created here, ← checkAction_state rule modals, checked]
    have mine : ∀ key, step.created = some (key, .ofInstance) → key ∈ registered := by
      intro key made
      refine own key (mem_filterMap.mpr ⟨step, mem_cons_self, ?_⟩)
      cases step <;> cases made <;> rfl
    have prepared := prepareAction_checked quote outside alone agrees (by rw [checked]) here
      (interpretAction_created here ▸ mine) index
    rw [reachesDangling_cons, zipIdx_cons, foldlM_cons]
    generalize outcome : prepareAction quote index step context progress.state = result at prepared
    cases prepared with
    | unrendered error text =>
      have failed : runStep services quote context progress (step, index) behind =
          (.error (templateError quote error), behind) := by
        rw [runStep, outcome]
        rfl
      rw [bind_of_error failed]
      constructor
      · rintro ⟨_, _, same, unresolved⟩
        cases same
        exact absurd unresolved (not_unresolved_template quote error)
      · exact fun reached => absurd reached.1 text
    | dangling error unresolved text button =>
      have failed : runStep services quote context progress (step, index) behind = (.error error, behind) := by
        rw [runStep, outcome]
        rfl
      rw [bind_of_error failed]
      exact ⟨fun _ => ⟨text, .inl button⟩, fun _ => ⟨error, behind, rfl, unresolved⟩⟩
    | ready action text buttons =>
      obtain ⟨after, between, ran⟩ := executeAction_answers infallible context.guildId action progress behind
      have stepped : runStep services quote context progress (step, index) behind = (.ok after, between) := by
        rw [runStep, ofExcept_bind_ok outcome, ran]
      have made := prepareAction_created outcome
      have agrees : Agrees next registered after.state := by
        rw [recorded, ← made]
        exact executeAction_agrees ran agrees (made ▸ mine)
      rw [bind_of_ok stepped, ih rest clean _ (index + 1) after agrees between]
      · exact ⟨fun reached => ⟨text, .inr reached⟩, fun reached => reached.2.resolve_left buttons⟩
      · intro key mem
        obtain ⟨found, held, same⟩ := mem_filterMap.mp mem
        exact own key (mem_filterMap.mpr ⟨found, mem_cons_of_mem _ held, same⟩)

theorem foldlM_planInstance (infallible : services.Infallible) (steps : List PlannedAction) (planned : StringMap InstanceId)
    (behind : σ) :
    ∃ last after, steps.foldlM (planInstance services) planned behind = (.ok last, after) ∧
      ∀ key, key ∈ last ↔ key ∈ planned ∨ key ∈ registeredKeys steps := by
  induction steps generalizing planned behind with
  | nil => exact ⟨planned, behind, rfl, by simp [registeredKeys]⟩
  | cons step steps ih =>
    rw [foldlM_cons]
    cases step with
    | registerInstance key kind resources =>
      have keys : registeredKeys (.registerInstance key kind resources :: steps) = key :: registeredKeys steps := rfl
      rw [keys]
      by_cases known : key ∈ planned
      · have kept : planInstance services planned (.registerInstance key kind resources) behind = (.ok planned, behind) := by
          rw [planInstance, if_pos known]
          rfl
        obtain ⟨last, after, ran, held⟩ := ih planned behind
        refine ⟨last, after, by rw [bind_of_ok kept, ran], fun other => ?_⟩
        rw [held, mem_cons]
        constructor
        · exact fun mem => mem.imp_right .inr
        · rintro (mem | rfl | mem)
          · exact .inl mem
          · exact .inl known
          · exact .inr mem
      · obtain ⟨id, between, drawn⟩ := (infallible.generate.mapError instanceIdError) behind
        have added : planInstance services planned (.registerInstance key kind resources) behind =
            (.ok (planned.insert key id), between) := by
          rw [planInstance, if_neg known, bind_of_ok drawn]
          rfl
        obtain ⟨last, after, ran, held⟩ := ih (planned.insert key id) between
        refine ⟨last, after, by rw [bind_of_ok added, ran], fun other => ?_⟩
        rw [held, Std.ExtTreeMap.mem_insert, Std.LawfulEqCmp.compare_eq_iff_eq, mem_cons, eq_comm, or_assoc,
          or_left_comm]
    | _ =>
      obtain ⟨last, after, ran, held⟩ := ih planned behind
      exact ⟨last, after, ran, held⟩

/-- Before the first step, nothing is created and every instance has its id. -/
theorem prepare_agrees (infallible : services.Infallible) (plan : ActionPlan) (behind : σ) :
    ∃ state after, prepare services plan behind = (.ok state, after) ∧
      Agrees ∅ (registeredKeys plan.steps) state := by
  obtain ⟨planned, after, drawn, keys⟩ := foldlM_planInstance infallible plan.steps ∅ behind
  refine ⟨_, after, by rw [prepare, bind_of_ok drawn]; rfl, by simp, ?_⟩
  intro key
  simp [keys]

theorem deferral_of_interpret {action : ActionSpec}
    (planned : interpretAction event ruleset bindings action = some .deferEphemeral) : action = .deferEphemeral := by
  cases action <;> simp_all [interpretAction, Option.bind_eq_some_iff]

/-- A plan that is prepared is the plan of checked actions, of a rule that is not about an instance. -/
theorem prepared_actions {identity : RunningRuleSetIdentity} {prepared : PreparedEventExecution}
    (accepted : validateStructural ruleset = .ok ())
    (ready : prepareEventExecution event ruleset bindings identity = .ok (some prepared)) :
    ∃ rule modals actions last, rule.trigger.isInstanceAction = false ∧
      actions.mapM (interpretAction event ruleset bindings) = some prepared.plan.steps ∧
      auditEach (checkAction rule modals) actions ∅ = ([], last) := by
  obtain ⟨routed, -, plan, planned, steps⟩ := prepareEventExecution_ok ready
  obtain ⟨rule, mem, matched, mapped⟩ := interpret_rule planned
  obtain ⟨modals, -, rules⟩ := exists_accepted accepted
  have clean : auditEach (checkAction rule modals) rule.actions ∅ = ([], _) := Prod.ext (rules rule mem).actions rfl
  have outside : rule.trigger.isInstanceAction = false := by
    cases trigger : rule.trigger <;> cases kind : event.kind <;>
      simp_all [triggerMatches, TriggerSpec.isInstanceAction, EventKind.isInstanceAction]
  rw [steps] at mapped
  by_cases deferred : prepared.leadingDeferEphemeral = true
  · rw [if_pos deferred] at mapped
    cases actions : rule.actions with
    | nil =>
      rw [actions] at mapped
      simp at mapped
    | cons first later =>
      rw [actions, mapM_cons] at mapped
      obtain ⟨step, here, mapped⟩ := Option.bind_eq_some_iff.mp mapped
      obtain ⟨rest, planned, same⟩ := Option.bind_eq_some_iff.mp mapped
      cases same
      obtain rfl := deferral_of_interpret here
      rw [actions] at clean
      obtain ⟨next, first, clean⟩ := auditEach_cons.mp clean
      cases first
      exact ⟨rule, modals, later, _, outside, planned, clean⟩
  · rw [if_neg deferred] at mapped
    exact ⟨rule, modals, rule.actions, _, outside, mapped, clean⟩

/-- No reference is left unresolved, unless a button leads to an instance that the plan does not register. -/
theorem references_resolve_iff (infallible : services.Infallible) (quote : String → String) {event : RuntimeEvent}
    {ruleset : InteractionRuleSet} {bindings : ResourceBindingMap} {identity : RunningRuleSetIdentity}
    {prepared : PreparedEventExecution} (accepted : validate ruleset bindings = .ok ())
    (ready : prepareEventExecution event ruleset bindings identity = .ok (some prepared)) (behind : σ) :
    (∀ error after, executePlan services quote prepared.context prepared.plan behind = (.error error, after) →
      ¬Unresolved error) ↔
    ¬ReachesDangling prepared.context (registeredKeys prepared.plan.steps) prepared.plan.steps := by
  obtain ⟨-, alone, -⟩ := prepareEventExecution_ok ready
  obtain ⟨rule, modals, actions, last, outside, planned, clean⟩ := prepared_actions (validate_ok accepted).1 ready
  obtain ⟨state, between, begun, agrees⟩ := prepare_agrees infallible prepared.plan behind
  have runs := foldlM_unresolved infallible quote outside alone planned clean (fun _ mem => mem) 0
    { state, output := { created := [], teardowns := [] } } agrees between
  rw [← runs, executePlan, bind_of_ok begun]
  simp only [bind_error, pure_ne, and_false, exists_false, or_false, not_exists, not_and]

end Runs

def countingServices : AutomationServices Nat where
  grantRole _ _ _ := fun calls => (.ok (), calls + 1)
  createChannel _ _ := fun calls => (.ok ⟨.ofNat calls⟩, calls + 1)
  createRole _ _ := fun calls => (.ok ⟨.ofNat calls⟩, calls + 1)
  upsertOverwrite _ _ _ _ _ := fun calls => (.ok (), calls + 1)
  postPanel _ _ _ := fun calls => (.ok ⟨.ofNat calls⟩, calls + 1)
  respondEphemeral _ := fun calls => (.ok (), calls + 1)
  openModal _ := fun calls => (.ok (), calls + 1)
  deferEphemeral := fun calls => (.ok (), calls + 1)
  editResponse _ := fun calls => (.ok (), calls + 1)
  registerInstance _ := fun calls => (.ok (), calls + 1)
  generate := fun calls => (.ok ⟨"room_1", by decide +kernel⟩, calls + 1)
  teardown _ _ := fun calls => (.ok .completed, calls + 1)

theorem countingServices_infallible : countingServices.Infallible := by
  constructor <;> intros <;> exact fun calls => ⟨_, calls + 1, rfl⟩

/-- A ruleset with one button, which opens a room; the panel of the room has a button to join it. -/
def openingRoom (more : List ActionSpec) : InteractionRuleSet where
  version := 1
  panels := [{ key := "lobby", channel := ⟨"lobby"⟩, content := "rooms"
               buttons := [{ label := "open", route := .static "open" }] }]
  modals := []
  rules := [{
    key := "open", trigger := .buttonClick "open"
    actions := [.createRole "member" "Member",
      .postPanel "welcome" (.existing ⟨"lobby"⟩) "join us"
        [{ label := "join", route := .instanceAction (.created ⟨"room"⟩) "join" }]] ++ more }]

def lobbyBindings : ResourceBindingMap := { roleBindings := ∅, channelBindings := .insert ∅ ⟨"lobby"⟩ ⟨7⟩ }

def opening : RuntimeEvent := { guildId := ⟨1⟩, actor := ⟨2⟩, kind := .buttonClick "open" }

def roomRules : RunningRuleSetIdentity := { key := "rooms", version := ⟨1, Nat.one_pos, NonZeroU32.one_bounded⟩ }

/-- What is carried out when the button is clicked. -/
def openedRoom (more : List PlannedAction) : PreparedEventExecution where
  context := RuntimeContext.fromEvent opening roomRules
  plan := { steps := [.createRole "member" "Member",
    .postPanel "welcome" (.resolved ⟨7⟩) "join us"
      [{ label := "join", route := .instanceAction (.created ⟨"room"⟩) "join" }]] ++ more }
  leadingDeferEphemeral := false

/-- The room of the button is never registered, which comes out when the role has been created already. -/
theorem join_button_unresolved :
    validate (openingRoom []) lobbyBindings = .ok () ∧
      prepareEventExecution opening (openingRoom []) lobbyBindings roomRules = .ok (some (openedRoom [])) ∧
      executePlan countingServices id (openedRoom []).context (openedRoom []).plan 0 =
        (.error (unresolvedPlannedInstance "room"), 1) := by
  refine ⟨by decide +kernel, rfl, by decide +kernel⟩

def roomManifest : InstanceResourceRefs where
  roles := .insert ∅ "member" ⟨"member"⟩
  channels := ∅
  messages := .insert ∅ "welcome" ⟨"welcome"⟩

theorem registered_room_resolves :
    (∀ error after, executePlan countingServices id (openedRoom [.registerInstance "room" ⟨"room"⟩ roomManifest]).context
      (openedRoom [.registerInstance "room" ⟨"room"⟩ roomManifest]).plan 0 = (.error error, after) → ¬Unresolved error) ↔
    ¬ReachesDangling (openedRoom [.registerInstance "room" ⟨"room"⟩ roomManifest]).context ["room"]
      (openedRoom [.registerInstance "room" ⟨"room"⟩ roomManifest]).plan.steps :=
  references_resolve_iff countingServices_infallible id
    (show validate (openingRoom [.registerInstance "room" ⟨"room"⟩ roomManifest]) lobbyBindings = .ok () by decide +kernel)
    (show prepareEventExecution opening _ lobbyBindings roomRules = _ from rfl) 0

end Starring.Automation
