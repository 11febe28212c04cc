import Starring.Automation.Effects
import Starring.Automation.References

/-! Responses to an interaction. A rule that defers its response begins with the deferral and
ends with the edit of it, and answers in no other way; what the executor calls follows
the actions of the rule, until a step cannot be prepared. -/

namespace Starring.Automation
open Foundation Calls List
open Planning (ResourceBindingMap)

inductive ResponseKind where
  | reply
  | deferral
  | edit
  deriving DecidableEq

namespace ResponseKind

/-- Discord takes one initial response for an interaction. -/
def isInitial : ResponseKind → Bool
  | reply | deferral => true
  | edit => false

end ResponseKind

def ActionSpec.response? : ActionSpec → Option ResponseKind
  | respondEphemeral _ | openModal _ => some .reply
  | deferEphemeral => some .deferral
  | editResponse _ => some .edit
  | _ => none

def PlannedAction.response? : PlannedAction → Option ResponseKind
  | respondEphemeral _ | openModal _ => some .reply
  | deferEphemeral => some .deferral
  | editResponse _ => some .edit
  | _ => none

def ServiceEvent.response? : ServiceEvent → Option ResponseKind
  | respondEphemeral _ _ | openModal _ _ => some .reply
  | deferEphemeral _ => some .deferral
  | editResponse _ _ => some .edit
  | _ => none

section Kinds

theorem interpretAction_response {event : RuntimeEvent} {ruleset : InteractionRuleSet} {bindings : ResourceBindingMap}
    {action : ActionSpec} {step : PlannedAction} (planned : interpretAction event ruleset bindings action = some step) :
    step.response? = action.response? := by
  cases action with
  | grantRole | openModal | postPanel =>
    obtain ⟨_, -, rfl⟩ := Option.map_eq_some_iff.mp planned
    rfl
  | upsertOverwrite =>
    obtain ⟨_, -, planned⟩ := Option.bind_eq_some_iff.mp planned
    obtain ⟨_, -, planned⟩ := Option.bind_eq_some_iff.mp planned
    cases planned
    rfl
  | respondEphemeral | createChannel | createRole | deferEphemeral | editResponse | registerInstance | teardownInstance =>
    cases planned
    rfl

theorem Effects.responses {steps : List PlannedAction} {state last : ExecutionState} {entries : List ServiceEvent}
    (effects : Effects steps state entries last) :
    entries.map ServiceEvent.response? = steps.map PlannedAction.response? := by
  induction effects with
  | nil => rfl
  | cons first rest ih =>
    rw [map_cons, map_cons, ih]
    cases first <;> rfl

end Kinds

section Shape

theorem ActionSpec.isDefer_eq_true {action : ActionSpec} : action.isDefer = true ↔ action = .deferEphemeral := by
  cases action <;> simp [isDefer]

theorem ActionSpec.isEdit_eq_true {action : ActionSpec} :
    action.isEdit = true ↔ ∃ content, action = .editResponse content := by
  cases action <;> simp [isEdit]

theorem ActionSpec.response_eq_none {action : ActionSpec} (defers : action.isDefer = false) (edits : action.isEdit = false)
    (replies : action.isOtherInitial = false) : action.response? = none := by
  cases action <;> simp_all [response?, isDefer, isEdit, isOtherInitial]

theorem mem_positions {sort : ActionSpec → Bool} {actions : List ActionSpec} {index : Nat} :
    index ∈ positions sort actions ↔ ∃ action, actions[index]? = some action ∧ sort action = true := by
  simp only [positions, mem_map, mem_filter]
  constructor
  · rintro ⟨⟨action, _⟩, ⟨mem, sorted⟩, rfl⟩
    exact ⟨action, mem_zipIdx_iff_getElem?.mp mem, sorted⟩
  · rintro ⟨action, found, sorted⟩
    exact ⟨(action, index), ⟨mem_zipIdx_iff_getElem?.mpr found, sorted⟩, rfl⟩

theorem positions_eq_nil {sort : ActionSpec → Bool} {actions : List ActionSpec} :
    positions sort actions = [] ↔ ∀ action ∈ actions, sort action = false := by
  rw [eq_nil_iff_forall_not_mem]
  constructor
  · intro none action mem
    obtain ⟨index, found⟩ := mem_iff_getElem?.mp mem
    exact Bool.eq_false_iff.mpr fun sorted => none index (mem_positions.mpr ⟨action, found, sorted⟩)
  · intro none index mem
    obtain ⟨action, found, sorted⟩ := mem_positions.mp mem
    rw [none action (mem_of_getElem? found)] at sorted
    cases sorted

/-- How a rule answers: it never defers, or it defers first, edits last and does nothing else. -/
inductive RuleAnswers : List ActionSpec → Prop where
  | direct (actions : List ActionSpec)
    (plain : ∀ action ∈ actions, action.response? ≠ some .deferral ∧ action.response? ≠ some .edit) : RuleAnswers actions
  | deferred (middle : List ActionSpec) (content : String) (silent : ∀ action ∈ middle, action.response? = none) :
    RuleAnswers (.deferEphemeral :: (middle ++ [.editResponse content]))

theorem answers_of_check {rule : InteractionRule} (clean : checkResponses rule = []) : RuleAnswers rule.actions := by
  simp only [checkResponses, append_eq_nil_iff, reportIf_eq_nil] at clean
  obtain ⟨⟨⟨⟨first, conflict⟩, undeferred⟩, -⟩, last⟩ := clean
  by_cases never : positions ActionSpec.isDefer rule.actions = []
  · have unedited : positions ActionSpec.isEdit rule.actions = [] := by
      by_contra edited
      exact undeferred ⟨edited, never⟩
    refine .direct _ fun action mem => ?_
    have notDefer := positions_eq_nil.mp never action mem
    have notEdit := positions_eq_nil.mp unedited action mem
    cases action <;> simp_all [ActionSpec.response?, ActionSpec.isDefer, ActionSpec.isEdit]
  · rw [if_neg never, append_eq_nil_iff, reportIf_eq_nil, reportIf_eq_nil] at conflict
    obtain ⟨alone, edited⟩ := conflict
    simp only [any_eq_true, decide_eq_true_eq, not_exists, not_and, not_not] at first last
    generalize rule.actions = actions at *
    obtain ⟨index, defers⟩ := exists_mem_of_ne_nil _ never
    obtain rfl := first index defers
    obtain ⟨index, edits⟩ := exists_mem_of_ne_nil _ edited
    obtain rfl := last index edits
    obtain ⟨head, begins, deferral⟩ := mem_positions.mp defers
    obtain rfl := ActionSpec.isDefer_eq_true.mp deferral
    obtain ⟨final, ends, edit⟩ := mem_positions.mp edits
    obtain ⟨content, rfl⟩ := ActionSpec.isEdit_eq_true.mp edit
    cases actions with
    | nil => simp at begins
    | cons head rest =>
      obtain rfl : head = .deferEphemeral := by simpa using begins
      obtain rfl | ⟨middle, final, rfl⟩ := eq_nil_or_concat' rest
      · simp at ends
      · obtain rfl : final = .editResponse content := by simpa using ends
        refine .deferred middle content fun action mem => ?_
        obtain ⟨index, found⟩ := mem_iff_getElem?.mp mem
        have bound := (List.getElem?_eq_some_iff.mp found).1
        have here : (ActionSpec.deferEphemeral :: (middle ++ [.editResponse content]))[index + 1]? = some action := by
          rw [getElem?_cons_succ, getElem?_append_left bound, found]
        apply ActionSpec.response_eq_none
        · refine Bool.eq_false_iff.mpr fun deferral => ?_
          have := first _ (mem_positions.mpr ⟨action, here, deferral⟩)
          omega
        · refine Bool.eq_false_iff.mpr fun edit => ?_
          have := last _ (mem_positions.mpr ⟨action, here, edit⟩)
          rw [length_cons, length_append, length_singleton] at this
          omega
        · refine Bool.eq_false_iff.mpr fun other => alone ?_
          exact any_eq_true.mpr ⟨action, mem_cons_of_mem _ (mem_append_left _ mem), other⟩

end Shape

theorem AutomationServices.Infallible.logged {σ : Type} {services : AutomationServices σ}
    (infallible : services.Infallible) : services.logged.Infallible where
  grantRole guild member role := (infallible.grantRole guild member role).logged _
  createChannel guild spec := (infallible.createChannel guild spec).logged _
  createRole guild spec := (infallible.createRole guild spec).logged _
  upsertOverwrite guild channel target allow deny := (infallible.upsertOverwrite guild channel target allow deny).logged _
  postPanel guild channel spec := (infallible.postPanel guild channel spec).logged _
  respondEphemeral content := (infallible.respondEphemeral content).logged _
  openModal modal := (infallible.openModal modal).logged _
  deferEphemeral := infallible.deferEphemeral.logged _
  editResponse content := (infallible.editResponse content).logged _
  registerInstance registered := (infallible.registerInstance registered).logged _
  generate := infallible.generate.logged _
  teardown guild instanceId := (infallible.teardown guild instanceId).logged _

section Runs
variable {σ : Type} {services : AutomationServices σ} (infallible : services.Infallible) {quote : String → String}
  {context : RuntimeContext} {behind last : σ} {log log' : List ServiceEvent}
include infallible

/-- Only the preparation of a step can fail, and then the step makes no call. -/
theorem foldlM_done {steps : List (PlannedAction × Nat)} {progress : Progress} {result : Except AdapterError Progress}
    (ran : steps.foldlM (runStep services.logged quote context) progress (behind, log) = (result, (last, log'))) :
    ∃ done rest entries finish, steps.map Prod.fst = done ++ rest ∧ log' = log ++ entries ∧
      Effects done progress.state entries finish ∧ (result.isOk = true ↔ rest = []) := by
  induction steps generalizing progress behind log with
  | nil =>
    cases ran
    exact ⟨[], [], [], progress.state, rfl, (append_nil _).symm, .nil _, by simp [Except.isOk, Except.toBool]⟩
  | cons step steps ih =>
    rw [foldlM_cons] at ran
    cases ready : prepareAction quote step.2 step.1 context progress.state with
    | error error =>
      have failed : runStep services.logged quote context progress step (behind, log) = (.error error, (behind, log)) := by
        rw [runStep, ready]
        rfl
      rw [bind_of_error failed] at ran
      cases ran
      refine ⟨[], _, [], progress.state, rfl, (append_nil _).symm, .nil _, ?_⟩
      simp [Except.isOk, Except.toBool]
    | ok action =>
      obtain ⟨next, ⟨between, noted⟩, executed⟩ :=
        executeAction_answers infallible.logged context.guildId action progress (behind, log)
      have stepped : runStep services.logged quote context progress step (behind, log) = (.ok next, (between, noted)) := by
        rw [runStep, ofExcept_bind_ok ready, executed]
      rw [bind_of_ok stepped] at ran
      obtain ⟨entry, rfl, effect⟩ := runStep_effect stepped
      obtain ⟨done, rest, entries, finish, split_, rfl, effects, returns⟩ := ih ran
      refine ⟨step.1 :: done, rest, entry :: entries, finish, ?_, append_assoc _ _ _, .cons effect effects, returns⟩
      rw [map_cons, split_, cons_append]

theorem prepare_drawn (plan : ActionPlan) (behind : σ) (log : List ServiceEvent) :
    ∃ state between drawn, ExecutionState.prepare services.logged plan (behind, log) = (.ok state, (between, log ++ drawn)) ∧
      ∀ entry ∈ drawn, ∃ reply, entry = .generate reply := by
  obtain ⟨planned, ⟨between, noted⟩, drawing, -⟩ := foldlM_planInstance infallible.logged plan.steps ∅ (behind, log)
  obtain ⟨drawn, rfl, only⟩ := foldlM_drawn drawing
  exact ⟨_, between, drawn, bind_of_ok drawing _, only⟩

/-- The calls of a run: ids are drawn, then the steps make their calls, up to the first that cannot be prepared. -/
theorem executePlan_done {plan : ActionPlan} {result : Except AdapterError RunResult}
    (ran : executePlan services.logged quote context plan (behind, log) = (result, (last, log'))) :
    ∃ done rest drawn entries start finish, plan.steps = done ++ rest ∧ log' = log ++ (drawn ++ entries) ∧
      (∀ entry ∈ drawn, ∃ reply, entry = .generate reply) ∧ Effects done start entries finish ∧
      (result.isOk = true ↔ rest = []) := by
  obtain ⟨state, between, drawn, begun, only⟩ := prepare_drawn infallible plan behind log
  rw [executePlan, bind_of_ok begun] at ran
  rcases folded : plan.steps.zipIdx.foldlM (runStep services.logged quote context)
    { state, output := { created := [], teardowns := [] } } (between, log ++ drawn) with ⟨outcome, last', log''⟩
  obtain ⟨done, rest, entries, finish, split_, rfl, effects, returns⟩ := foldlM_done infallible folded
  rw [zipIdx_map_fst] at split_
  have same : last' = last ∧ log ++ drawn ++ entries = log' ∧ outcome.isOk = result.isOk := by
    cases outcome with
    | ok progress =>
      rw [bind_of_ok folded] at ran
      cases ran
      exact ⟨rfl, rfl, rfl⟩
    | error error =>
      rw [bind_of_error folded] at ran
      cases ran
      exact ⟨rfl, rfl, rfl⟩
  obtain ⟨rfl, rfl, kind⟩ := same
  exact ⟨done, rest, drawn, entries, _, finish, split_, append_assoc _ _ _, only, effects, kind ▸ returns⟩

theorem executePreparedEvent_direct {prepared : PreparedEventExecution} (direct : prepared.leadingDeferEphemeral = false)
    {failureMessage : String} {result : Except AdapterError Unit}
    (ran : executePreparedEvent services.logged quote prepared failureMessage (behind, log) = (result, (last, log'))) :
    ∃ done rest drawn entries start finish, prepared.plan.steps = done ++ rest ∧ log' = log ++ (drawn ++ entries) ∧
      (∀ entry ∈ drawn, ∃ reply, entry = .generate reply) ∧ Effects done start entries finish := by
  rcases outcome : executePlan services.logged quote prepared.context prepared.plan (behind, log) with ⟨reply, last', noted⟩
  obtain ⟨done, rest, drawn, entries, start, finish, split_, rfl, only, effects, -⟩ := executePlan_done infallible outcome
  refine ⟨done, rest, drawn, entries, start, finish, split_, ?_, only, effects⟩
  simp only [executePreparedEvent, direct, Bool.false_eq_true, ↓reduceIte, outcome] at ran
  cases reply with
  | ok _ =>
    cases ran
    rfl
  | error _ =>
    cases ran
    rfl

/-- After a deferral, a plan that fails is followed by the failure message, if it can be rendered. -/
theorem executePreparedEvent_deferred {prepared : PreparedEventExecution} (deferred : prepared.leadingDeferEphemeral = true)
    {failureMessage : String} {result : Except AdapterError Unit}
    (ran : executePreparedEvent services.logged quote prepared failureMessage (behind, log) = (result, (last, log'))) :
    ∃ reply done rest drawn entries start finish tail, prepared.plan.steps = done ++ rest ∧
      log' = log ++ .deferEphemeral reply :: (drawn ++ entries ++ tail) ∧
      (∀ entry ∈ drawn, ∃ reply, entry = .generate reply) ∧ Effects done start entries finish ∧
      (result.isOk = true ↔ rest = []) ∧
      ((rest ≠ [] ∧ ∃ content reply, renderText quote failureMessage prepared.context .ephemeralMessageContent = .ok content ∧
          tail = [.editResponse content reply]) ∨
        tail = [] ∧ (rest = [] ∨ ∃ error,
          renderText quote failureMessage prepared.context .ephemeralMessageContent = .error error)) := by
  obtain ⟨_, between, called⟩ := infallible.deferEphemeral behind
  have called : services.logged.deferEphemeral (behind, log) = (.ok (), (between, log ++ [.deferEphemeral (.ok ())])) :=
    logged_eq.mpr ⟨called, rfl⟩
  rcases outcome : executePlan services.logged quote prepared.context prepared.plan
    (between, log ++ [.deferEphemeral (.ok ())]) with ⟨reply, last', noted⟩
  obtain ⟨done, rest, drawn, entries, start, finish, split_, rfl, only, effects, returns⟩ :=
    executePlan_done infallible outcome
  simp only [executePreparedEvent, deferred, ↓reduceIte] at ran
  have ran := (bind_of_ok called _).symm.trans ran
  rw [outcome] at ran
  cases reply with
  | ok _ =>
    cases ran
    have complete : rest = [] := returns.mp rfl
    exact ⟨.ok (), done, rest, drawn, entries, start, finish, [], split_, by simp, only, effects, returns,
      .inr ⟨rfl, .inl complete⟩⟩
  | error error =>
    have cut : rest ≠ [] := fun complete => by cases returns.mpr complete
    cases rendered : renderText quote failureMessage prepared.context .ephemeralMessageContent with
    | ok content =>
      rw [rendered] at ran
      cases ran
      exact ⟨.ok (), done, rest, drawn, entries, start, finish,
        [.editResponse content (services.editResponse content last').1], split_, by simp, only, effects, returns,
        .inl ⟨cut, content, _, rfl, rfl⟩⟩
    | error unrendered =>
      rw [rendered] at ran
      cases ran
      exact ⟨.ok (), done, rest, drawn, entries, start, finish, [], split_, by simp, only, effects, returns,
        .inr ⟨rfl, .inr ⟨unrendered, rfl⟩⟩⟩

end Runs

/-- The interaction is answered in this way by one of the calls. -/
def Responded (kind : ResponseKind) (log : List ServiceEvent) : Prop := ∃ entry ∈ log, entry.response? = some kind

/-- How often the interaction is answered for the first time. -/
def initialResponses (log : List ServiceEvent) : Nat :=
  log.countP fun entry => entry.response?.any ResponseKind.isInitial

/-- An edit comes after a deferral, and nothing comes after it. -/
def EditsLast (log : List ServiceEvent) : Prop :=
  ∀ before entry after, log = before ++ entry :: after → entry.response? = some .edit →
    after = [] ∧ Responded .deferral before

section Logs
variable {log : List ServiceEvent}

theorem initialResponses_append (log entries : List ServiceEvent) :
    initialResponses (log ++ entries) = initialResponses log + initialResponses entries :=
  countP_append

theorem initialResponses_silent (silent : ∀ entry ∈ log, entry.response? = none) : initialResponses log = 0 := by
  refine countP_eq_zero.mpr fun entry mem => ?_
  rw [silent entry mem]
  simp

theorem initialResponses_deferred {reply : Except AdapterError Unit} {quiet final : List ServiceEvent}
    (silent : ∀ entry ∈ quiet, entry.response? = none) (edits : ∀ entry ∈ final, entry.response? = some .edit) :
    initialResponses (.deferEphemeral reply :: (quiet ++ final)) = 1 := by
  have later : initialResponses final = 0 := by
    refine countP_eq_zero.mpr fun entry mem => ?_
    rw [edits entry mem]
    decide
  have rest : initialResponses (quiet ++ final) = 0 := by
    rw [initialResponses_append, initialResponses_silent silent, later]
  rw [initialResponses, countP_cons_of_pos (by rfl), ← initialResponses, rest]

theorem editsLast_of_unedited (unedited : ∀ entry ∈ log, entry.response? ≠ some .edit) : EditsLast log := by
  rintro before entry after rfl edit
  exact absurd edit (unedited entry (mem_append_right _ mem_cons_self))

theorem editsLast_of_silent {first final : ServiceEvent} {middle : List ServiceEvent}
    (deferral : first.response? = some .deferral) (silent : ∀ entry ∈ middle, entry.response? = none) :
    EditsLast (first :: (middle ++ [final])) := by
  intro before entry after split_ edit
  cases before with
  | nil =>
    cases split_
    cases deferral.symm.trans edit
  | cons head before =>
    obtain ⟨rfl, inner⟩ := List.cons.inj split_
    obtain rfl | ⟨more, last, rfl⟩ := eq_nil_or_concat' after
    · exact ⟨rfl, first, mem_cons_self, deferral⟩
    · have inner : middle ++ [final] = (before ++ entry :: more) ++ [last] := by simpa using inner
      obtain ⟨rfl, -⟩ := append_inj' inner rfl
      have none := silent entry (mem_append_right _ mem_cons_self)
      cases none.symm.trans edit

theorem drawn_silent {drawn : List ServiceEvent} (only : ∀ entry ∈ drawn, ∃ reply, entry = .generate reply) :
    ∀ entry ∈ drawn, entry.response? = none := by
  intro entry mem
  obtain ⟨reply, rfl⟩ := only entry mem
  rfl

end Logs

section Events
variable {σ : Type} {services : AutomationServices σ} {quote : String → String} {event : RuntimeEvent}
  {ruleset : InteractionRuleSet} {bindings : ResourceBindingMap} {identity : RunningRuleSetIdentity}
  {prepared : PreparedEventExecution}

/-- The actions of the rule that an event triggers answer as the steps do; a deferral is taken off the plan. -/
theorem prepared_rule (ready : prepareEventExecution event ruleset bindings identity = .ok (some prepared)) :
    ∃ rule, ruleset.rules.find? (fun rule => triggerMatches rule.trigger event.kind) = some rule ∧
      (prepared.leadingDeferEphemeral = true ∧ rule.actions.map ActionSpec.response? =
          some .deferral :: prepared.plan.steps.map PlannedAction.response? ∨
        prepared.leadingDeferEphemeral = false ∧ rule.actions.head? ≠ some .deferEphemeral ∧
          rule.actions.map ActionSpec.response? = prepared.plan.steps.map PlannedAction.response?) := by
  obtain ⟨context, plan, planned, rfl⟩ := prepareEventExecution_plan ready
  obtain ⟨rule, found, planned⟩ := Option.bind_eq_some_iff.mp planned
  obtain ⟨mapped, actions, rfl⟩ := Option.map_eq_some_iff.mp planned
  obtain ⟨-, steps⟩ := PreparedEventExecution.ofPlan_eq context { steps := mapped }
  have kinds := congrArg (List.map PlannedAction.response?) steps
  rw [map_planned (fun _ _ => interpretAction_response) actions, map_append] at kinds
  refine ⟨rule, found, ?_⟩
  cases leading : (PreparedEventExecution.ofPlan context { steps := mapped }).leadingDeferEphemeral with
  | true =>
    rw [leading] at kinds
    exact .inl ⟨rfl, kinds⟩
  | false =>
    rw [leading] at kinds
    refine .inr ⟨rfl, fun begins => ?_, kinds⟩
    obtain ⟨rest, same⟩ := head?_eq_some_iff.mp begins
    rw [same, mapM_cons] at actions
    obtain ⟨step, first, rest⟩ := Option.bind_eq_some_iff.mp actions
    obtain ⟨later, -, planned⟩ := Option.bind_eq_some_iff.mp rest
    cases planned
    cases first
    exact PreparedEventExecution.ofPlan_direct leading rfl

theorem countP_initial {actions : List ActionSpec} (undeferred : ∀ action ∈ actions, action.response? ≠ some .deferral) :
    (actions.map ActionSpec.response?).countP (fun kind => kind.any ResponseKind.isInitial) =
      actions.countP ActionSpec.isOtherInitial := by
  rw [countP_map]
  refine countP_congr fun action mem => ?_
  have other := undeferred action mem
  cases action <;> simp_all [ActionSpec.response?, ActionSpec.isOtherInitial, ResponseKind.isInitial]

theorem direct_log {actions : List ActionSpec} {steps done rest : List PlannedAction} {drawn entries : List ServiceEvent}
    {start finish : ExecutionState} (split_ : steps = done ++ rest)
    (kinds : actions.map ActionSpec.response? = steps.map PlannedAction.response?)
    (plain : ∀ action ∈ actions, action.response? ≠ some .deferral ∧ action.response? ≠ some .edit)
    (only : ∀ entry ∈ drawn, ∃ reply, entry = .generate reply) (effects : Effects done start entries finish) :
    (∀ entry ∈ drawn ++ entries, entry.response? ≠ some .deferral ∧ entry.response? ≠ some .edit) ∧
      initialResponses (drawn ++ entries) ≤ actions.countP ActionSpec.isOtherInitial := by
  rw [split_, map_append, ← effects.responses] at kinds
  constructor
  · intro entry mem
    obtain mem | mem := mem_append.mp mem
    · rw [drawn_silent only entry mem]
      exact ⟨nofun, nofun⟩
    · obtain ⟨action, held, same⟩ : ∃ action ∈ actions, action.response? = entry.response? :=
        mem_map.mp (kinds ▸ mem_append_left _ (mem_map_of_mem mem))
      exact same ▸ plain action held
  · calc initialResponses (drawn ++ entries)
      _ = initialResponses entries := by rw [initialResponses_append, initialResponses_silent (drawn_silent only), Nat.zero_add]
      _ = (entries.map ServiceEvent.response?).countP (fun kind => kind.any ResponseKind.isInitial) := by
        rw [countP_map]
        rfl
      _ ≤ (actions.map ActionSpec.response?).countP (fun kind => kind.any ResponseKind.isInitial) := by
        rw [kinds, countP_append]
        exact Nat.le_add_right _ _
      _ = actions.countP ActionSpec.isOtherInitial := countP_initial fun action mem => (plain action mem).1

theorem deferred_log {steps done rest : List PlannedAction} {middle : List ActionSpec} {drawn entries tail : List ServiceEvent}
    {start finish : ExecutionState} (split_ : steps = done ++ rest)
    (kinds : steps.map PlannedAction.response? = middle.map ActionSpec.response? ++ [some .edit])
    (silent : ∀ action ∈ middle, action.response? = none) (only : ∀ entry ∈ drawn, ∃ reply, entry = .generate reply)
    (effects : Effects done start entries finish)
    (after : tail = [] ∨ rest ≠ [] ∧ ∃ content reply, tail = [.editResponse content reply]) :
    ∃ quiet final, drawn ++ entries ++ tail = quiet ++ final ∧ (∀ entry ∈ quiet, entry.response? = none) ∧
      (final = [] ∧ tail = [] ∧ rest ≠ [] ∨ ∃ entry, final = [entry] ∧ entry.response? = some .edit) := by
  have quiet : ∀ kept : List ServiceEvent, (∀ entry ∈ kept, entry.response? ∈ middle.map ActionSpec.response?) →
      ∀ entry ∈ drawn ++ kept, entry.response? = none := by
    intro kept listed entry mem
    obtain mem | mem := mem_append.mp mem
    · exact drawn_silent only entry mem
    · obtain ⟨action, held, same⟩ := mem_map.mp (listed entry mem)
      exact same ▸ silent action held
  obtain rfl | ⟨more, last, rfl⟩ := eq_nil_or_concat' rest
  · obtain rfl : tail = [] := after.resolve_right fun cut => cut.1 rfl
    rw [append_nil] at split_
    rw [split_, ← effects.responses] at kinds
    obtain ⟨kept, final, rfl, early, late⟩ := map_eq_append_iff.mp kinds
    obtain ⟨entry, rfl, edit⟩ := map_eq_singleton_iff.mp late
    refine ⟨drawn ++ kept, [entry], by simp, quiet kept fun other mem => ?_, .inr ⟨entry, rfl, edit⟩⟩
    exact early ▸ mem_map_of_mem mem
  · have early : done.map PlannedAction.response? ++ more.map PlannedAction.response? = middle.map ActionSpec.response? := by
      rw [split_, ← append_assoc, map_append, map_append] at kinds
      exact (append_inj' kinds rfl).1
    refine ⟨drawn ++ entries, tail, rfl, quiet entries fun entry mem => ?_, ?_⟩
    · rw [← early, ← effects.responses]
      exact mem_append_left _ (mem_map_of_mem mem)
    · obtain rfl | ⟨cut, content, reply, rfl⟩ := after
      · exact .inl ⟨rfl, rfl, by simp⟩
      · exact .inr ⟨_, rfl, rfl⟩

/-- The responses to an event. One initial response is made if the rule has no more than one action that
replies; an edit is the last call, after a deferral; a deferral is edited, unless the plan fails
and the failure message cannot be rendered. -/
theorem responses_disciplined (infallible : services.Infallible) (accepted : validateStructural ruleset = .ok ())
    (ready : prepareEventExecution event ruleset bindings identity = .ok (some prepared)) {failureMessage : String}
    {behind last : σ} {log : List ServiceEvent} {result : Except AdapterError Unit}
    (ran : executePreparedEvent services.logged quote prepared failureMessage (behind, []) = (result, (last, log))) :
    ∃ rule, ruleset.rules.find? (fun rule => triggerMatches rule.trigger event.kind) = some rule ∧
      (rule.actions.countP ActionSpec.isOtherInitial ≤ 1 → initialResponses log ≤ 1) ∧ EditsLast log ∧
      ((result.isOk = true ∨
          ∃ content, renderText quote failureMessage prepared.context .ephemeralMessageContent = .ok content) →
        Responded .deferral log → Responded .edit log) := by
  obtain ⟨rule, found, shape⟩ := prepared_rule ready
  obtain ⟨modals, -, rules⟩ := exists_accepted accepted
  have answers := answers_of_check (rules rule (mem_of_find?_eq_some found)).responses
  refine ⟨rule, found, ?_⟩
  generalize rule.actions = actions at shape answers
  cases answers with
  | direct actions plain =>
    obtain ⟨-, kinds⟩ | ⟨direct, -, kinds⟩ := shape
    · obtain ⟨action, mem, deferral⟩ : ∃ action ∈ actions, action.response? = some .deferral :=
        mem_map.mp (kinds ▸ mem_cons_self)
      exact absurd deferral (plain action mem).1
    · obtain ⟨done, rest, drawn, entries, start, finish, split_, rfl, only, effects⟩ :=
        executePreparedEvent_direct infallible direct ran
      obtain ⟨plainly, counted⟩ := direct_log split_ kinds plain only effects
      refine ⟨counted.trans, editsLast_of_unedited fun entry mem => (plainly entry mem).2, ?_⟩
      rintro - ⟨entry, mem, deferral⟩
      exact absurd deferral (plainly entry mem).1
  | deferred middle content silent =>
    obtain ⟨deferred, kinds⟩ | ⟨-, direct, -⟩ := shape
    · obtain ⟨reply, done, rest, drawn, entries, start, finish, tail, split_, rfl, only, effects, returns, after⟩ :=
        executePreparedEvent_deferred infallible deferred ran
      have kinds : prepared.plan.steps.map PlannedAction.response? = middle.map ActionSpec.response? ++ [some .edit] := by
        simpa [ActionSpec.response?] using (List.cons.inj kinds).2.symm
      obtain ⟨quiet, final, same, none, last⟩ := deferred_log split_ kinds silent only effects
        (after.symm.imp And.left fun failed => ⟨failed.1, failed.2.imp fun _ => Exists.imp fun _ => And.right⟩)
      rw [nil_append, same]
      obtain ⟨rfl, rfl, cut⟩ | ⟨entry, rfl, edit⟩ := last
      · refine ⟨fun _ => (initialResponses_deferred none (by simp)).le, editsLast_of_unedited ?_, fun answered _ => ?_⟩
        · intro other mem edit
          rw [append_nil] at mem
          obtain rfl | mem := mem_cons.mp mem
          · cases edit
          · cases (none other mem).symm.trans edit
        · obtain ⟨-, content, reply, -, same⟩ | ⟨-, complete | ⟨error, unrendered⟩⟩ := after
          · cases same
          · exact absurd complete cut
          · obtain ok | ⟨content, rendered⟩ := answered
            · exact absurd (returns.mp ok) cut
            · cases unrendered.symm.trans rendered
      · refine ⟨fun _ => (initialResponses_deferred none ?_).le, editsLast_of_silent rfl none, fun _ _ => ?_⟩
        · simpa using edit
        · exact ⟨entry, by simp, edit⟩
    · exact absurd rfl direct

end Events

def onOpen (actions : List ActionSpec) : InteractionRuleSet :=
  { openingRoom [] with rules := [{ key := "open", trigger := .buttonClick "open", actions }] }

/-- What is carried out when the button is clicked. -/
def openedBy (steps : List PlannedAction) : PreparedEventExecution :=
  .ofPlan (RuntimeContext.fromEvent opening roomRules) { steps }

/-- The responses that are made, with a failure message. -/
def responsesOf (failureMessage : String) (prepared : PreparedEventExecution) : List ResponseKind :=
  (executePreparedEvent countingServices.logged id prepared failureMessage (0, [])).2.2.filterMap ServiceEvent.response?

/-- A rule may reply twice. A deferral may stay unedited, here because the role has no name and the
failure message asks for an input that is not there. -/
theorem replies_twice_and_stays_deferred :
    (validateStructural (onOpen [.respondEphemeral "one", .respondEphemeral "two"]) = .ok () ∧
      prepareEventExecution opening (onOpen [.respondEphemeral "one", .respondEphemeral "two"]) lobbyBindings roomRules =
        .ok (some (openedBy [.respondEphemeral "one", .respondEphemeral "two"])) ∧
      responsesOf "failed" (openedBy [.respondEphemeral "one", .respondEphemeral "two"]) = [.reply, .reply]) ∧
    validateStructural (onOpen [.deferEphemeral, .createRole "member" "\u0001", .editResponse "done"]) = .ok () ∧
      prepareEventExecution opening (onOpen [.deferEphemeral, .createRole "member" "\u0001", .editResponse "done"])
        lobbyBindings roomRules =
          .ok (some (openedBy [.deferEphemeral, .createRole "member" "\u0001", .editResponse "done"])) ∧
      responsesOf "$\x7binput.name\x7d" (openedBy [.deferEphemeral, .createRole "member" "\u0001", .editResponse "done"]) =
        [.deferral] :=
  ⟨⟨by decide +kernel, rfl, by decide +kernel⟩, by decide +kernel, rfl, by decide +kernel⟩

/-- A rule that defers and then edits its response. -/
def deferredRun : Except AdapterError Unit × Nat × List ServiceEvent :=
  executePreparedEvent countingServices.logged id (openedBy [.deferEphemeral, .editResponse "done"]) "failed" (0, [])

theorem deferred_opening_disciplined : initialResponses deferredRun.2.2 ≤ 1 ∧ EditsLast deferredRun.2.2 ∧
    (Responded .deferral deferredRun.2.2 → Responded .edit deferredRun.2.2) := by
  have ready : prepareEventExecution opening (onOpen [.deferEphemeral, .editResponse "done"]) lobbyBindings roomRules =
    .ok (some (openedBy [.deferEphemeral, .editResponse "done"])) := rfl
  obtain ⟨rule, found, single, last, edited⟩ := responses_disciplined countingServices_infallible (by decide +kernel) ready
    (show executePreparedEvent countingServices.logged id _ "failed" (0, []) = (deferredRun.1, deferredRun.2) from rfl)
  obtain rfl : InteractionRule.mk "open" (.buttonClick "open") [.deferEphemeral, .editResponse "done"] = rule :=
    Option.some.inj found
  exact ⟨single (by decide), last, edited (.inl (by decide +kernel))⟩

end Starring.Automation
