import Starring.Automation.References

/-! Rendering the texts of a plan. The checks of a ruleset compare the variables of a text with
the fields of the modal that triggers its rule, and the inputs of a submitted modal are completed
to one value per field before the plan is carried out. -/

namespace Starring.Automation
open Foundation List Option
open Planning (ResourceBindingMap)

/-- The errors that are about the rendered text, not about its template. -/
inductive TemplateError.OfText : TemplateError → Prop where
  | tooLong (limit actual : Nat) : OfText (.tooLong limit actual)
  | emptyAfterSanitize : OfText .emptyAfterSanitize

section Templates
variable {inputs : StringMap String}

theorem exists_filled {segments : List Segment} (supplied : ∀ key, Segment.input key ∈ segments → key ∈ inputs) :
    ∃ out, segments.mapM (Segment.fill inputs) = .ok out := by
  induction segments with
  | nil => exact ⟨[], rfl⟩
  | cons segment segments ih =>
    obtain ⟨later, filled⟩ := ih fun key mem => supplied key (mem_cons_of_mem _ mem)
    have here : ∃ text, segment.fill inputs = .ok text := by
      cases segment with
      | literal text => exact ⟨text, rfl⟩
      | input key =>
        obtain ⟨value, found⟩ := exists_of_mem (supplied key mem_cons_self)
        exact ⟨value, orReject_eq_ok.mpr found⟩
    obtain ⟨text, here⟩ := here
    rw [mapM_cons]
    exact ⟨text :: later, bind_eq_ok.mpr ⟨text, here, bind_eq_ok.mpr ⟨later, filled, rfl⟩⟩⟩

theorem TemplateString.mem_inputKeys {template : TemplateString} {key : String} :
    key ∈ template.inputKeys ↔ Segment.input key ∈ template.segments := by
  rw [inputKeys, mem_filterMap]
  constructor
  · rintro ⟨segment, mem, same⟩
    cases segment <;> cases same
    exact mem
  · intro mem
    exact ⟨_, mem, rfl⟩

/-- With a value for each of its variables, a template can only fail on the text that comes out. -/
theorem TemplateString.render_error {template : TemplateString} (supplied : ∀ key ∈ template.inputKeys, key ∈ inputs)
    {context : SanitizeContext} {error : TemplateError} (failed : template.render inputs context = .error error) :
    error.OfText := by
  obtain ⟨out, filled⟩ := exists_filled fun key mem => supplied key (mem_inputKeys.mpr mem)
  rw [render, filled] at failed
  change (sanitize (String.join out) context >>= _) = _ at failed
  unfold sanitize at failed
  dsimp only at failed
  split at failed
  · cases failed
    exact .emptyAfterSanitize
  · change (if _ then _ else _) = _ at failed
    split at failed
    · cases failed
      exact .tooLong _ _
    · cases failed

end Templates

section Fields
variable {modal : ModalSpec} {inputs : StringMap String}

theorem normalizeField_ok {normalized result : StringMap String} {field : ModalFieldSpec}
    (ok : normalizeField modal inputs normalized field = .ok result) :
    ∃ value, result = normalized.insert field.key value := by
  unfold normalizeField at ok
  split at ok
  · split at ok
    · cases ok
    · exact ⟨_, (Except.ok.inj ok).symm⟩
  · dsimp only at ok
    split at ok
    · split at ok
      · cases ok
      · exact ⟨_, (Except.ok.inj ok).symm⟩
    · split at ok
      all_goals
        obtain ⟨-, ok⟩ := check_bind_eq_ok.mp ok
        obtain ⟨-, ok⟩ := check_bind_eq_ok.mp ok
        exact ⟨_, (Except.ok.inj ok).symm⟩

theorem foldlM_normalizeField {fields : List ModalFieldSpec} {start result : StringMap String}
    (ok : fields.foldlM (normalizeField modal inputs) start = .ok result) :
    (∀ key ∈ start, key ∈ result) ∧ ∀ field ∈ fields, field.key ∈ result := by
  induction fields generalizing start with
  | nil =>
    cases ok
    simp
  | cons field fields ih =>
    rw [foldlM_cons] at ok
    obtain ⟨next, here, ok⟩ := bind_eq_ok.mp ok
    obtain ⟨value, rfl⟩ := normalizeField_ok here
    obtain ⟨kept, supplied⟩ := ih ok
    have inserted : ∀ key, field.key = key ∨ key ∈ start → key ∈ result := fun key held =>
      kept key (by simpa [Std.ExtTreeMap.mem_insert] using held)
    refine ⟨fun key mem => inserted key (.inr mem), fun other mem => ?_⟩
    obtain rfl | mem := mem_cons.mp mem
    · exact inserted _ (.inl rfl)
    · exact supplied other mem

/-- Every field of a modal has a value, also the fields that were left out. -/
theorem normalizeInputs_ok {result : StringMap String} (ok : normalizeInputs modal inputs = .ok result) :
    ∀ field ∈ modal.fields, field.key ∈ result := by
  unfold normalizeInputs at ok
  dsimp only at ok
  split at ok
  · cases ok
  · exact (foldlM_normalizeField ok).2

end Fields

section Declared
variable {modals : List ModalSpec} {start last : ModalKeys}

theorem mem_checkModalFields (modal : ModalSpec) (fields : List ModalFieldSpec) (seen : List String) (key : String) :
    key ∈ (auditEach (checkModalField modal) fields seen).2 ↔ key ∈ seen ∨ key ∈ fields.map ModalFieldSpec.key := by
  induction fields generalizing seen with
  | nil => simp [auditEach]
  | cons field fields ih =>
    rw [auditEach]
    dsimp only
    rw [ih, map_cons, mem_cons]
    simp only [checkModalField, insertKey, mem_cons]
    tauto

theorem checkModal_clean {modal : ModalSpec} (clean : checkModal modal start = ([], last)) :
    modal.key ∉ start.modalKeys ∧ last.modalKeys = modal.key :: start.modalKeys ∧
      last.modalFields = start.modalFields.insert modal.key (auditEach (checkModalField modal) modal.fields []).2 := by
  simp only [checkModal, insertKey, Prod.mk.injEq, append_eq_nil_iff, reportIf_eq_nil] at clean
  obtain ⟨⟨fresh, -⟩, rfl⟩ := clean
  exact ⟨fresh, rfl, rfl⟩

theorem checkModals_kept (clean : auditEach checkModal modals start = ([], last)) {key : String}
    (seen : key ∈ start.modalKeys) : last.modalFields[key]? = start.modalFields[key]? := by
  induction modals generalizing start with
  | nil =>
    cases clean
    rfl
  | cons modal modals ih =>
    obtain ⟨next, here, later⟩ := auditEach_cons.mp clean
    obtain ⟨fresh, keys, fields⟩ := checkModal_clean here
    rw [ih later (keys ▸ mem_cons_of_mem _ seen), fields]
    refine getElem?_insert_of_ne ?_
    rintro rfl
    exact fresh seen

theorem declared_fields (clean : auditEach checkModal modals start = ([], last)) {modal : ModalSpec} (mem : modal ∈ modals)
    {key : String} : key ∈ last.modalFields[modal.key]?.getD [] ↔ key ∈ modal.fields.map ModalFieldSpec.key := by
  induction modals generalizing start with
  | nil => cases mem
  | cons first modals ih =>
    obtain ⟨next, here, later⟩ := auditEach_cons.mp clean
    obtain rfl | mem := mem_cons.mp mem
    · obtain ⟨fresh, keys, fields⟩ := checkModal_clean here
      rw [checkModals_kept later (keys ▸ mem_cons_self), fields, Std.ExtTreeMap.getElem?_insert_self,
        getD_some, mem_checkModalFields]
      simp
    · exact ih later mem

end Declared

section Plans
variable {ruleset : InteractionRuleSet} {event : RuntimeEvent} {bindings : ResourceBindingMap}
  {identity : RunningRuleSetIdentity} {prepared : PreparedEventExecution}

theorem checkTemplate_clean {rule : InteractionRule} {fields : StringMap (List String)} {content : String}
    (clean : checkTemplate rule fields content = []) :
    ∃ template, TemplateString.parse content = .ok template ∧ ∀ key ∈ template.inputKeys,
      ∃ modal, rule.trigger = .modalSubmit modal ∧ key ∈ fields[modal]?.getD [] := by
  unfold checkTemplate at clean
  split at clean
  · cases clean
  · rename_i template parsed
    refine ⟨template, parsed, fun key mem => ?_⟩
    have checked := flatMap_eq_nil_iff.mp clean key mem
    cases trigger : rule.trigger with
    | modalSubmit modal =>
      rw [trigger] at checked
      exact ⟨modal, rfl, not_not.mp ((reportIf_eq_nil _ _).mp checked)⟩
    | buttonClick | instanceAction =>
      rw [trigger] at checked
      cases checked

theorem checked_text {rule : InteractionRule} {modals : ModalKeys} {created : StringMap CreatedKind} {action : ActionSpec}
    {step : PlannedAction} (planned : interpretAction event ruleset bindings action = some step)
    (clean : (checkAction rule modals action created).1 = []) {text : String × SanitizeContext}
    (shown : step.text? = some text) : checkTemplate rule modals.modalFields text.1 = [] := by
  cases action with
  | grantRole | openModal =>
    obtain ⟨_, -, rfl⟩ := map_eq_some_iff.mp planned
    cases shown
  | upsertOverwrite =>
    obtain ⟨_, -, planned⟩ := bind_eq_some_iff.mp planned
    obtain ⟨_, -, planned⟩ := bind_eq_some_iff.mp planned
    cases planned
    cases shown
  | deferEphemeral | registerInstance | teardownInstance =>
    cases planned
    cases shown
  | postPanel =>
    obtain ⟨_, -, rfl⟩ := map_eq_some_iff.mp planned
    cases shown
    exact (append_eq_nil_iff.mp clean).2
  | respondEphemeral | createChannel | createRole =>
    cases planned
    cases shown
    exact (append_eq_nil_iff.mp clean).2
  | editResponse =>
    cases planned
    cases shown
    exact clean

theorem prepareEventExecution_inputs (ok : prepareEventExecution event ruleset bindings identity = .ok (some prepared)) :
    ∃ normalized, normalizeModalSubmitInputs event ruleset = .ok normalized ∧
      prepared.context.inputs = normalized.getD (RuntimeContext.fromEvent event identity).inputs := by
  obtain ⟨-, ok⟩ := check_bind_eq_ok.mp ok
  obtain ⟨normalized, inputs, ok⟩ := bind_eq_ok.mp ok
  obtain ⟨plan, -, rfl⟩ := map_eq_some_iff.mp (Except.ok.inj ok)
  refine ⟨normalized, mapError_eq_ok.mp inputs, ?_⟩
  rw [(PreparedEventExecution.ofPlan_eq _ plan).1]

/-- A modal that has a rule is declared, and what has been submitted is completed by its fields. -/
theorem normalizeModalSubmitInputs_ok {modal : String} {inputs : StringMap String} {normalized : Option (StringMap String)}
    (submitted : event.kind = .modalSubmit modal inputs) {rule : InteractionRule} (mem : rule ∈ ruleset.rules)
    (trigger : rule.trigger = .modalSubmit modal) (ok : normalizeModalSubmitInputs event ruleset = .ok normalized) :
    ∃ specification ∈ ruleset.modals, specification.key = modal ∧
      ∃ completed, normalized = some completed ∧ ∀ field ∈ specification.fields, field.key ∈ completed := by
  have triggered : (ruleset.rules.any fun rule => rule.trigger = .modalSubmit modal) = true :=
    any_eq_true.mpr ⟨rule, mem, decide_eq_true trigger⟩
  rw [normalizeModalSubmitInputs, submitted] at ok
  dsimp only at ok
  rw [if_pos triggered] at ok
  obtain ⟨specification, found, ok⟩ := orReject_bind_eq_ok.mp ok
  obtain ⟨completed, inputs, ok⟩ := bind_eq_ok.mp ok
  exact ⟨specification, mem_of_find?_eq_some found, by simpa using find?_some found,
    completed, (Except.ok.inj ok).symm, normalizeInputs_ok inputs⟩

/-- Every variable in the texts of a plan has a value, so that rendering one can only fail on what comes out. -/
theorem validated_texts_render (accepted : validateStructural ruleset = .ok ())
    (ready : prepareEventExecution event ruleset bindings identity = .ok (some prepared)) {step : PlannedAction}
    (mem : step ∈ prepared.plan.steps) {source : String} {shownAs : SanitizeContext}
    (shown : step.text? = some (source, shownAs)) :
    ∃ template, TemplateString.parse source = .ok template ∧
      ∀ context error, template.render prepared.context.inputs context = .error error → error.OfText := by
  obtain ⟨modals, declared, passed⟩ := exists_accepted accepted
  obtain ⟨-, -, plan, planned, steps⟩ := prepareEventExecution_ok ready
  obtain ⟨rule, listed, triggered, planned⟩ := interpret_rule planned
  have stepwise : plan.steps.map some = rule.actions.map (interpretAction event ruleset bindings) :=
    map_planned (fun _ _ made => made.symm) planned
  have held : some step ∈ plan.steps.map some := mem_map_of_mem (steps ▸ mem_append_right _ mem)
  obtain ⟨action, performed, made⟩ := mem_map.mp (stepwise ▸ held)
  obtain ⟨created, after, clean⟩ := exists_of_mem_audit (Prod.ext (passed rule listed).actions rfl) performed
  obtain ⟨template, parsed, known⟩ := checkTemplate_clean (checked_text made (congrArg Prod.fst clean) shown)
  refine ⟨template, parsed, fun context error failed => ?_⟩
  refine TemplateString.render_error (fun key used => ?_) failed
  obtain ⟨modal, trigger, named⟩ := known key used
  rw [trigger] at triggered
  obtain ⟨normalized, inputs, same⟩ := prepareEventExecution_inputs ready
  cases kind : event.kind with
  | buttonClick | instanceAction =>
    rw [kind] at triggered
    cases triggered
  | modalSubmit other given =>
    rw [kind] at triggered
    obtain rfl : modal = other := by simpa [triggerMatches] using triggered
    obtain ⟨specification, found, rfl, completed, rfl, supplied⟩ :=
      normalizeModalSubmitInputs_ok kind listed trigger inputs
    obtain ⟨field, mem, rfl⟩ := mem_map.mp ((declared_fields declared found).mp named)
    rw [same]
    exact supplied field mem

end Plans

/-- A modal whose optional field is shown, and which may be left empty. -/
def greetingRules : InteractionRuleSet where
  version := 1
  panels := []
  modals := [{ key := "greet", title := "greet", fields := [⟨"name", "name", .short, false, none, none, .preserve⟩] }]
  rules := [{ key := "greet", trigger := .modalSubmit "greet", actions := [.respondEphemeral "hi $\x7binput.name\x7d"] }]

def greetingEvent : RuntimeEvent where
  guildId := ⟨1⟩
  actor := ⟨2⟩
  kind := .modalSubmit "greet" ∅

theorem greeting_renders :
    validateStructural greetingRules = .ok () ∧
      ∃ prepared, prepareEventExecution greetingEvent greetingRules { roleBindings := ∅, channelBindings := ∅ }
          { key := "rs", version := ⟨⟨1, Nat.one_pos, NonZeroU32.one_bounded⟩⟩ } = .ok (some prepared) ∧
        ∃ template, TemplateString.parse "hi $\x7binput.name\x7d" = .ok template ∧
          ∀ context error, template.render prepared.context.inputs context = .error error → error.OfText := by
  have accepted : validateStructural greetingRules = .ok () := by decide +kernel
  refine ⟨accepted, _, rfl, ?_⟩
  exact @validated_texts_render _ greetingEvent { roleBindings := ∅, channelBindings := ∅ } _ _ accepted rfl _ mem_cons_self _ _ rfl

end Starring.Automation
