import Starring.Automation.Interpret

/-! What happens before a plan is carried out: the inputs of a submitted modal are checked
against its fields, and a deferral at the head of the plan is taken off. -/

namespace Starring.Automation
open Foundation
open Planning (ResourceBindingMap)

inductive AdapterErrorKind where
  | forbidden
  | notFound
  | rateLimited
  | network
  | unsupported
  | badRequest
  | invalidEventRoute
  | unknown
  deriving DecidableEq

structure AdapterError where
  kind : AdapterErrorKind
  message : String
  deriving DecidableEq

inductive ModalInputError where
  | modalDefinitionMissing (modal : String)
  | requiredMissing (modal field : String)
  | unexpected (modal field : String)
  | tooShort (modal field : String) (minLength : UInt16) (actualLength : Nat)
  | tooLong (modal field : String) (maxLength : UInt16) (actualLength : Nat)
  deriving DecidableEq

namespace ModalInputError

def code : ModalInputError → String
  | modalDefinitionMissing _ => "MODAL_INPUT_DEFINITION_MISSING"
  | requiredMissing _ _ => "MODAL_INPUT_MISSING"
  | unexpected _ _ => "MODAL_INPUT_UNEXPECTED"
  | tooShort _ _ _ _ => "MODAL_INPUT_TOO_SHORT"
  | tooLong _ _ _ _ => "MODAL_INPUT_TOO_LONG"

/-- `Display`. -/
def text (self : ModalInputError) : String :=
  self.code ++ match self with
    | modalDefinitionMissing modal => ": modal=" ++ modal
    | requiredMissing modal field | unexpected modal field => ": modal=" ++ modal ++ ", field=" ++ field
    | tooShort modal field minLength actualLength =>
      ": modal=" ++ modal ++ ", field=" ++ field ++ ", min_length=" ++ toString minLength ++ ", actual_length=" ++
        toString actualLength
    | tooLong modal field maxLength actualLength =>
      ": modal=" ++ modal ++ ", field=" ++ field ++ ", max_length=" ++ toString maxLength ++ ", actual_length=" ++
        toString actualLength

end ModalInputError

/-- `str::trim`. -/
def trim (value : String) : String :=
  String.ofList ((value.toList.dropWhile isWhitespace).rdropWhile isWhitespace)

def ModalInputPolicy.normalize (self : ModalInputPolicy) (value : String) : String :=
  match self with
  | preserve => value
  | trimUnicodeWhitespace => trim value

def modalInputUtf16Len (value : String) : Nat :=
  (value.toList.map fun char => if char.toNat < 0x10000 then 1 else 2).sum

def normalizeField (modal : ModalSpec) (inputs normalized : StringMap String) (field : ModalFieldSpec) :
    Except ModalInputError (StringMap String) :=
  match inputs[field.key]? with
  | none =>
    if field.required then .error (.requiredMissing modal.key field.key)
    else .ok (normalized.insert field.key "")
  | some value => do
    let value := field.inputPolicy.normalize value
    if value = "" then
      if field.required then .error (.requiredMissing modal.key field.key)
      else .ok (normalized.insert field.key value)
    else do
      let actualLength := modalInputUtf16Len value
      match field.minLength with
      | some minLength =>
        rejectIf (actualLength < minLength.toNat) (.tooShort modal.key field.key minLength actualLength)
      | none => .ok ()
      let maxLength := field.maxLength.getD discordModalInputMaxLength
      rejectIf (actualLength > maxLength.toNat) (.tooLong modal.key field.key maxLength actualLength)
      .ok (normalized.insert field.key value)

def normalizeInputs (modal : ModalSpec) (inputs : StringMap String) : Except ModalInputError (StringMap String) :=
  let expected := modal.fields.map ModalFieldSpec.key
  match inputs.keys.find? fun field => field ∉ expected with
  | some field => .error (.unexpected modal.key field)
  | none => modal.fields.foldlM (normalizeField modal inputs) ∅

def normalizeModalSubmitInputs (event : RuntimeEvent) (ruleset : InteractionRuleSet) :
    Except ModalInputError (Option (StringMap String)) :=
  match event.kind with
  | .modalSubmit modal inputs =>
    if ruleset.rules.any fun rule => rule.trigger = .modalSubmit modal then do
      let specification ← orReject (ruleset.modals.find? fun candidate => candidate.key == modal)
        (.modalDefinitionMissing modal)
      let normalized ← normalizeInputs specification inputs
      .ok (some normalized)
    else .ok none
  | .buttonClick _ | .instanceAction _ _ => .ok none

structure PreparedEventExecution where
  context : RuntimeContext
  plan : ActionPlan
  leadingDeferEphemeral : Bool

/-- A deferral at the head of the plan is taken off. -/
def PreparedEventExecution.ofPlan (context : RuntimeContext) (plan : ActionPlan) : PreparedEventExecution :=
  match plan.steps with
  | .deferEphemeral :: steps => { context, plan := { steps }, leadingDeferEphemeral := true }
  | _ => { context, plan, leadingDeferEphemeral := false }

def EventKind.isInstanceAction : EventKind → Bool
  | instanceAction _ _ => true
  | buttonClick _ | modalSubmit _ _ => false

def prepareEventExecution (event : RuntimeEvent) (ruleset : InteractionRuleSet) (bindings : ResourceBindingMap)
    (identity : RunningRuleSetIdentity) : Except AdapterError (Option PreparedEventExecution) := do
  rejectIf (event.kind.isInstanceAction = true)
    { kind := .invalidEventRoute, message := "InstanceAction must be dispatched via automation-ruleset-dispatch" }
  let normalizedInputs ← (normalizeModalSubmitInputs event ruleset).mapError fun error =>
    { kind := .badRequest, message := error.text }
  let context := RuntimeContext.fromEvent event identity
  let context := { context with inputs := normalizedInputs.getD context.inputs }
  .ok ((interpret event ruleset bindings).map (PreparedEventExecution.ofPlan context))

theorem PreparedEventExecution.ofPlan_eq (context : RuntimeContext) (plan : ActionPlan) :
    (ofPlan context plan).context = context ∧
      plan.steps = (if (ofPlan context plan).leadingDeferEphemeral then [.deferEphemeral] else []) ++
        (ofPlan context plan).plan.steps := by
  unfold ofPlan
  split
  · rename_i same
    exact ⟨rfl, same⟩
  · exact ⟨rfl, rfl⟩

theorem PreparedEventExecution.ofPlan_direct {context : RuntimeContext} {plan : ActionPlan}
    (direct : (ofPlan context plan).leadingDeferEphemeral = false) : plan.steps.head? ≠ some .deferEphemeral := by
  unfold ofPlan at direct
  split at direct
  · cases direct
  · rename_i other
    intro begins
    obtain ⟨steps, same⟩ := List.head?_eq_some_iff.mp begins
    exact other steps same

theorem prepareEventExecution_plan {event : RuntimeEvent} {ruleset : InteractionRuleSet} {bindings : ResourceBindingMap}
    {identity : RunningRuleSetIdentity} {prepared : PreparedEventExecution}
    (ok : prepareEventExecution event ruleset bindings identity = .ok (some prepared)) :
    ∃ context plan, interpret event ruleset bindings = some plan ∧ prepared = PreparedEventExecution.ofPlan context plan := by
  obtain ⟨routed, ok⟩ := check_bind_eq_ok.mp ok
  obtain ⟨normalized, -, ok⟩ := bind_eq_ok.mp ok
  obtain ⟨plan, interpreted, rfl⟩ := Option.map_eq_some_iff.mp (Except.ok.inj ok)
  exact ⟨_, plan, interpreted, rfl⟩

theorem prepareEventExecution_ok {event : RuntimeEvent} {ruleset : InteractionRuleSet} {bindings : ResourceBindingMap}
    {identity : RunningRuleSetIdentity} {prepared : PreparedEventExecution}
    (ok : prepareEventExecution event ruleset bindings identity = .ok (some prepared)) :
    event.kind.isInstanceAction = false ∧ prepared.context.resolvedInstance = none ∧
      ∃ plan, interpret event ruleset bindings = some plan ∧
        plan.steps = (if prepared.leadingDeferEphemeral then [.deferEphemeral] else []) ++ prepared.plan.steps := by
  obtain ⟨routed, ok⟩ := check_bind_eq_ok.mp ok
  obtain ⟨normalized, -, ok⟩ := bind_eq_ok.mp ok
  obtain ⟨plan, interpreted, rfl⟩ := Option.map_eq_some_iff.mp (Except.ok.inj ok)
  obtain ⟨context, steps⟩ := PreparedEventExecution.ofPlan_eq
    { RuntimeContext.fromEvent event identity with
      inputs := normalized.getD (RuntimeContext.fromEvent event identity).inputs } plan
  exact ⟨by simpa using routed, by rw [context]; rfl, plan, interpreted, steps⟩

end Starring.Automation
