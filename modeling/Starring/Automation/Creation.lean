import Starring.Automation.Execute
import Starring.Foundation.Maps

/-! What the actions of a rule create. An action, the step it is planned as and the prepared
step agree on the key and the kind of it, and the checks record it in a table. -/

namespace Starring.Automation
open Foundation Option
open Planning (ResourceBindingMap)

/-- What an action creates, and under which key. -/
def ActionSpec.created : ActionSpec → Option (String × CreatedKind)
  | registerInstance key _ _ => some (key, .ofInstance)
  | action => action.produced

def PlannedAction.created : PlannedAction → Option (String × CreatedKind)
  | createRole key _ => some (key, .role)
  | createChannel key _ => some (key, .channel)
  | postPanel key _ _ _ => some (key, .message)
  | registerInstance key _ _ => some (key, .ofInstance)
  | _ => none

def PreparedAction.created : PreparedAction → Option (String × CreatedKind)
  | createRole _ key _ => some (key, .role)
  | createChannel _ key _ => some (key, .channel)
  | postPanel _ key _ _ => some (key, .message)
  | registerInstance _ key _ _ => some (key, .ofInstance)
  | _ => none

/-- The table of kinds after something has been created. -/
def record (created : StringMap CreatedKind) : Option (String × CreatedKind) → StringMap CreatedKind
  | some made => created.insert made.1 made.2
  | none => created

section Planned
variable {event : RuntimeEvent} {ruleset : InteractionRuleSet} {bindings : ResourceBindingMap}

theorem interpretAction_created {action : ActionSpec} {step : PlannedAction}
    (planned : interpretAction event ruleset bindings action = some step) : step.created = action.created := by
  cases action with
  | grantRole role target | openModal modal | postPanel key channel content buttons =>
    obtain ⟨_, -, rfl⟩ := map_eq_some_iff.mp planned
    rfl
  | upsertOverwrite channel target allow deny =>
    obtain ⟨_, -, planned⟩ := bind_eq_some_iff.mp planned
    obtain ⟨_, -, planned⟩ := bind_eq_some_iff.mp planned
    cases planned
    rfl
  | respondEphemeral | createChannel | createRole | deferEphemeral | editResponse | registerInstance | teardownInstance =>
    cases planned
    rfl

/-- What the steps of a plan have in common with their actions, they have one by one. -/
theorem map_planned {γ : Type} {ofStep : PlannedAction → γ} {ofAction : ActionSpec → γ}
    (agree : ∀ action step, interpretAction event ruleset bindings action = some step → ofStep step = ofAction action)
    {actions : List ActionSpec} {steps : List PlannedAction}
    (planned : actions.mapM (interpretAction event ruleset bindings) = some steps) :
    steps.map ofStep = actions.map ofAction := by
  induction actions generalizing steps with
  | nil =>
    cases planned
    rfl
  | cons action actions ih =>
    rw [List.mapM_cons] at planned
    obtain ⟨step, here, planned⟩ := bind_eq_some_iff.mp planned
    obtain ⟨later, rest, same⟩ := bind_eq_some_iff.mp planned
    cases same
    rw [List.map_cons, List.map_cons, agree action step here, ih rest]

end Planned

theorem prepareAction_created {quote : String → String} {index : Nat} {step : PlannedAction} {context : RuntimeContext}
    {state : ExecutionState} {action : PreparedAction} (ready : prepareAction quote index step context state = .ok action) :
    action.created = step.created := by
  cases step with
  | openModal | deferEphemeral =>
    cases ready
    rfl
  | grantRole | respondEphemeral | createChannel | createRole | editResponse | teardownInstance =>
    obtain ⟨_, -, same⟩ := bind_eq_ok.mp ready
    cases same
    rfl
  | upsertOverwrite | registerInstance =>
    obtain ⟨_, -, rest⟩ := bind_eq_ok.mp ready
    obtain ⟨_, -, same⟩ := bind_eq_ok.mp rest
    cases same
    rfl
  | postPanel =>
    obtain ⟨_, -, rest⟩ := bind_eq_ok.mp ready
    obtain ⟨_, -, rest⟩ := bind_eq_ok.mp rest
    obtain ⟨_, -, same⟩ := bind_eq_ok.mp rest
    cases same
    rfl

theorem checkAction_state (rule : InteractionRule) (modals : ModalKeys) (action : ActionSpec)
    (created : StringMap CreatedKind) : (checkAction rule modals action created).2 = record created action.created := by
  cases action <;> rfl

theorem getElem?_record {created : StringMap CreatedKind} {made : String × CreatedKind} {key : String} {kind : CreatedKind} :
    (record created (some made))[key]? = some kind ↔ made = (key, kind) ∨ made.1 ≠ key ∧ created[key]? = some kind := by
  rw [record, Std.ExtTreeMap.getElem?_insert]
  simp only [Std.LawfulEqCmp.compare_eq_iff_eq, Prod.ext_iff]
  split <;> simp_all

theorem checkCreated_eq_nil {rule : InteractionRule} {created : StringMap CreatedKind} {reference : CreatedRef}
    {kind : CreatedKind} {unknown mismatch : String → String → ValidationError} :
    checkCreated rule created reference kind unknown mismatch = [] ↔ created[reference.created]? = some kind := by
  unfold checkCreated
  split <;> simp_all

theorem interpret_rule {event : RuntimeEvent} {ruleset : InteractionRuleSet} {bindings : ResourceBindingMap}
    {plan : ActionPlan} (planned : interpret event ruleset bindings = some plan) :
    ∃ rule ∈ ruleset.rules, triggerMatches rule.trigger event.kind = true ∧
      rule.actions.mapM (interpretAction event ruleset bindings) = some plan.steps := by
  obtain ⟨rule, found, planned⟩ := bind_eq_some_iff.mp planned
  obtain ⟨steps, mapped, rfl⟩ := map_eq_some_iff.mp planned
  exact ⟨rule, List.mem_of_find?_eq_some found, by simpa using List.find?_some found, mapped⟩

end Starring.Automation
