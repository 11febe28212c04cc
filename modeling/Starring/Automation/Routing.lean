import Starring.Automation.Interpret

/-! Which rule answers an event. Two rules on one button or one modal are refused; two rules on
one instance action are not, and then only the first of them can ever run. -/

namespace Starring.Automation
open Foundation List
open Planning (ResourceBindingMap)

def TriggerSpec.component? : TriggerSpec → Option String
  | buttonClick component => some component
  | modalSubmit _ | instanceAction _ => none

def TriggerSpec.modal? : TriggerSpec → Option String
  | modalSubmit modal => some modal
  | buttonClick _ | instanceAction _ => none

def TriggerSpec.action? : TriggerSpec → Option String
  | instanceAction action => some action
  | buttonClick _ | modalSubmit _ => none

def triggered (rules : List InteractionRule) (kind : EventKind) : List InteractionRule :=
  rules.filter fun rule => triggerMatches rule.trigger kind

/-- The only possible choice is made: at most one rule is triggered, in whatever order the rules stand. -/
def RoutesUniquely (ruleset : InteractionRuleSet) (event : RuntimeEvent) : Prop :=
  (triggered ruleset.rules event.kind).length ≤ 1 ∧
    ∀ rules, rules.Perm ruleset.rules → ∀ bindings,
      interpret event { ruleset with rules } bindings = interpret event ruleset bindings

theorem length_triggered {key : InteractionRule → Option String} {kind : EventKind} {name : String}
    (same : ∀ rule, triggerMatches rule.trigger kind = true ↔ key rule = some name) (rules : List InteractionRule) :
    (triggered rules kind).length = (rules.filterMap key).count name := by
  induction rules with
  | nil => rfl
  | cons rule rules ih =>
    have same := same rule
    unfold triggered at ih ⊢
    cases found : key rule with
    | none => simp_all
    | some other =>
      by_cases here : other = name
      · simp_all
      · simp_all

section
variable {buttonKeys : List String} {modals : ModalKeys} {rule : InteractionRule} {before after : RuleKeys}

theorem checkTrigger_clean (clean : checkTrigger buttonKeys modals rule before = ([], after)) :
    ((∀ found ∈ rule.trigger.component?, found ∉ before.triggerComponents) ∧
      ∀ found, found ∈ after.triggerComponents ↔ found ∈ rule.trigger.component? ∨ found ∈ before.triggerComponents) ∧
    (∀ found ∈ rule.trigger.modal?, found ∉ before.modalTriggers) ∧
      ∀ found, found ∈ after.modalTriggers ↔ found ∈ rule.trigger.modal? ∨ found ∈ before.modalTriggers := by
  rw [checkTrigger] at clean
  cases trigger : rule.trigger with
  | buttonClick component | modalSubmit modal =>
    simp only [trigger, insertKey, Prod.mk.injEq, append_eq_nil_iff, reportIf_eq_nil] at clean
    obtain ⟨⟨-, fresh⟩, rfl⟩ := clean
    simp [TriggerSpec.component?, TriggerSpec.modal?, fresh, eq_comm]
  | instanceAction action =>
    simp only [trigger, Prod.mk.injEq, reportIf_eq_nil] at clean
    obtain ⟨-, rfl⟩ := clean
    simp [TriggerSpec.component?, TriggerSpec.modal?]

end

section
variable {ruleset : InteractionRuleSet}

theorem triggers_nodup (accepted : validateStructural ruleset = .ok ()) :
    (ruleset.rules.filterMap fun rule => rule.trigger.component?).Nodup ∧
      (ruleset.rules.filterMap fun rule => rule.trigger.modal?).Nodup := by
  obtain ⟨_, _, _, _, -, -, -, clean⟩ := validateStructural_ok accepted
  constructor
  · refine (nodup_of_audit _ (fun keys found => found ∈ keys.triggerComponents) ?_ clean).1
    intro rule before after passed
    obtain ⟨-, passed, -⟩ := checkRule_clean passed
    exact (checkTrigger_clean passed).1
  · refine (nodup_of_audit _ (fun keys found => found ∈ keys.modalTriggers) ?_ clean).1
    intro rule before after passed
    obtain ⟨-, passed, -⟩ := checkRule_clean passed
    exact (checkTrigger_clean passed).2

theorem interpret_eq (event : RuntimeEvent) (bindings : ResourceBindingMap) :
    interpret event ruleset bindings =
      (triggered ruleset.rules event.kind).head?.bind (interpretRule event ruleset bindings) := by
  rw [triggered, head?_filter]
  rfl

/-- The plan of a rule depends on the modals of the ruleset, and not on the other rules. -/
theorem interpretRule_rules (event : RuntimeEvent) (rules : List InteractionRule) (bindings : ResourceBindingMap) :
    interpretRule event { ruleset with rules } bindings = interpretRule event ruleset bindings := by
  have same : interpretAction event { ruleset with rules } bindings = interpretAction event ruleset bindings := by
    funext action
    cases action <;> rfl
  funext rule
  rw [interpretRule, same]
  rfl

theorem routesUniquely_of_length {event : RuntimeEvent} (single : (triggered ruleset.rules event.kind).length ≤ 1) :
    RoutesUniquely ruleset event := by
  refine ⟨single, fun rules reordered bindings => ?_⟩
  have perm : (triggered rules event.kind).Perm (triggered ruleset.rules event.kind) := reordered.filter _
  have same : triggered rules event.kind = triggered ruleset.rules event.kind := by
    match found : triggered ruleset.rules event.kind, single with
    | [], _ => exact perm_nil.mp (found ▸ perm)
    | [rule], _ => exact perm_singleton.mp (found ▸ perm)
  rw [interpret_eq, interpret_eq, same, interpretRule_rules]

end

/-- A rule that defers its response and then edits it. -/
def answering (key : String) (trigger : TriggerSpec) (content : String) : InteractionRule :=
  { key, trigger, actions := [.deferEphemeral, .editResponse content] }

def rulesOnly (rules : List InteractionRule) : InteractionRuleSet := { version := 1, panels := [], modals := [], rules }

def joinTwice : InteractionRuleSet :=
  rulesOnly [answering "first" (.instanceAction "join") "one", answering "second" (.instanceAction "join") "two"]

def joining : RuntimeEvent :=
  { guildId := ⟨1⟩, actor := ⟨2⟩, kind := .instanceAction ⟨"room", by decide +kernel⟩ "join" }

end Starring.Automation
