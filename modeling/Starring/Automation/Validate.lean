import Starring.Automation.Template
import Starring.Foundation.Audit
import Starring.Planning.VirtualApply

/-! The checks a ruleset has to pass. Every check reports what it finds, and a ruleset is
accepted if nothing has been reported. -/

namespace Starring.Automation
open Foundation
open Planning (ResourceBindingMap)

inductive CreatedKind where
  | role
  | channel
  | message
  | ofInstance
  deriving DecidableEq

inductive ValidationError where
  | duplicatePanelKey (key : String)
  | duplicateButtonKey (key : String)
  | duplicateRuleKey (key : String)
  | unknownButtonRef (rule component : String)
  | unknownRoleRef (rule : String) (role : ResourceKey)
  | conflictingTrigger (component : String)
  | emptyResponseContent (rule : String)
  | duplicateModalKey (key : String)
  | duplicateModalFieldKey (modal field : String)
  | invalidModalFieldMinLength (modal field : String) (minLength : UInt16)
  | invalidModalFieldMaxLength (modal field : String) (maxLength : UInt16)
  | invalidModalFieldLengthRange (modal field : String) (minLength maxLength : UInt16)
  | unknownModalRef (rule modal : String)
  | conflictingModalTrigger (modal : String)
  | badTemplate (rule : String)
  | inputTemplateInButtonRule (rule input : String)
  | unknownTemplateInput (rule modal input : String)
  | duplicateActionKey (rule key : String)
  | unknownCreatedRoleRef (rule key : String)
  | createdRoleRefTypeMismatch (rule key : String)
  | unknownChannelRef (rule : String) (channel : ResourceKey)
  | unknownCreatedChannelRef (rule key : String)
  | createdChannelRefTypeMismatch (rule key : String)
  | unknownCreatedMessageRef (rule key : String)
  | createdMessageRefTypeMismatch (rule key : String)
  | instanceResourceMissingFromManifest (key : String) (kind : CreatedKind)
  | instanceResourceDeclaredMultipleTimes (key : String)
  | instanceResourceProducedAfterRegister (key : String) (kind : CreatedKind)
  | multipleRegisterInstance (rule : String)
  | emptyInstanceResources (rule : String)
  | invalidResourceAlias (rule aliasName : String)
  | overlappingOverwrite (rule : String)
  | emptyOverwrite (rule : String)
  | emptyButtonLabel (rule button : String)
  | tooManyPanelButtons (rule : String) (count : Nat)
  | deferNotFirst (rule : String)
  | conflictingInitialResponse (rule : String)
  | editResponseWithoutDefer (rule : String)
  | deferredMissingEditResponse (rule : String)
  | multipleEditResponse (rule : String)
  | editResponseNotLast (rule : String)
  | instanceRoleOutsideInstanceRule (rule : String)
  | instanceRoleMustUseEvent (rule : String)
  | instanceActionRuleMustDefer (rule : String)
  | teardownInstanceOutsideInstanceRule (rule : String)
  | unknownCreatedInstanceRef (rule key : String)
  | createdInstanceRefTypeMismatch (rule key : String)
  | teardownRegisterConflict (rule : String)
  deriving DecidableEq

def maxPanelButtons : Nat := 5

/-- A key is put into a set of keys, and reported if it was there already. -/
def insertKey (key : String) (error : ValidationError) (keys : List String) : List ValidationError × List String :=
  (reportIf (key ∈ keys) error, key :: keys)

structure PanelKeys where
  panelKeys : List String
  buttonKeys : List String

def checkPanelButton (button : ButtonSpec) (buttonKeys : List String) : List ValidationError × List String :=
  match button.route with
  | .static key => insertKey key (.duplicateButtonKey key) buttonKeys
  | .instanceAction _ _ => ([], buttonKeys)

def checkPanel (panel : PanelSpec) (keys : PanelKeys) : List ValidationError × PanelKeys :=
  let named := insertKey panel.key (.duplicatePanelKey panel.key) keys.panelKeys
  let routed := auditEach checkPanelButton panel.buttons keys.buttonKeys
  (named.1 ++ routed.1, { panelKeys := named.2, buttonKeys := routed.2 })

def ButtonRoute.name : ButtonRoute → String
  | static key => key
  | instanceAction _ action => action

def checkPostedButton (rule : InteractionRule) (button : ButtonSpec) (buttonKeys : List String) :
    List ValidationError × List String :=
  let routed := checkPanelButton button buttonKeys
  (reportIf (isBlank button.label) (.emptyButtonLabel rule.key button.route.name) ++ routed.1, routed.2)

def checkPostedPanel (rule : InteractionRule) (action : ActionSpec) (buttonKeys : List String) :
    List ValidationError × List String :=
  match action with
  | .postPanel _ _ _ buttons =>
    let routed := auditEach (checkPostedButton rule) buttons buttonKeys
    (reportIf (buttons.length > maxPanelButtons) (.tooManyPanelButtons rule.key buttons.length) ++ routed.1, routed.2)
  | _ => ([], buttonKeys)

def checkPostedPanels (rule : InteractionRule) (buttonKeys : List String) : List ValidationError × List String :=
  auditEach (checkPostedPanel rule) rule.actions buttonKeys

structure ModalKeys where
  modalKeys : List String
  modalFields : StringMap (List String)

def checkModalField (modal : ModalSpec) (field : ModalFieldSpec) (fieldKeys : List String) :
    List ValidationError × List String :=
  let named := insertKey field.key (.duplicateModalFieldKey modal.key field.key) fieldKeys
  let shortest := match field.minLength with
    | some minLength =>
      reportIf (minLength > discordModalInputMaxLength) (.invalidModalFieldMinLength modal.key field.key minLength)
    | none => []
  let longest := match field.maxLength with
    | some maxLength =>
      reportIf (maxLength = 0 ∨ maxLength > discordModalInputMaxLength)
        (.invalidModalFieldMaxLength modal.key field.key maxLength)
    | none => []
  let range := match field.minLength, field.maxLength with
    | some minLength, some maxLength =>
      reportIf (minLength > maxLength) (.invalidModalFieldLengthRange modal.key field.key minLength maxLength)
    | _, _ => []
  (named.1 ++ shortest ++ longest ++ range, named.2)

def checkModal (modal : ModalSpec) (keys : ModalKeys) : List ValidationError × ModalKeys :=
  let named := insertKey modal.key (.duplicateModalKey modal.key) keys.modalKeys
  let fields := auditEach (checkModalField modal) modal.fields []
  (named.1 ++ fields.1, { modalKeys := named.2, modalFields := keys.modalFields.insert modal.key fields.2 })

section Rules
variable (rule : InteractionRule)

def TriggerSpec.isInstanceAction : TriggerSpec → Bool
  | instanceAction _ => true
  | buttonClick _ | modalSubmit _ => false

def checkTemplate (modalFields : StringMap (List String)) (content : String) : List ValidationError :=
  match TemplateString.parse content with
  | .error _ => [.badTemplate rule.key]
  | .ok template => template.inputKeys.flatMap fun key =>
    match rule.trigger with
    | .buttonClick _ | .instanceAction _ => [.inputTemplateInButtonRule rule.key key]
    | .modalSubmit modal =>
      reportIf (key ∉ modalFields[modal]?.getD []) (.unknownTemplateInput rule.key modal key)

def isResourceAlias (aliasName : String) : Bool :=
  aliasName != "" && aliasName.utf8ByteSize ≤ 32 &&
    aliasName.toList.all fun char => char.isAlphanum || char == '_' || char == '-'

def checkResourceAlias (aliasName : String) : List ValidationError :=
  reportIf (isResourceAlias aliasName = false) (.invalidResourceAlias rule.key aliasName)

/-- A key must have been created before, and as the kind it is used as. -/
def checkCreated (created : StringMap CreatedKind) (reference : CreatedRef) (kind : CreatedKind)
    (unknown mismatch : String → String → ValidationError) : List ValidationError :=
  match created[reference.created]? with
  | none => [unknown rule.key reference.created]
  | some found => reportIf (found ≠ kind) (mismatch rule.key reference.created)

def checkRoleRef (created : StringMap CreatedKind) : RoleRef → List ValidationError
  | .existing _ => []
  | .created reference => checkCreated rule created reference .role .unknownCreatedRoleRef .createdRoleRefTypeMismatch
  | .ofInstance instanceRef aliasName =>
    reportIf (rule.trigger.isInstanceAction = false) (.instanceRoleOutsideInstanceRule rule.key) ++
      reportIf (instanceRef ≠ .event) (.instanceRoleMustUseEvent rule.key) ++ checkResourceAlias rule aliasName

def checkChannelRef (created : StringMap CreatedKind) : ChannelRef → List ValidationError
  | .existing _ => []
  | .created reference =>
    checkCreated rule created reference .channel .unknownCreatedChannelRef .createdChannelRefTypeMismatch

def checkTeardownInstanceRef (created : StringMap CreatedKind) : InstanceRef → List ValidationError
  | .event => reportIf (rule.trigger.isInstanceAction = false) (.teardownInstanceOutsideInstanceRule rule.key)
  | .created reference =>
    checkCreated rule created reference .ofInstance .unknownCreatedInstanceRef .createdInstanceRefTypeMismatch

def checkManifestEntries (created : StringMap CreatedKind) (entries : StringMap CreatedRef) (kind : CreatedKind)
    (unknown mismatch : String → String → ValidationError) : List ValidationError :=
  entries.toList.flatMap fun entry =>
    checkResourceAlias rule entry.1 ++ checkCreated rule created entry.2 kind unknown mismatch

def checkManifest (created : StringMap CreatedKind) (resources : InstanceResourceRefs) : List ValidationError :=
  reportIf (resources.roles.isEmpty && resources.channels.isEmpty && resources.messages.isEmpty)
      (.emptyInstanceResources rule.key) ++
    checkManifestEntries rule created resources.roles .role .unknownCreatedRoleRef .createdRoleRefTypeMismatch ++
    checkManifestEntries rule created resources.channels .channel .unknownCreatedChannelRef
      .createdChannelRefTypeMismatch ++
    checkManifestEntries rule created resources.messages .message .unknownCreatedMessageRef
      .createdMessageRefTypeMismatch

/-- The key of an action is recorded with the kind of what the action creates. -/
def recordCreated (key : String) (kind : CreatedKind) (created : StringMap CreatedKind) :
    List ValidationError × StringMap CreatedKind :=
  (reportIf (created[key]?.isSome = true) (.duplicateActionKey rule.key key), created.insert key kind)

def checkAction (modals : ModalKeys) (action : ActionSpec) (created : StringMap CreatedKind) :
    List ValidationError × StringMap CreatedKind :=
  match action with
  | .grantRole role _ => (checkRoleRef rule created role, created)
  | .respondEphemeral content =>
    (reportIf (isBlank content) (.emptyResponseContent rule.key) ++ checkTemplate rule modals.modalFields content,
      created)
  | .openModal modal => (reportIf (modal ∉ modals.modalKeys) (.unknownModalRef rule.key modal), created)
  | .createChannel key name =>
    let recorded := recordCreated rule key .channel created
    (recorded.1 ++ checkTemplate rule modals.modalFields name, recorded.2)
  | .createRole key name =>
    let recorded := recordCreated rule key .role created
    (recorded.1 ++ checkTemplate rule modals.modalFields name, recorded.2)
  | .upsertOverwrite channel target allow deny =>
    let targeted := match target with
      | .everyone => []
      | .role role => checkRoleRef rule created role
    (checkChannelRef rule created channel ++ targeted ++
      reportIf (allow.intersects deny) (.overlappingOverwrite rule.key) ++
      reportIf (allow.isEmpty && deny.isEmpty) (.emptyOverwrite rule.key), created)
  | .postPanel key channel content _ =>
    -- the key is recorded before the channel is looked up
    let recorded := recordCreated rule key .message created
    (recorded.1 ++ checkChannelRef rule recorded.2 channel ++ checkTemplate rule modals.modalFields content, recorded.2)
  | .deferEphemeral => ([], created)
  | .editResponse content => (checkTemplate rule modals.modalFields content, created)
  | .registerInstance key _ resources =>
    let recorded := recordCreated rule key .ofInstance created
    (recorded.1 ++ checkManifest rule recorded.2 resources, recorded.2)
  | .teardownInstance instanceRef => (checkTeardownInstanceRef rule created instanceRef, created)

end Rules

def ActionSpec.isRegister : ActionSpec → Bool
  | registerInstance _ _ _ => true
  | _ => false

def ActionSpec.isTeardown : ActionSpec → Bool
  | teardownInstance _ => true
  | _ => false

def ActionSpec.isDefer : ActionSpec → Bool
  | deferEphemeral => true
  | _ => false

def ActionSpec.isEdit : ActionSpec → Bool
  | editResponse _ => true
  | _ => false

def ActionSpec.isOtherInitial : ActionSpec → Bool
  | respondEphemeral _ | openModal _ => true
  | _ => false

/-- What an instance can own. -/
def ActionSpec.produced : ActionSpec → Option (String × CreatedKind)
  | createRole key _ => some (key, .role)
  | createChannel key _ => some (key, .channel)
  | postPanel key _ _ _ => some (key, .message)
  | _ => none

/-- The keys that a manifest names, alias by alias. -/
def InstanceResourceRefs.keys (self : InstanceResourceRefs) : List String :=
  (self.roles.toList ++ self.channels.toList ++ self.messages.toList).map fun entry => entry.2.created

/-- The keys that the manifests of the actions name. -/
def manifestKeys (actions : List ActionSpec) : List String :=
  actions.flatMap fun
    | .registerInstance _ _ resources => resources.keys
    | _ => []

def ownable (actions : List ActionSpec) : StringMap CreatedKind :=
  actions.foldl (fun owned action => (action.produced.map fun made => owned.insert made.1 made.2).getD owned) ∅

def countKeys (keys : List String) : StringMap Nat :=
  keys.foldl (fun counts key => counts.insert key (counts.getD key 0 + 1)) ∅

def producedAfter (firstRegister : Nat) (actions : List ActionSpec) : List ValidationError :=
  actions.zipIdx.flatMap fun entry =>
    match entry.1.produced with
    | some (key, kind) => reportIf (entry.2 > firstRegister) (.instanceResourceProducedAfterRegister key kind)
    | none => []

def checkInstanceFootprint (rule : InteractionRule) : List ValidationError :=
  let registerCount := (rule.actions.filter ActionSpec.isRegister).length
  if registerCount = 0 then []
  else
    let firstRegister := rule.actions.findIdx ActionSpec.isRegister
    let manifestCounts := countKeys (manifestKeys rule.actions)
    reportIf (registerCount > 1) (ValidationError.multipleRegisterInstance rule.key) ++
      producedAfter firstRegister rule.actions ++
      (ownable rule.actions).toList.flatMap (fun entry =>
        reportIf (entry.1 ∉ manifestCounts) (ValidationError.instanceResourceMissingFromManifest entry.1 entry.2)) ++
      manifestCounts.toList.flatMap fun entry =>
        reportIf (entry.2 > 1) (ValidationError.instanceResourceDeclaredMultipleTimes entry.1)

def positions (sort : ActionSpec → Bool) (actions : List ActionSpec) : List Nat :=
  (actions.zipIdx.filter fun entry => sort entry.1).map Prod.snd

def checkResponses (rule : InteractionRule) : List ValidationError :=
  let deferPositions := positions ActionSpec.isDefer rule.actions
  let editPositions := positions ActionSpec.isEdit rule.actions
  let hasOtherInitial := rule.actions.any ActionSpec.isOtherInitial
  let lastIndex := rule.actions.length - 1
  reportIf (deferPositions.any fun index => index ≠ 0) (ValidationError.deferNotFirst rule.key) ++
    (if deferPositions = [] then []
      else reportIf (hasOtherInitial = true) (ValidationError.conflictingInitialResponse rule.key) ++
        reportIf (editPositions = []) (ValidationError.deferredMissingEditResponse rule.key)) ++
    reportIf (editPositions ≠ [] ∧ deferPositions = []) (ValidationError.editResponseWithoutDefer rule.key) ++
    reportIf (editPositions.length > 1) (ValidationError.multipleEditResponse rule.key) ++
    reportIf (editPositions.any fun index => index ≠ lastIndex) (ValidationError.editResponseNotLast rule.key)

structure RuleKeys where
  ruleKeys : List String
  triggerComponents : List String
  modalTriggers : List String

section
variable (buttonKeys : List String) (modals : ModalKeys)

/-- Two rules on one button or on one modal are in conflict; rules on one instance action are not compared. -/
def checkTrigger (rule : InteractionRule) (keys : RuleKeys) : List ValidationError × RuleKeys :=
  match rule.trigger with
  | .buttonClick component =>
    let taken := insertKey component (.conflictingTrigger component) keys.triggerComponents
    (reportIf (component ∉ buttonKeys) (.unknownButtonRef rule.key component) ++ taken.1,
      { keys with triggerComponents := taken.2 })
  | .modalSubmit modal =>
    let taken := insertKey modal (.conflictingModalTrigger modal) keys.modalTriggers
    (reportIf (modal ∉ modals.modalKeys) (.unknownModalRef rule.key modal) ++ taken.1,
      { keys with modalTriggers := taken.2 })
  | .instanceAction _ =>
    (reportIf ((rule.actions.head?.any ActionSpec.isDefer) = false) (.instanceActionRuleMustDefer rule.key), keys)

def checkRule (rule : InteractionRule) (keys : RuleKeys) : List ValidationError × RuleKeys :=
  let named := insertKey rule.key (.duplicateRuleKey rule.key) keys.ruleKeys
  let triggered := checkTrigger buttonKeys modals rule { keys with ruleKeys := named.2 }
  let hasRegister := rule.actions.any ActionSpec.isRegister
  let hasTeardown := rule.actions.any ActionSpec.isTeardown
  (named.1 ++ triggered.1 ++
    reportIf (hasRegister && hasTeardown) (.teardownRegisterConflict rule.key) ++
    (auditEach (checkAction rule modals) rule.actions ∅).1 ++
    checkInstanceFootprint rule ++ checkResponses rule, triggered.2)

end

def noErrors (errors : List ValidationError) : Except (List ValidationError) Unit :=
  if errors = [] then .ok () else .error errors

def validateStructural (ruleset : InteractionRuleSet) : Except (List ValidationError) Unit :=
  let panels := auditEach checkPanel ruleset.panels { panelKeys := [], buttonKeys := [] }
  let posted := auditEach checkPostedPanels ruleset.rules panels.2.buttonKeys
  let modals := auditEach checkModal ruleset.modals { modalKeys := [], modalFields := ∅ }
  let rules := auditEach (checkRule posted.2 modals.2) ruleset.rules
    { ruleKeys := [], triggerComponents := [], modalTriggers := [] }
  noErrors (panels.1 ++ posted.1 ++ modals.1 ++ rules.1)

section
variable (bindings : ResourceBindingMap) (rule : InteractionRule)

def checkRoleBinding : RoleRef → List ValidationError
  | .existing key => reportIf (key ∉ bindings.roleBindings) (.unknownRoleRef rule.key key)
  | .created _ | .ofInstance _ _ => []

def checkChannelBinding : ChannelRef → List ValidationError
  | .existing key => reportIf (key ∉ bindings.channelBindings) (.unknownChannelRef rule.key key)
  | .created _ => []

def checkActionBindings : ActionSpec → List ValidationError
  | .grantRole role _ => checkRoleBinding bindings rule role
  | .upsertOverwrite channel target _ _ =>
    checkChannelBinding bindings rule channel ++ match target with
      | .everyone => []
      | .role role => checkRoleBinding bindings rule role
  | .postPanel _ channel _ _ => checkChannelBinding bindings rule channel
  | _ => []

end

def validateBindings (ruleset : InteractionRuleSet) (bindings : ResourceBindingMap) :
    Except (List ValidationError) Unit :=
  noErrors (ruleset.rules.flatMap fun rule => rule.actions.flatMap (checkActionBindings bindings rule))

def errorsOf (check : Except (List ValidationError) Unit) : List ValidationError :=
  match check with
  | .ok _ => []
  | .error errors => errors

def validate (ruleset : InteractionRuleSet) (bindings : ResourceBindingMap) : Except (List ValidationError) Unit :=
  noErrors (errorsOf (validateStructural ruleset) ++ errorsOf (validateBindings ruleset bindings))

section Accepted
variable {ruleset : InteractionRuleSet}

@[simp] theorem noErrors_eq_ok (errors : List ValidationError) (u : Unit) : noErrors errors = .ok u ↔ errors = [] := by
  unfold noErrors
  split <;> simp_all

theorem errorsOf_noErrors (errors : List ValidationError) : errorsOf (noErrors errors) = errors := by
  unfold noErrors
  split <;> simp_all [errorsOf]

theorem validateStructural_ok (accepted : validateStructural ruleset = .ok ()) :
    ∃ panels buttonKeys modals last,
      auditEach checkPanel ruleset.panels { panelKeys := [], buttonKeys := [] } = ([], panels) ∧
      auditEach checkPostedPanels ruleset.rules panels.buttonKeys = ([], buttonKeys) ∧
      auditEach checkModal ruleset.modals { modalKeys := [], modalFields := ∅ } = ([], modals) ∧
      auditEach (checkRule buttonKeys modals) ruleset.rules
        { ruleKeys := [], triggerComponents := [], modalTriggers := [] } = ([], last) := by
  simp only [validateStructural, noErrors_eq_ok, List.append_eq_nil_iff] at accepted
  obtain ⟨⟨⟨panels, posted⟩, modals⟩, rules⟩ := accepted
  exact ⟨_, _, _, _, Prod.ext panels rfl, Prod.ext posted rfl, Prod.ext modals rfl, Prod.ext rules rfl⟩

theorem validate_ok {bindings : ResourceBindingMap} (accepted : validate ruleset bindings = .ok ()) :
    validateStructural ruleset = .ok () ∧
      ∀ rule ∈ ruleset.rules, ∀ action ∈ rule.actions, checkActionBindings bindings rule action = [] := by
  rw [validate, noErrors_eq_ok, List.append_eq_nil_iff] at accepted
  obtain ⟨structural, bound⟩ := accepted
  rw [validateStructural, errorsOf_noErrors] at structural
  rw [validateBindings, errorsOf_noErrors] at bound
  refine ⟨(noErrors_eq_ok _ _).mpr structural, fun rule mem action held => ?_⟩
  exact List.flatMap_eq_nil_iff.mp (List.flatMap_eq_nil_iff.mp bound rule mem) action held

/-- What a rule of an accepted ruleset has passed. -/
structure RuleAccepted (modals : ModalKeys) (rule : InteractionRule) : Prop where
  conflict : ¬(rule.actions.any ActionSpec.isRegister = true ∧ rule.actions.any ActionSpec.isTeardown = true)
  actions : (auditEach (checkAction rule modals) rule.actions ∅).1 = []
  footprint : checkInstanceFootprint rule = []
  responses : checkResponses rule = []

theorem checkRule_clean {buttonKeys : List String} {modals : ModalKeys} {rule : InteractionRule} {before after : RuleKeys}
    (clean : checkRule buttonKeys modals rule before = ([], after)) :
    rule.key ∉ before.ruleKeys ∧
      checkTrigger buttonKeys modals rule { before with ruleKeys := rule.key :: before.ruleKeys } = ([], after) ∧
      RuleAccepted modals rule := by
  simp only [checkRule, Prod.mk.injEq, List.append_eq_nil_iff, insertKey, reportIf_eq_nil, Bool.and_eq_true] at clean
  obtain ⟨⟨⟨⟨⟨⟨fresh, triggered⟩, conflict⟩, actions⟩, footprint⟩, responses⟩, rfl⟩ := clean
  exact ⟨fresh, Prod.ext triggered rfl, conflict, actions, footprint, responses⟩

/-- Every rule of an accepted ruleset has been accepted, with the modals of the ruleset. -/
theorem exists_accepted (accepted : validateStructural ruleset = .ok ()) :
    ∃ modals, auditEach checkModal ruleset.modals { modalKeys := [], modalFields := ∅ } = ([], modals) ∧
      ∀ rule ∈ ruleset.rules, RuleAccepted modals rule := by
  obtain ⟨_, buttonKeys, modals, last, -, -, declared, rules⟩ := validateStructural_ok accepted
  refine ⟨modals, declared, fun rule mem => ?_⟩
  obtain ⟨before, after, clean⟩ := exists_of_mem_audit rules mem
  exact (checkRule_clean clean).2.2

end Accepted

end Starring.Automation
