import Mathlib

/-! Checks that report what is wrong and carry on. A loop of such checks carries what it has
seen from one item to the next, and finds nothing exactly when every item passes in the
state that the items before it leave. -/

namespace Starring.Foundation
variable {α ε σ κ : Type}

/-- An error is reported if the condition holds. -/
def reportIf (condition : Prop) [Decidable condition] (error : ε) : List ε := if condition then [error] else []

@[simp] theorem reportIf_eq_nil (condition : Prop) [Decidable condition] (error : ε) :
    reportIf condition error = [] ↔ ¬condition := by
  unfold reportIf
  split <;> simp_all

/-- The errors of all items in their order, and the state after the last one. -/
def auditEach (check : α → σ → List ε × σ) : List α → σ → List ε × σ
  | [], state => ([], state)
  | item :: items, state =>
    let here := check item state
    let later := auditEach check items here.2
    (here.1 ++ later.1, later.2)

section
variable {check : α → σ → List ε × σ} {items : List α} {state last : σ}

theorem auditEach_cons {item : α} :
    auditEach check (item :: items) state = ([], last) ↔
      ∃ next, check item state = ([], next) ∧ auditEach check items next = ([], last) := by
  simp only [auditEach, Prod.ext_iff, List.append_eq_nil_iff]
  constructor
  · rintro ⟨⟨here, later⟩, rfl⟩
    exact ⟨_, ⟨here, rfl⟩, later, rfl⟩
  · rintro ⟨next, ⟨here, rfl⟩, later, rfl⟩
    exact ⟨⟨here, later⟩, rfl⟩

theorem auditEach_append {more : List α} :
    auditEach check (items ++ more) state = ([], last) ↔
      ∃ next, auditEach check items state = ([], next) ∧ auditEach check more next = ([], last) := by
  induction items generalizing state with
  | nil => simp [auditEach]
  | cons item items ih =>
    simp only [List.cons_append, auditEach_cons, ih]
    constructor
    · rintro ⟨next, here, between, later, rest⟩
      exact ⟨between, ⟨next, here, later⟩, rest⟩
    · rintro ⟨between, ⟨next, here, later⟩, rest⟩
      exact ⟨next, here, between, later, rest⟩

/-- Every item has passed in some state. -/
theorem exists_of_mem_audit (clean : auditEach check items state = ([], last)) {item : α} (mem : item ∈ items) :
    ∃ before after, check item before = ([], after) := by
  induction items generalizing state with
  | nil => cases mem
  | cons head items ih =>
    obtain ⟨next, here, later⟩ := auditEach_cons.mp clean
    obtain rfl | mem := List.mem_cons.mp mem
    · exact ⟨state, next, here⟩
    · exact ih later mem

/-- A check that reports a key it has seen before lets only distinct keys pass. -/
theorem nodup_of_audit (key : α → Option κ) (seen : σ → κ → Prop)
    (step : ∀ item before after, check item before = ([], after) →
      (∀ found ∈ key item, ¬seen before found) ∧ ∀ found, seen after found ↔ found ∈ key item ∨ seen before found)
    (clean : auditEach check items state = ([], last)) :
    (items.filterMap key).Nodup ∧ ∀ found ∈ items.filterMap key, ¬seen state found := by
  induction items generalizing state with
  | nil => simp
  | cons item items ih =>
    obtain ⟨next, here, later⟩ := auditEach_cons.mp clean
    obtain ⟨fresh, seen_⟩ := step _ _ _ here
    obtain ⟨distinct, unseen⟩ := ih later
    simp only [seen_, not_or] at unseen
    cases same : key item with
    | none =>
      rw [List.filterMap_cons_none same]
      exact ⟨distinct, fun found mem => (unseen found mem).2⟩
    | some found =>
      rw [List.filterMap_cons_some same]
      refine ⟨List.nodup_cons.mpr ⟨fun mem => (unseen _ mem).1 same, distinct⟩, ?_⟩
      intro other mem
      obtain rfl | mem := List.mem_cons.mp mem
      · exact fresh _ same
      · exact (unseen _ mem).2

end

end Starring.Foundation
