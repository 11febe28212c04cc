import Mathlib

/-! Runs of a deterministic machine under arbitrary calls. A call is answered and
moves the state; the history of a run keeps every call with its answer and the
states around it. Invariants are proved once per call and carried along the run. -/

namespace Starring.Foundation

/-- One call of a run, with its answer and the states before and after it. -/
structure Event (σ κ ρ : Type) where
  before : σ
  call : κ
  answer : ρ
  after : σ

section
variable {σ κ ρ : Type} (exec : κ → σ → ρ × σ)

def event (state : σ) (call : κ) : Event σ κ ρ :=
  ⟨state, call, (exec call state).1, (exec call state).2⟩

/-- The state a run ends in. -/
def final : σ → List κ → σ
  | state, [] => state
  | state, call :: calls => final (exec call state).2 calls

/-- Every call of a run in order. -/
def history : σ → List κ → List (Event σ κ ρ)
  | _, [] => []
  | state, call :: calls => event exec state call :: history (exec call state).2 calls

@[simp] theorem final_nil (state : σ) : final exec state [] = state := rfl
@[simp] theorem history_nil (state : σ) : history exec state [] = [] := rfl

theorem final_append (state : σ) (first second : List κ) :
    final exec state (first ++ second) = final exec (final exec state first) second := by
  induction first generalizing state with
  | nil => rfl
  | cons call calls ih => exact ih _

theorem history_append (state : σ) (first second : List κ) :
    history exec state (first ++ second) =
      history exec state first ++ history exec (final exec state first) second := by
  induction first generalizing state with
  | nil => rfl
  | cons call calls ih => simp only [List.cons_append, history, final, ih]

/-- The calls of a history are the calls of the run. -/
@[simp] theorem history_map_call (state : σ) (calls : List κ) :
    (history exec state calls).map Event.call = calls := by
  induction calls generalizing state with
  | nil => rfl
  | cons call calls ih => simp only [history, List.map_cons, ih, event]

/-- An event of a history is what its call does in the state before it. -/
theorem mem_history (state : σ) (calls : List κ) (entry : Event σ κ ρ) (mem : entry ∈ history exec state calls) :
    entry = event exec entry.before entry.call := by
  induction calls generalizing state with
  | nil => cases mem
  | cons call calls ih =>
    obtain rfl | later := List.mem_cons.mp mem
    · rfl
    · exact ih _ later

/-- What holds at the start and survives every call holds at the end of every run. -/
theorem final_invariant (invariant : σ → Prop) (state : σ) (calls : List κ) (start : invariant state)
    (step : ∀ call state, invariant state → invariant (exec call state).2) :
    invariant (final exec state calls) := by
  induction calls generalizing state with
  | nil => exact start
  | cons call calls ih => exact ih _ (step call state start)

/-- An invariant that also speaks about the calls made so far. -/
theorem history_invariant (invariant : List (Event σ κ ρ) → σ → Prop) (state : σ) (calls : List κ)
    (start : invariant [] state)
    (step : ∀ past state call, invariant past state →
      invariant (past ++ [event exec state call]) (exec call state).2) :
    invariant (history exec state calls) (final exec state calls) := by
  induction calls using List.reverseRecOn with
  | nil => exact start
  | append_singleton calls call ih =>
    rw [history_append, final_append]
    exact step _ _ call ih

/-- An event of a history is a call made in the state its prefix of the run reached. -/
theorem history_split (state : σ) (calls : List κ) (earlier later : List (Event σ κ ρ)) (entry : Event σ κ ρ)
    (split : history exec state calls = earlier ++ entry :: later) :
    ∃ first call rest, calls = first ++ call :: rest ∧ earlier = history exec state first ∧
      entry = event exec (final exec state first) call ∧ later = history exec entry.after rest := by
  induction earlier generalizing state calls with
  | nil =>
    cases calls with
    | nil => simp at split
    | cons call rest =>
      simp only [history, List.nil_append, List.cons.injEq] at split
      obtain ⟨here, there⟩ := split
      exact ⟨[], call, rest, rfl, rfl, here.symm, by rw [← there, ← here]; rfl⟩
  | cons head earlier ih =>
    cases calls with
    | nil => simp at split
    | cons call rest =>
      simp only [history, List.cons_append, List.cons.injEq] at split
      obtain ⟨here, there⟩ := split
      obtain ⟨first, next, tail, same, past, entryEq, future⟩ := ih _ _ there
      refine ⟨call :: first, next, tail, by rw [same]; rfl, ?_, entryEq, future⟩
      rw [past, ← here]
      rfl

end

end Starring.Foundation
