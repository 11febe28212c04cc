import Mathlib

/-! Tables of rows with an id each. A table is edited one row at a time: a row is
added, changed or dropped. What becomes of one id depends only on the edits of that
id, so a statement about a row after a whole run is proved from those edits alone. -/

namespace Starring.Foundation
open List

/-- The first element that satisfies the condition is changed. -/
def modifyFirst {α : Type} (condition : α → Bool) (change : α → α) : List α → List α
  | [] => []
  | head :: tail => if condition head then change head :: tail else head :: modifyFirst condition change tail

theorem modifyFirst_of_none {α : Type} {condition : α → Bool} {rows : List α}
    (none : ∀ row ∈ rows, condition row = false) (change : α → α) : modifyFirst condition change rows = rows := by
  induction rows with
  | nil => rfl
  | cons head tail ih =>
    rw [modifyFirst, none head mem_cons_self, ih fun row mem => none row (mem_cons_of_mem _ mem)]
    rfl

theorem modifyFirst_map_id {ρ ι : Type} {idOf : ρ → ι} {update : ρ → ρ} (keeps : ∀ row, idOf (update row) = idOf row)
    (condition : ρ → Bool) (rows : List ρ) : (modifyFirst condition update rows).map idOf = rows.map idOf := by
  induction rows with
  | nil => rfl
  | cons head tail ih =>
    by_cases holds : condition head = true
    · simp [modifyFirst, holds, keeps]
    · simp [modifyFirst, holds, ih]

theorem modifyFirst_map {α β : Type} {view : α → β} {condition : α → Bool} {viewed : β → Bool} {change : α → α}
    {changed : β → β} (same : ∀ row, viewed (view row) = condition row)
    (commutes : ∀ row, changed (view row) = view (change row)) (rows : List α) :
    modifyFirst viewed changed (rows.map view) = (modifyFirst condition change rows).map view := by
  induction rows with
  | nil => rfl
  | cons head tail ih =>
    rw [map_cons, modifyFirst, modifyFirst, same, commutes, ih]
    cases condition head <;> rfl

namespace Table
variable {ρ ι : Type} [DecidableEq ι]

/-- `change` leaves a table without the row as it is; `amend` is made only where the row is there. -/
inductive Edit (ρ ι : Type) where
  | add (id : ι) (row : ρ)
  | change (id : ι) (update : ρ → ρ)
  | amend (id : ι) (update : ρ → ρ)
  | drop (id : ι)

variable (idOf : ρ → ι)

def lookup (rows : List ρ) (id : ι) : Option ρ := rows.find? fun row => idOf row = id

namespace Edit

def target : Edit ρ ι → ι
  | add id _ | change id _ | amend id _ | drop id => id

def apply (rows : List ρ) : Edit ρ ι → List ρ
  | add _ row => rows ++ [row]
  | change id update | amend id update => modifyFirst (fun row => idOf row = id) update rows
  | drop id => rows.filter fun row => idOf row ≠ id

/-- What the edit does to the row with its id. -/
def act (row : Option ρ) : Edit ρ ι → Option ρ
  | add _ added => some added
  | change _ update | amend _ update => row.map update
  | drop _ => none

/-- The row the edit finds under its id is one it may be made on. -/
def Suits (row : Option ρ) : Edit ρ ι → Prop
  | add _ _ => row = none
  | amend _ _ => row ≠ none
  | change _ _ | drop _ => True

/-- The edit keeps the id of the row it is about. -/
def Keeps : Edit ρ ι → Prop
  | add id row => idOf row = id
  | change _ update | amend _ update => ∀ row, idOf (update row) = idOf row
  | drop _ => True

end Edit

def run (rows : List ρ) (edits : List (Edit ρ ι)) : List ρ := edits.foldl (Edit.apply idOf) rows

/-- Every edit of the run keeps its id, and suits the table it is made on. -/
def Fits : List ρ → List (Edit ρ ι) → Prop
  | _, [] => True
  | rows, edit :: edits =>
    edit.Keeps idOf ∧ edit.Suits (lookup idOf rows edit.target) ∧ Fits (edit.apply idOf rows) edits

section
variable {idOf} {rows : List ρ} {edit : Edit ρ ι}

theorem lookup_eq_some_iff (distinct : (rows.map idOf).Nodup) (id : ι) (row : ρ) :
    lookup idOf rows id = some row ↔ row ∈ rows ∧ idOf row = id := by
  constructor
  · intro found
    have same : idOf row = id := by simpa using find?_some found
    exact ⟨mem_of_find?_eq_some found, same⟩
  · rintro ⟨mem, rfl⟩
    obtain ⟨first, found⟩ : ∃ first, lookup idOf rows (idOf row) = some first := by
      rw [← Option.isSome_iff_exists, lookup, find?_isSome]
      exact ⟨row, mem, by simp⟩
    have same : idOf first = idOf row := by simpa using find?_some found
    rw [found, inj_on_of_nodup_map distinct (mem_of_find?_eq_some found) mem same]

theorem lookup_eq_none_iff (id : ι) : lookup idOf rows id = none ↔ ∀ row ∈ rows, idOf row ≠ id := by
  simp [lookup]

theorem lookup_modifyFirst {update : ρ → ρ} (keeps : ∀ row, idOf (update row) = idOf row) (id key : ι) :
    lookup idOf (modifyFirst (fun row => idOf row = id) update rows) key =
      if id = key then (lookup idOf rows key).map update else lookup idOf rows key := by
  induction rows with
  | nil => simp [modifyFirst, lookup]
  | cons head tail ih =>
    by_cases here : idOf head = id
    · by_cases same : id = key
      · simp [modifyFirst, lookup, here, keeps, same]
      · simp [modifyFirst, lookup, here, keeps, same]
    · by_cases found : idOf head = key
      · subst found
        simp [modifyFirst, lookup, here, Ne.symm here]
      · simpa [modifyFirst, lookup, here, found] using ih

theorem lookup_filter_ne (id key : ι) :
    lookup idOf (rows.filter fun row => idOf row ≠ id) key = if id = key then none else lookup idOf rows key := by
  induction rows with
  | nil => simp [lookup]
  | cons head tail ih =>
    by_cases here : idOf head = id
    · by_cases same : id = key
      · simp [lookup, same]
      · simpa [lookup, here, same] using ih
    · by_cases found : idOf head = key
      · subst found
        simp [lookup, here, Ne.symm here]
      · simpa [lookup, here, found] using ih

/-- An edit acts on the row with its id and on no other. -/
theorem lookup_apply (keeps : edit.Keeps idOf) (suits : edit.Suits (lookup idOf rows edit.target)) (key : ι) :
    lookup idOf (edit.apply idOf rows) key =
      if edit.target = key then edit.act (lookup idOf rows key) else lookup idOf rows key := by
  cases edit with
  | add id row =>
    have same : idOf row = id := keeps
    have absent : lookup idOf rows id = none := suits
    have appended : lookup idOf (rows ++ [row]) key = (lookup idOf rows key).or (if id = key then some row else none) := by
      rw [lookup, find?_append, ← lookup, find?_singleton, same]
      simp
    rw [Edit.apply, appended, Edit.target, Edit.act]
    by_cases here : id = key
    · simp [← here, absent]
    · simp [here]
  | change id update | amend id update => exact lookup_modifyFirst keeps id key
  | drop id => exact lookup_filter_ne id key

theorem nodup_apply (keeps : edit.Keeps idOf) (suits : edit.Suits (lookup idOf rows edit.target))
    (distinct : (rows.map idOf).Nodup) : ((edit.apply idOf rows).map idOf).Nodup := by
  cases edit with
  | add id row =>
    have same : idOf row = id := keeps
    have absent := (lookup_eq_none_iff id).mp suits
    rw [Edit.apply, map_append, map_singleton, nodup_append]
    refine ⟨distinct, nodup_singleton _, fun first mem second added clash => ?_⟩
    obtain ⟨old, inRows, rfl⟩ := mem_map.mp mem
    rw [mem_singleton.mp added] at clash
    exact absent old inRows (clash.trans same)
  | change id update | amend id update =>
    rw [Edit.apply, modifyFirst_map_id keeps]
    exact distinct
  | drop id => exact (filter_sublist.map idOf).nodup distinct

/-- Only an added row brings a new id. -/
theorem exists_of_mem_apply (keeps : edit.Keeps idOf) {row : ρ} (mem : row ∈ edit.apply idOf rows) :
    edit = .add (idOf row) row ∨ ∃ old ∈ rows, idOf old = idOf row := by
  have changed : ∀ {update : ρ → ρ} {condition : ρ → Bool}, (∀ row, idOf (update row) = idOf row) →
      row ∈ modifyFirst condition update rows → ∃ old ∈ rows, idOf old = idOf row := fun keeps mem =>
    mem_map.mp (modifyFirst_map_id keeps _ rows ▸ mem_map_of_mem mem)
  cases edit with
  | add id added =>
    obtain old | new := mem_append.mp mem
    · exact .inr ⟨row, old, rfl⟩
    · obtain rfl := mem_singleton.mp new
      have same : idOf row = id := keeps
      exact .inl (by rw [same])
  | change id update | amend id update => exact .inr (changed keeps mem)
  | drop id => exact .inr ⟨row, mem_of_mem_filter mem, rfl⟩

variable {edits : List (Edit ρ ι)}

theorem nodup_run (fits : Fits idOf rows edits) (distinct : (rows.map idOf).Nodup) :
    ((run idOf rows edits).map idOf).Nodup := by
  induction edits generalizing rows with
  | nil => exact distinct
  | cons edit edits ih => exact ih fits.2.2 (nodup_apply fits.1 fits.2.1 distinct)

/-- What holds of the row with an id, and is kept by the edits of that id, holds after the run. -/
theorem lookup_run_invariant {id : ι} (invariant : Option ρ → Prop) (fits : Fits idOf rows edits)
    (start : invariant (lookup idOf rows id))
    (keeps : ∀ edit ∈ edits, edit.target = id → ∀ row, edit.Suits row → invariant row → invariant (edit.act row)) :
    invariant (lookup idOf (run idOf rows edits) id) := by
  induction edits generalizing rows with
  | nil => exact start
  | cons edit edits ih =>
    refine ih fits.2.2 ?_ fun later mem => keeps later (mem_cons_of_mem _ mem)
    rw [lookup_apply fits.1 fits.2.1]
    by_cases here : edit.target = id
    · rw [if_pos here]
      exact keeps edit mem_cons_self here _ (here ▸ fits.2.1) start
    · rw [if_neg here]
      exact start

/-- What one edit of an id brings about, and the other edits of that id keep, holds after the run. -/
theorem lookup_run_establish {id : ι} (invariant goal : Option ρ → Prop) (fits : Fits idOf rows edits)
    (start : invariant (lookup idOf rows id))
    (keeps : ∀ edit ∈ edits, edit.target = id → ∀ row, edit.Suits row → invariant row → invariant (edit.act row))
    (makes : ∃ edit ∈ edits, edit.target = id ∧ ∀ row, edit.Suits row → invariant row → goal (edit.act row))
    (stays : ∀ edit ∈ edits, edit.target = id → ∀ row, edit.Suits row → invariant row → goal row →
      goal (edit.act row)) : goal (lookup idOf (run idOf rows edits) id) := by
  induction edits generalizing rows with
  | nil =>
    obtain ⟨_, mem, _⟩ := makes
    cases mem
  | cons edit edits ih =>
    obtain ⟨maker, mem, here, brings⟩ := makes
    obtain rfl | later := mem_cons.mp mem
    · have both : invariant (lookup idOf (run idOf (maker.apply idOf rows) edits) id) ∧
          goal (lookup idOf (run idOf (maker.apply idOf rows) edits) id) := by
        refine lookup_run_invariant (fun row => invariant row ∧ goal row) fits.2.2 ?_ ?_
        · rw [lookup_apply fits.1 fits.2.1, if_pos here]
          have suits := here ▸ fits.2.1
          exact ⟨keeps maker mem_cons_self here _ suits start, brings _ suits start⟩
        · intro later mem same row suits holds
          have inEdits := mem_cons_of_mem maker mem
          exact ⟨keeps later inEdits same row suits holds.1, stays later inEdits same row suits holds.1 holds.2⟩
      exact both.2
    · refine ih fits.2.2 ?_ (fun later mem => keeps later (mem_cons_of_mem _ mem))
        ⟨maker, later, here, brings⟩ fun later mem => stays later (mem_cons_of_mem _ mem)
      rw [lookup_apply fits.1 fits.2.1]
      by_cases same : edit.target = id
      · rw [if_pos same]
        exact keeps edit mem_cons_self same _ (same ▸ fits.2.1) start
      · rw [if_neg same]
        exact start

end

end Table

end Starring.Foundation
