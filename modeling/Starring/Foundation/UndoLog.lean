import Starring.Foundation.Tables

/-! Undo logs of tables. Every edit of a table leaves an entry, the newest first, that
takes it back: what was added is removed, what was changed is put back, and what was
dropped has to be brought again as a new row. The log is right if undoing all of it
leaves the first table without the rows that were dropped. -/

namespace Starring.Foundation
open List

section
variable {α : Type} {condition : α → Bool} {change : α → α}

theorem modifyFirst_append (rows : List α) {extra : List α} (none : ∀ row ∈ extra, condition row = false) :
    modifyFirst condition change (rows ++ extra) = modifyFirst condition change rows ++ extra := by
  induction rows with
  | nil => exact modifyFirst_of_none none change
  | cons head tail ih =>
    rw [cons_append, modifyFirst, modifyFirst, ih]
    cases condition head <;> rfl

theorem modifyFirst_eq_self {rows : List α} (fixed : ∀ row, rows.find? condition = some row → change row = row) :
    modifyFirst condition change rows = rows := by
  induction rows with
  | nil => rfl
  | cons head tail ih =>
    rw [modifyFirst]
    cases here : condition head with
    | true =>
      have same := fixed head (find?_cons_of_pos here)
      simp [same]
    | false =>
      have rest := ih fun row found => fixed row (by rwa [find?_cons_of_neg (by simp [here])])
      simp [rest]

end

namespace UndoLog
variable {ρ ι : Type} [DecidableEq ι] (idOf : ρ → ι)

section
variable {idOf} {first second : ι} {change other : ρ → ρ}

theorem modifyFirst_modifyFirst (keeps : ∀ row, idOf (change row) = idOf row) (rows : List ρ) :
    modifyFirst (fun row => idOf row = first) other (modifyFirst (fun row => idOf row = first) change rows) =
      modifyFirst (fun row => idOf row = first) (other ∘ change) rows := by
  induction rows with
  | nil => rfl
  | cons head tail ih =>
    by_cases here : idOf head = first
    · simp [modifyFirst, here, keeps]
    · simp [modifyFirst, here, ih]

theorem exists_of_mem_change (keeps : ∀ row, idOf (change row) = idOf row) {rows : List ρ} {row : ρ}
    (mem : row ∈ modifyFirst (fun row => idOf row = first) change rows) : ∃ other ∈ rows, idOf other = idOf row :=
  mem_map.mp (modifyFirst_map_id keeps (fun row => idOf row = first) rows ▸ mem_map_of_mem mem)

theorem modifyFirst_comm (keeps : ∀ row, idOf (change row) = idOf row) (otherKeeps : ∀ row, idOf (other row) = idOf row)
    (commute : first = second → ∀ row, other (change row) = change (other row)) (rows : List ρ) :
    modifyFirst (fun row => idOf row = second) other (modifyFirst (fun row => idOf row = first) change rows) =
      modifyFirst (fun row => idOf row = first) change (modifyFirst (fun row => idOf row = second) other rows) := by
  by_cases same : first = second
  · subst same
    have both : other ∘ change = change ∘ other := funext (commute rfl)
    rw [modifyFirst_modifyFirst keeps, modifyFirst_modifyFirst otherKeeps, both]
  · induction rows with
    | nil => rfl
    | cons head tail ih =>
      by_cases here : idOf head = first
      · simp [modifyFirst, here, keeps, same]
      · by_cases there : idOf head = second
        · simp [modifyFirst, there, otherKeeps, Ne.symm same]
        · simp [modifyFirst, here, there, ih]

theorem filter_modifyFirst (keeps : ∀ row, idOf (change row) = idOf row) (rows : List ρ) :
    (modifyFirst (fun row => idOf row = first) change rows).filter (fun row => idOf row ≠ second) =
      modifyFirst (fun row => idOf row = first) change (rows.filter fun row => idOf row ≠ second) := by
  induction rows with
  | nil => rfl
  | cons head tail ih =>
    by_cases here : idOf head = first
    · by_cases there : first = second
      · have none : ∀ row ∈ tail.filter (fun row => idOf row ≠ second), decide (idOf row = second) = false := by
          simp
        subst there
        simpa [modifyFirst, here, keeps] using (modifyFirst_of_none none change).symm
      · simp [modifyFirst, here, keeps, there]
    · by_cases there : idOf head = second
      · have apart : second ≠ first := there ▸ here
        simpa [modifyFirst, there, apart] using ih
      · simpa [modifyFirst, here, there] using ih

end

/-- How an edit is taken back. Nothing takes back an edit whose entry is `stuck`. -/
inductive Undo (ρ ι : Type) where
  | remove (id : ι)
  | put (id : ι) (restore : ρ → ρ)
  | bring (old : ι)
  | stuck

namespace Undo

/-- What becomes of the rows that are there. -/
def leave (rows : List ρ) : Undo ρ ι → List ρ
  | remove id => rows.filter fun row => idOf row ≠ id
  | put id restore => modifyFirst (fun row => idOf row = id) restore rows
  | bring _ | stuck => rows

/-- What the edit and its undoing make of the first table. -/
def lose (rows : List ρ) : Undo ρ ι → List ρ
  | remove _ | stuck => rows
  | put id restore => modifyFirst (fun row => idOf row = id) restore rows
  | bring old => rows.filter fun row => idOf row ≠ old

def dropped : Undo ρ ι → Option ι
  | bring old => some old
  | remove _ | put _ _ | stuck => none

/-- The entry may change rows with the id. -/
def Touches (id : ι) : Undo ρ ι → Prop
  | remove other | put other _ => other = id
  | bring _ | stuck => False

/-- The row with the id is put back by the change. -/
def Keeps : Undo ρ ι → Prop
  | put _ restore => ∀ row, idOf (restore row) = idOf row
  | remove _ | bring _ | stuck => True

variable {idOf}

theorem leave_append {undo : Undo ρ ι} {extra : List ρ} (spared : ∀ row ∈ extra, ¬undo.Touches (idOf row))
    (rows : List ρ) : undo.leave idOf (rows ++ extra) = undo.leave idOf rows ++ extra := by
  cases undo with
  | remove id =>
    have all : extra.filter (fun row => idOf row ≠ id) = extra :=
      filter_eq_self.mpr fun row mem => decide_eq_true fun same => spared row mem same.symm
    rw [leave, leave, filter_append, all]
  | put id restore => exact modifyFirst_append rows fun row mem => decide_eq_false fun same => spared row mem same.symm
  | bring old | stuck => rfl

end Undo

def survive (rows : List ρ) (log : List (Undo ρ ι)) : List ρ := log.foldl (Undo.leave idOf) rows

theorem survive_cons (rows : List ρ) (undo : Undo ρ ι) (log : List (Undo ρ ι)) :
    survive idOf rows (undo :: log) = survive idOf (undo.leave idOf rows) log := rfl

def kept (rows : List ρ) (log : List (Undo ρ ι)) : List ρ := log.foldr (fun undo rows => undo.lose idOf rows) rows

section
variable {idOf} {log : List (Undo ρ ι)} (keeps : ∀ undo ∈ log, undo.Keeps idOf)
include keeps

theorem survive_filter (rows : List ρ) (id : ι) :
    survive idOf (rows.filter fun row => idOf row ≠ id) log = (survive idOf rows log).filter fun row => idOf row ≠ id := by
  induction log generalizing rows with
  | nil => rfl
  | cons undo log ih =>
    have later := ih fun other mem => keeps other (mem_cons_of_mem _ mem)
    rw [survive_cons, survive_cons]
    cases undo with
    | remove other =>
      rw [← later, Undo.leave, Undo.leave, filter_filter, filter_filter]
      exact congrArg (survive idOf · log) (filter_congr fun _ _ => Bool.and_comm _ _)
    | put other restore =>
      rw [← later, Undo.leave, Undo.leave, filter_modifyFirst (keeps _ mem_cons_self)]
    | bring old | stuck => exact later rows

/-- What is removed anyway may be dropped before. -/
theorem survive_filter_removed {id : ι} (removed : .remove id ∈ log) (rows : List ρ) :
    survive idOf (rows.filter fun row => idOf row ≠ id) log = survive idOf rows log := by
  rw [survive_filter keeps]
  refine filter_eq_self.mpr fun row mem => ?_
  induction log generalizing rows with
  | nil => cases removed
  | cons undo log ih =>
    have keepsLater := fun other mem => keeps other (mem_cons_of_mem undo mem)
    obtain rfl | later := mem_cons.mp removed
    · rw [survive_cons, Undo.leave, survive_filter keepsLater] at mem
      exact (mem_filter.mp mem).2
    · exact ih keepsLater later _ mem

theorem survive_modifyFirst_removed {id : ι} (removed : .remove id ∈ log) {change : ρ → ρ}
    (changeKeeps : ∀ row, idOf (change row) = idOf row) (rows : List ρ) :
    survive idOf (modifyFirst (fun row => idOf row = id) change rows) log = survive idOf rows log := by
  have none : ∀ row ∈ rows.filter (fun row => idOf row ≠ id), decide (idOf row = id) = false := by simp
  rw [← survive_filter_removed keeps removed, filter_modifyFirst changeKeeps, modifyFirst_of_none none,
    survive_filter_removed keeps removed]

theorem survive_modifyFirst {id : ι} {change : ρ → ρ} (changeKeeps : ∀ row, idOf (change row) = idOf row)
    (commute : ∀ restore, .put id restore ∈ log → ∀ row, restore (change row) = change (restore row)) (rows : List ρ) :
    survive idOf (modifyFirst (fun row => idOf row = id) change rows) log =
      modifyFirst (fun row => idOf row = id) change (survive idOf rows log) := by
  induction log generalizing rows with
  | nil => rfl
  | cons undo log ih =>
    have later := ih (fun other mem => keeps other (mem_cons_of_mem _ mem))
      fun restore mem => commute restore (mem_cons_of_mem _ mem)
    rw [survive_cons, survive_cons]
    cases undo with
    | remove other => rw [← later, Undo.leave, Undo.leave, filter_modifyFirst changeKeeps]
    | put other restore =>
      rw [← later, Undo.leave, Undo.leave, modifyFirst_comm changeKeeps (keeps _ mem_cons_self)]
      rintro rfl
      exact commute restore mem_cons_self
    | bring old | stuck => exact later rows

end

/-- The log takes the table back to the first one, but for what was dropped. -/
structure Records (base rows : List ρ) (log : List (Undo ρ ι)) : Prop where
  keeps : ∀ undo ∈ log, undo.Keeps idOf
  survives : .stuck ∉ log → survive idOf rows log = kept idOf base log
  added : ∀ row ∈ rows, (∃ first ∈ base, idOf first = idOf row) ∨ .remove (idOf row) ∈ log
  new : ∀ id, .remove id ∈ log → ∀ first ∈ base, idOf first ≠ id
  old : ∀ id ∈ log.filterMap Undo.dropped, ∃ first ∈ base, idOf first = id
  gone : ∀ id ∈ log.filterMap Undo.dropped, ∀ row ∈ rows, idOf row ≠ id
  once : (log.filterMap Undo.dropped).Nodup

namespace Records
variable {idOf} {base rows : List ρ} {log : List (Undo ρ ι)}

theorem start (base : List ρ) : Records idOf base base [] where
  keeps _ mem := (not_mem_nil mem).elim
  survives _ := rfl
  added row mem := .inl ⟨row, mem, rfl⟩
  new _ mem := (not_mem_nil mem).elim
  old _ mem := (not_mem_nil mem).elim
  gone _ mem := (not_mem_nil mem).elim
  once := nodup_nil

variable (records : Records idOf base rows log)
include records

theorem add {row : ρ} (unknown : ∀ first ∈ base, idOf first ≠ idOf row) (unmade : .remove (idOf row) ∉ log) :
    Records idOf base (rows ++ [row]) (.remove (idOf row) :: log) where
  keeps undo mem := (mem_cons.mp mem).elim (fun same => same ▸ trivial) (records.keeps undo)
  survives free := by
    have fresh : ∀ other ∈ rows, idOf other ≠ idOf row := by
      intro other mem same
      obtain ⟨first, inBase, here⟩ | added := records.added other mem
      · exact unknown first inBase (here.trans same)
      · exact unmade (same ▸ added)
    have others : (rows ++ [row]).filter (fun other => idOf other ≠ idOf row) = rows := by
      rw [filter_append, filter_eq_self.mpr fun other mem => decide_eq_true (fresh other mem)]
      simp
    rw [survive_cons, Undo.leave, others]
    exact records.survives fun mem => free (mem_cons_of_mem _ mem)
  added other mem := by
    obtain older | here := mem_append.mp mem
    · exact (records.added other older).imp id (mem_cons_of_mem _)
    · exact .inr (mem_singleton.mp here ▸ mem_cons_self)
  new id mem := by
    obtain same | older := mem_cons.mp mem
    · obtain rfl := Undo.remove.inj same
      exact unknown
    · exact records.new id older
  old := records.old
  gone id mem other held := by
    obtain older | here := mem_append.mp held
    · exact records.gone id mem other older
    · obtain ⟨first, inBase, rfl⟩ := records.old id mem
      exact mem_singleton.mp here ▸ (unknown first inBase).symm
  once := records.once

/-- A change of a row whose entry is `undo`. -/
theorem changeWith {id : ι} {change : ρ → ρ} (changeKeeps : ∀ row, idOf (change row) = idOf row) {undo : Undo ρ ι}
    (keeps : undo.Keeps idOf) (drops : undo.dropped = none) (adds : ∀ other, undo ≠ .remove other)
    (survives : .stuck ∉ undo :: log →
      survive idOf (modifyFirst (fun row => idOf row = id) change rows) (undo :: log) = kept idOf base (undo :: log)) :
    Records idOf base (modifyFirst (fun row => idOf row = id) change rows) (undo :: log) where
  keeps other mem := (mem_cons.mp mem).elim (fun same => same ▸ keeps) (records.keeps other)
  survives := survives
  added row mem := by
    obtain ⟨other, held, same⟩ := exists_of_mem_change changeKeeps mem
    exact same ▸ (records.added other held).imp (fun known => known) (mem_cons_of_mem _)
  new other mem := records.new other ((mem_cons.mp mem).resolve_left fun same => adds other same.symm)
  old := by
    rw [filterMap_cons_none drops]
    exact records.old
  gone other mem row held := by
    obtain ⟨before, inRows, same⟩ := exists_of_mem_change changeKeeps held
    exact same ▸ records.gone other (filterMap_cons_none drops ▸ mem) before inRows
  once := by
    rw [filterMap_cons_none drops]
    exact records.once

theorem change {id : ι} {change restore : ρ → ρ} (changeKeeps : ∀ row, idOf (change row) = idOf row)
    (restoreKeeps : ∀ row, idOf (restore row) = idOf row) (absorbs : ∀ row, restore (change row) = restore row)
    (commute : ∀ other, .put id other ∈ log → ∀ row, other (restore row) = restore (other row)) :
    Records idOf base (modifyFirst (fun row => idOf row = id) change rows) (.put id restore :: log) := by
  refine records.changeWith changeKeeps restoreKeeps rfl (fun _ same => nomatch same) fun free => ?_
  have both : restore ∘ change = restore := funext absorbs
  rw [survive_cons, Undo.leave, modifyFirst_modifyFirst changeKeeps, both,
    survive_modifyFirst records.keeps restoreKeeps commute, records.survives fun mem => free (mem_cons_of_mem _ mem)]
  rfl

theorem stick {id : ι} {change : ρ → ρ} (changeKeeps : ∀ row, idOf (change row) = idOf row) :
    Records idOf base (modifyFirst (fun row => idOf row = id) change rows) (.stuck :: log) :=
  records.changeWith changeKeeps trivial rfl (fun _ same => nomatch same) fun free => (free mem_cons_self).elim

theorem drop {id : ι} (known : ∃ first ∈ base, idOf first = id) (present : ∃ row ∈ rows, idOf row = id) :
    Records idOf base (rows.filter fun row => idOf row ≠ id) (.bring id :: log) where
  keeps undo mem := (mem_cons.mp mem).elim (fun same => same ▸ trivial) (records.keeps undo)
  survives free := by
    rw [survive_cons, Undo.leave, survive_filter records.keeps,
      records.survives fun mem => free (mem_cons_of_mem _ mem)]
    rfl
  added row mem := (records.added row (mem_of_mem_filter mem)).imp (fun known => known) (mem_cons_of_mem _)
  new other mem := records.new other ((mem_cons.mp mem).resolve_left fun same => nomatch same)
  old other mem := by
    obtain rfl | older := mem_cons.mp mem
    · exact known
    · exact records.old other older
  gone other mem row held := by
    obtain ⟨inRows, differs⟩ := mem_filter.mp held
    obtain rfl | older := mem_cons.mp mem
    · exact of_decide_eq_true differs
    · exact records.gone other older row inRows
  once := by
    refine nodup_cons.mpr ⟨fun mem => ?_, records.once⟩
    obtain ⟨row, inRows, same⟩ := present
    exact records.gone id mem row inRows same

theorem changeAdded {id : ι} (added : .remove id ∈ log) {change : ρ → ρ}
    (changeKeeps : ∀ row, idOf (change row) = idOf row) :
    Records idOf base (modifyFirst (fun row => idOf row = id) change rows) log where
  keeps := records.keeps
  survives free := by rw [survive_modifyFirst_removed records.keeps added changeKeeps, records.survives free]
  added row mem := by
    obtain ⟨other, held, same⟩ := exists_of_mem_change changeKeeps mem
    exact same ▸ records.added other held
  new := records.new
  old := records.old
  gone other mem row held := by
    obtain ⟨before, inRows, same⟩ := exists_of_mem_change changeKeeps held
    exact same ▸ records.gone other mem before inRows
  once := records.once

theorem dropAdded {id : ι} (added : .remove id ∈ log) :
    Records idOf base (rows.filter fun row => idOf row ≠ id) log where
  keeps := records.keeps
  survives free := by rw [survive_filter_removed records.keeps added, records.survives free]
  added row mem := records.added row (mem_of_mem_filter mem)
  new := records.new
  old := records.old
  gone other mem row held := records.gone other mem row (mem_of_mem_filter held)
  once := records.once

end Records

section
variable {idOf} {base : List ρ}

theorem find?_filter_id {id : ι} (left : ι → Prop) [DecidablePred left] {row : ρ}
    (found : (base.filter fun row => left (idOf row)).find? (fun row => idOf row = id) = some row) :
    base.find? (fun row => idOf row = id) = some row := by
  have same : idOf row = id := by simpa using find?_some found
  have stays : left id := by
    rw [← same]
    exact of_decide_eq_true (mem_filter.mp (mem_of_find?_eq_some found)).2
  rw [find?_filter] at found
  rw [← found]
  refine find?_congr fun other _ => decide_eq_decide.mpr ?_
  exact ⟨fun here => ⟨decide_eq_true (here ▸ stays), decide_eq_true here⟩, fun both => of_decide_eq_true both.2⟩

/-- Where every change is put back exactly, only what was dropped is missing. -/
theorem kept_eq_filter {log : List (Undo ρ ι)}
    (restores : ∀ id restore, .put id restore ∈ log → ∀ row, base.find? (fun row => idOf row = id) = some row →
      restore row = row) :
    kept idOf base log = base.filter fun row => idOf row ∉ log.filterMap Undo.dropped := by
  induction log with
  | nil => simp [kept]
  | cons undo log ih =>
    have later := ih fun id restore mem => restores id restore (mem_cons_of_mem _ mem)
    rw [kept, foldr_cons, ← kept, later]
    cases undo with
    | remove id | stuck => rfl
    | put id restore =>
      refine modifyFirst_eq_self fun row found => restores id restore mem_cons_self row ?_
      exact find?_filter_id (· ∉ log.filterMap Undo.dropped) found
    | bring old =>
      rw [Undo.lose, filter_filter]
      refine filter_congr fun row _ => ?_
      simp [Undo.dropped]

/-- Rows that are each the only one with its id can be put last. -/
theorem perm_filter_append {rows : List ρ} (distinct : (rows.map idOf).Nodup)
    (single : ∀ row ∈ rows, base.filter (fun other => idOf other = idOf row) = [row]) :
    base.Perm ((base.filter fun row => idOf row ∉ rows.map idOf) ++ rows) := by
  induction rows with
  | nil => simp
  | cons row rows ih =>
    obtain ⟨new, distinctLater⟩ := nodup_cons.mp distinct
    have later := ih distinctLater fun other mem => single other (mem_cons_of_mem _ mem)
    have here : (base.filter fun other => idOf other ∉ rows.map idOf).filter (fun other => idOf other = idOf row) =
        [row] := by
      rw [← single row mem_cons_self, filter_filter]
      refine filter_congr fun other _ => ?_
      by_cases same : idOf other = idOf row
      · rw [same]
        simp [new]
      · simp [same]
    have others : (base.filter fun other => idOf other ∉ rows.map idOf).filter
        (fun other => !decide (idOf other = idOf row)) = base.filter fun other => idOf other ∉ (row :: rows).map idOf := by
      rw [filter_filter]
      refine filter_congr fun other _ => ?_
      simp
    have split := filter_append_perm (fun other => decide (idOf other = idOf row))
      (base.filter fun other => idOf other ∉ rows.map idOf)
    rw [here, others] at split
    refine later.trans ((split.symm.append_right _).trans ?_)
    rw [append_assoc, singleton_append]
    exact perm_middle.symm

end

/-- The log is undone, newest entry first. What was dropped comes again as the new rows. -/
inductive Undoes : List ρ → List (Undo ρ ι) → List ρ → List ρ → Prop where
  | done (rows : List ρ) : Undoes rows [] [] rows
  | leave {rows news last : List ρ} {undo : Undo ρ ι} {log : List (Undo ρ ι)} (stays : undo.dropped = none)
      (rest : Undoes (undo.leave idOf rows) log news last) : Undoes rows (undo :: log) news last
  | bring {rows news last : List ρ} {old : ι} {row : ρ} {log : List (Undo ρ ι)}
      (rest : Undoes (rows ++ [row]) log news last) : Undoes rows (.bring old :: log) (row :: news) last

section
variable {idOf} {log : List (Undo ρ ι)} {rows news last : List ρ}

theorem survive_append {extra : List ρ} (spared : ∀ row ∈ extra, ∀ undo ∈ log, ¬undo.Touches (idOf row)) :
    survive idOf (rows ++ extra) log = survive idOf rows log ++ extra := by
  induction log generalizing rows with
  | nil => rfl
  | cons undo log ih =>
    rw [survive_cons, survive_cons, Undo.leave_append fun row mem => spared row mem undo mem_cons_self]
    exact ih fun row mem other held => spared row mem other (mem_cons_of_mem _ held)

theorem Undoes.eq (undoes : Undoes idOf rows log news last)
    (spared : ∀ row ∈ news, ∀ undo ∈ log, ¬undo.Touches (idOf row)) : last = survive idOf rows log ++ news := by
  induction undoes with
  | done rows => exact (append_nil rows).symm
  | leave stays rest ih => exact ih fun row mem other held => spared row mem other (mem_cons_of_mem _ held)
  | @bring rows news last old row log rest ih =>
    have untouched := fun undo held => spared row mem_cons_self undo (mem_cons_of_mem _ held)
    have later := ih fun other mem undo held =>
      spared other (mem_cons_of_mem _ mem) undo (mem_cons_of_mem _ held)
    rw [later, survive_append fun other mem => mem_singleton.mp mem ▸ untouched, append_assoc]
    rfl

end

end UndoLog

end Starring.Foundation
