import Starring.Foundation.Tables
import Starring.Planning.Declarations
import Starring.Planning.Diff

/-! How declared roles and channels find their rows, and when a list of edits to the
rows brings about what is declared. Roles and channels are two families of resources,
and everything here is said of a family. -/

namespace Starring.Planning
open Foundation

section
variable {ρ : Type} {kind : Kind ρ} {rows : List ρ} {identity : Identity} {name : Option String}

variable {text : String}

theorem resolveMatch_byName (byName : identity.matchBy = .byName) (named : name = some text) :
    resolveMatch kind rows identity name = .ofNamesakes kind text (rows.filter fun row => kind.name row = text) := by
  simp only [resolveMatch, byName, named]

theorem resolveMatch_byExplicitId {id : String} {raw : UInt64} (explicit : identity.matchBy = .byExplicitId id)
    (parsed : parseU64 id = some raw) :
    resolveMatch kind rows identity name = .ofFound (Table.lookup kind.id rows raw) := by
  simp only [resolveMatch, explicit, parsed, Table.lookup]

theorem ofFound_eq_existing (found : Option ρ) (row : ρ) :
    ResolveResult.ofFound found = .existing row ↔ found = some row := by
  cases found <;> simp [ResolveResult.ofFound]

theorem ofFound_eq_missing (found : Option ρ) : ResolveResult.ofFound found = .missing ↔ found = none := by
  cases found <;> simp [ResolveResult.ofFound]

theorem ofNamesakes_eq_existing (text : String) (row : ρ) (namesakes : List ρ) :
    ResolveResult.ofNamesakes kind text namesakes = .existing row ↔ namesakes = [row] := by
  cases namesakes with
  | nil => simp [ResolveResult.ofNamesakes]
  | cons head tail => cases tail <;> simp [ResolveResult.ofNamesakes]

theorem ofNamesakes_eq_missing (text : String) (namesakes : List ρ) :
    ResolveResult.ofNamesakes kind text namesakes = .missing ↔ namesakes = [] := by
  cases namesakes with
  | nil => simp [ResolveResult.ofNamesakes]
  | cons head tail => cases tail <;> simp [ResolveResult.ofNamesakes]

variable {row : ρ}

theorem existing_of_byName (byName : identity.matchBy = .byName) (named : name = some text)
    (found : resolveMatch kind rows identity name = .existing row) :
    row ∈ rows ∧ kind.name row = text ∧ ∀ other ∈ rows, kind.name other = text → other = row := by
  rw [resolveMatch_byName byName named, ofNamesakes_eq_existing] at found
  have members (other : ρ) : other ∈ rows ∧ kind.name other = text ↔ other = row := by
    have mem : other ∈ (rows.filter fun row => kind.name row = text) ↔ other ∈ [row] := by rw [found]
    simpa using mem
  obtain ⟨inRows, here⟩ := (members row).mpr rfl
  exact ⟨inRows, here, fun other mem same => (members other).mp ⟨mem, same⟩⟩

theorem missing_of_byName (byName : identity.matchBy = .byName) (named : name = some text)
    (absent : resolveMatch kind rows identity name = .missing) : ∀ other ∈ rows, kind.name other ≠ text := by
  rw [resolveMatch_byName byName named, ofNamesakes_eq_missing] at absent
  simpa using absent

theorem resolveMatch_mem (found : resolveMatch kind rows identity name = .existing row) : row ∈ rows := by
  cases strategy : identity.matchBy with
  | byName =>
    cases named : name with
    | none => simp [resolveMatch, strategy, named] at found
    | some text => exact (existing_of_byName strategy named found).1
  | byExplicitId id =>
    cases parsed : parseU64 id with
    | none => simp [resolveMatch, strategy, parsed] at found
    | some raw =>
      rw [resolveMatch_byExplicitId strategy parsed, ofFound_eq_existing] at found
      exact List.mem_of_find?_eq_some found

theorem resolveMatch_eq_existing (ids : (rows.map kind.id).Nodup) (byName : identity.matchBy = .byName)
    (named : name = some text) (mem : row ∈ rows) (here : kind.name row = text)
    (only : ∀ other ∈ rows, kind.name other = text → kind.id other = kind.id row) :
    resolveMatch kind rows identity name = .existing row := by
  have single : (rows.filter fun row => kind.name row = text) = [row] := by
    rw [← List.perm_singleton, List.perm_ext_iff_of_nodup ((List.Nodup.of_map _ ids).filter _) (List.nodup_singleton _)]
    intro other
    simp only [List.mem_filter, decide_eq_true_eq, List.mem_singleton]
    constructor
    · rintro ⟨inRows, same⟩
      exact List.inj_on_of_nodup_map ids inRows mem (only other inRows same)
    · rintro rfl
      exact ⟨mem, here⟩
  rw [resolveMatch_byName byName named, ofNamesakes_eq_existing, single]

theorem resolveMatch_eq_missing (byName : identity.matchBy = .byName) (named : name = some text)
    (absent : ∀ other ∈ rows, kind.name other ≠ text) : resolveMatch kind rows identity name = .missing := by
  have none : (rows.filter fun row => kind.name row = text) = [] := by simpa using absent
  rw [resolveMatch_byName byName named, ofNamesakes_eq_missing, none]

end

end Starring.Planning
