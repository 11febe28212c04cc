import Starring.Planning.VirtualApply
import Starring.Planning.Matching

/-! The keys that a dry run has bound. A key keeps the id it is bound to; the id is the
one of the row that the key resolves to, or a new one that no other key is bound to. -/

namespace Starring.Planning
open Foundation

abbrev KeyMap (ι : Type) := Std.ExtTreeMap ResourceKey ι

theorem KeyMap.getElem?_insert {ι : Type} (bindings : KeyMap ι) (key other : ResourceKey) (id : ι) :
    (bindings.insert key id)[other]? = if key = other then some id else bindings[other]? := by
  simp [Std.ExtTreeMap.getElem?_insert]

def Grows {ι : Type} (first second : KeyMap ι) : Prop :=
  ∀ (key : ResourceKey) (id : ι), first[key]? = some id → second[key]? = some id

theorem Grows.refl {ι : Type} (bindings : KeyMap ι) : Grows bindings bindings := fun _ _ bound => bound

theorem Grows.trans {ι : Type} {first second third : KeyMap ι} (early : Grows first second) (late : Grows second third) :
    Grows first third := fun key id bound => late key id (early key id bound)

theorem Grows.insert {ι : Type} {bindings : KeyMap ι} {key : ResourceKey} (unbound : bindings[key]? = none) (id : ι) :
    Grows bindings (bindings.insert key id) := by
  intro other bound held
  rw [KeyMap.getElem?_insert]
  by_cases same : key = other
  · rw [← same, unbound] at held
    cases held
  · rw [if_neg same, held]

section
variable {ρ ι : Type} {bindings after : KeyMap ι} {key : ResourceKey} {resolved : Option (ResolveResult ρ)} {idOf : ρ → ι}
  {found : ι}

/-- Resolving a key binds it, to the id of its row if it was not bound before. -/
theorem resolveKey_ok (ok : resolveKey bindings key resolved idOf = .ok (found, after)) :
    after[key]? = some found ∧ (after = bindings ∨ bindings[key]? = none ∧ after = bindings.insert key found ∧
      ∃ row, resolved = some (.existing row) ∧ idOf row = found) := by
  unfold resolveKey at ok
  cases held : bindings[key]? with
  | some bound =>
    simp only [held, Except.ok.injEq, Prod.mk.injEq] at ok
    obtain ⟨rfl, rfl⟩ := ok
    exact ⟨held, .inl rfl⟩
  | none =>
    match resolved with
    | none => simp [held] at ok
    | some .missing => simp [held] at ok
    | some (.conflict reason) => simp [held] at ok
    | some (.existing row) =>
      simp only [held, Except.ok.injEq, Prod.mk.injEq] at ok
      obtain ⟨rfl, rfl⟩ := ok
      refine ⟨?_, .inr ⟨rfl, rfl, row, rfl, rfl⟩⟩
      rw [KeyMap.getElem?_insert, if_pos rfl]

theorem resolveKey_grows (ok : resolveKey bindings key resolved idOf = .ok (found, after)) : Grows bindings after := by
  obtain ⟨-, rfl | ⟨unbound, rfl, -⟩⟩ := resolveKey_ok ok
  · exact .refl after
  · exact .insert unbound found

theorem resolveKey_unbound {rowFor : ResourceKey → Option (ResolveResult ρ)}
    (ok : resolveKey bindings key (rowFor key) idOf = .ok (found, after)) {other : ResourceKey}
    (unbound : bindings[other]? = none) (missing : rowFor other = some .missing) : after[other]? = none := by
  obtain ⟨-, rfl | ⟨-, rfl, row, existing, -⟩⟩ := resolveKey_ok ok
  · exact unbound
  · have differ : key ≠ other := fun same => by
      rw [same, missing] at existing
      cases existing
    rw [KeyMap.getElem?_insert, if_neg differ, unbound]

end

/-- Every id that is bound is the one of the row its key resolves to or, where there is none, a new
one between `low` and `next` that is bound once. -/
structure Ledger {ρ ι : Type} (resolved : ResourceKey → Option (ResolveResult ρ)) (idOf : ρ → ι) (raw : ι → Nat)
    (low next : Nat) (bindings : KeyMap ι) : Prop where
  known : ∀ (key : ResourceKey) (id : ι), bindings[key]? = some id →
    (∃ row, resolved key = some (.existing row) ∧ idOf row = id) ∨
      resolved key = some .missing ∧ low < raw id ∧ raw id < next
  distinct : ∀ (first second : ResourceKey) (id : ι), bindings[first]? = some id → bindings[second]? = some id → low < raw id →
    first = second
  low : ∀ key row, resolved key = some (.existing row) → raw (idOf row) ≤ low

namespace Ledger
variable {ρ ι : Type} {resolved : ResourceKey → Option (ResolveResult ρ)} {idOf : ρ → ι} {raw : ι → Nat}
  {low next : Nat} {bindings after : KeyMap ι} {key : ResourceKey} {id : ι}

theorem resolve (ledger : Ledger resolved idOf raw low next bindings)
    (ok : resolveKey bindings key (resolved key) idOf = .ok (id, after)) :
    Ledger resolved idOf raw low next after := by
  obtain ⟨-, rfl | ⟨unbound, rfl, row, existing, rfl⟩⟩ := resolveKey_ok ok
  · exact ledger
  · have small := ledger.low key row existing
    refine ⟨fun other bound held => ?_, fun first second bound here there fresh => ?_, ledger.low⟩
    · rw [KeyMap.getElem?_insert] at held
      by_cases same : key = other
      · rw [if_pos same] at held
        exact .inl ⟨row, same ▸ existing, Option.some.inj held⟩
      · rw [if_neg same] at held
        exact ledger.known other bound held
    · rw [KeyMap.getElem?_insert] at here there
      have old : ∀ other, (if key = other then some (idOf row) else bindings[other]?) = some bound →
          bindings[other]? = some bound := fun other held => by
        by_cases same : key = other
        · rw [if_pos same] at held
          obtain rfl := Option.some.inj held
          exact absurd fresh (Nat.not_lt.mpr small)
        · rwa [if_neg same] at held
      exact ledger.distinct first second bound (old first here) (old second there) fresh

theorem bind (ledger : Ledger resolved idOf raw low next bindings)
    (missing : resolved key = some .missing) (above : low < next) (new : raw id = next) :
    Ledger resolved idOf raw low (next + 1) (bindings.insert key id) := by
  have fresh : ∀ other : ResourceKey, bindings[other]? ≠ some id := fun other held => by
    obtain ⟨row, existing, rfl⟩ | ⟨-, -, below⟩ := ledger.known other id held
    · have small := ledger.low other row existing
      omega
    · omega
  refine ⟨fun other bound held => ?_, fun first second bound here there _ => ?_, ledger.low⟩
  · rw [KeyMap.getElem?_insert] at held
    by_cases same : key = other
    · rw [if_pos same] at held
      obtain rfl := Option.some.inj held
      exact .inr ⟨same ▸ missing, by omega⟩
    · rw [if_neg same] at held
      obtain existing | ⟨absent, aboveLow, below⟩ := ledger.known other bound held
      · exact .inl existing
      · exact .inr ⟨absent, aboveLow, by omega⟩
  · rw [KeyMap.getElem?_insert] at here there
    by_cases isFirst : key = first
    · by_cases isSecond : key = second
      · exact isFirst.symm.trans isSecond
      · rw [if_pos isFirst] at here
        rw [if_neg isSecond] at there
        exact (fresh second (there.trans here.symm)).elim
    · rw [if_neg isFirst] at here
      by_cases isSecond : key = second
      · rw [if_pos isSecond] at there
        exact (fresh first (here.trans there.symm)).elim
      · rw [if_neg isSecond] at there
        obtain ⟨row, existing, rfl⟩ | ⟨-, aboveLow, -⟩ := ledger.known first bound here
        · have small := ledger.low first row existing
          omega
        · exact ledger.distinct first second bound here there aboveLow

theorem later {next' : Nat} (ledger : Ledger resolved idOf raw low next bindings) (le : next ≤ next') :
    Ledger resolved idOf raw low next' bindings :=
  ⟨fun key id held => (ledger.known key id held).imp_right fun ⟨absent, above, below⟩ =>
      ⟨absent, above, Nat.lt_of_lt_of_le below le⟩,
    ledger.distinct, ledger.low⟩

end Ledger

end Starring.Planning
