import Starring.Foundation.Checks
import Starring.Foundation.Service

/-! Ordered maps and the lists of their entries. -/

namespace Starring.Foundation
open List
variable {κ ι : Type} [Ord κ] [Std.TransOrd κ] {map : Std.ExtTreeMap κ ι} {key : κ} {value : ι}

theorem exists_of_mem (mem : key ∈ map) : ∃ value, map[key]? = some value :=
  Option.isSome_iff_exists.mp (Std.ExtTreeMap.mem_iff_isSome_getElem?.mp mem)

theorem mem_of_getElem? (found : map[key]? = some value) : key ∈ map :=
  Std.ExtTreeMap.mem_iff_isSome_getElem?.mpr (by simp [found])

variable [Std.LawfulEqOrd κ]

theorem getElem?_insert_of_ne {other : κ} (ne : key ≠ other) : (map.insert key value)[other]? = map[other]? := by
  rw [Std.ExtTreeMap.getElem?_insert, if_neg fun same => ne (Std.LawfulEqCmp.eq_of_compare same)]

theorem nodup_keys_toList (map : Std.ExtTreeMap κ ι) : (map.toList.map Prod.fst).Nodup := by
  refine pairwise_map.mpr (map.distinct_keys_toList.imp fun apart same => apart ?_)
  rw [same]
  exact Std.ReflCmp.compare_self

theorem not_mem_keys_toList (absent : map[key]? = none) : key ∉ map.toList.map Prod.fst := by
  intro mem
  obtain ⟨⟨other, found⟩, held, rfl⟩ := mem_map.mp mem
  rw [Std.ExtTreeMap.mem_toList_iff_getElem?_eq_some] at held
  cases absent.symm.trans held

/-- A new key adds one entry. -/
theorem toList_insert_perm (absent : map[key]? = none) : (map.insert key value).toList.Perm ((key, value) :: map.toList) := by
  refine (perm_ext_iff_of_nodup (nodup_keys_toList _).of_map ?_).mpr ?_
  · exact List.Nodup.of_map Prod.fst (nodup_cons.mpr ⟨not_mem_keys_toList absent, nodup_keys_toList map⟩)
  · rintro ⟨other, found⟩
    rw [Std.ExtTreeMap.mem_toList_iff_getElem?_eq_some, mem_cons, Std.ExtTreeMap.mem_toList_iff_getElem?_eq_some]
    by_cases same : key = other
    · subst same
      simp [absent, eq_comm]
    · simp [getElem?_insert_of_ne same, Ne.symm same]

/-- Under one key there is at most one entry. -/
theorem filter_toList_key [DecidableEq κ] (map : Std.ExtTreeMap κ ι) (key : κ) :
    (map.toList.filter fun item => item.1 = key) = (map[key]?.map fun value => (key, value)).toList := by
  have single : (map.toList.filter fun item => item.1 = key).Perm (map[key]?.map fun value => (key, value)).toList := by
    refine (perm_ext_iff_of_nodup ((nodup_keys_toList map).of_map.filter _) ?_).mpr ?_
    · cases map[key]? <;> simp
    · rintro ⟨other, value⟩
      simp only [mem_filter, Std.ExtTreeMap.mem_toList_iff_getElem?_eq_some, decide_eq_true_eq, Option.mem_toList,
        Option.map_eq_some_iff, Prod.mk.injEq]
      constructor
      · rintro ⟨found, rfl⟩
        exact ⟨value, found, rfl, rfl⟩
      · rintro ⟨held, found, rfl, rfl⟩
        exact ⟨found, rfl⟩
  cases found : map[key]? with
  | none => exact perm_nil.mp (by rwa [found] at single)
  | some value => exact perm_singleton.mp (by rwa [found] at single)

section Built
variable {ε σ ι' : Type} {entries : List (κ × ι)} {start result : Std.ExtTreeMap κ ι'}

/-- A map that is built from entries with different keys, when every value can be made. -/
theorem foldlM_insert (resolve : ι → Except ε ι') (distinct : (entries.map Prod.fst).Nodup)
    (resolves : ∀ entry ∈ entries, ∃ made, resolve entry.2 = .ok made) (start : Std.ExtTreeMap κ ι') :
    ∃ result, entries.foldlM (fun built entry => do
        let made ← resolve entry.2
        .ok (built.insert entry.1 made)) start = .ok result ∧
      (∀ entry ∈ entries, ∀ made, resolve entry.2 = .ok made → result[entry.1]? = some made) ∧
      ∀ key ∉ entries.map Prod.fst, result[key]? = start[key]? := by
  induction entries generalizing start with
  | nil => exact ⟨start, rfl, by simp⟩
  | cons entry entries ih =>
    obtain ⟨fresh, distinct⟩ := nodup_cons.mp distinct
    obtain ⟨⟨made, here⟩, resolves⟩ := forall_mem_cons.mp resolves
    obtain ⟨result, built, held, others⟩ := ih distinct resolves (start.insert entry.1 made)
    refine ⟨result, ?_, forall_mem_cons.mpr ⟨fun other same => ?_, held⟩, fun key absent => ?_⟩
    · rw [foldlM_cons, here]
      exact built
    · cases here.symm.trans same
      rw [others _ fresh, Std.ExtTreeMap.getElem?_insert_self]
    · obtain ⟨ne, absent⟩ := ne_and_not_mem_of_not_mem_cons absent
      rw [others key absent, getElem?_insert_of_ne (Ne.symm ne)]

/-- The entries of a map that has been built by calls. -/
theorem Calls.of_foldlM_insert {step : Std.ExtTreeMap κ ι' → κ × ι → Calls ε σ (Std.ExtTreeMap κ ι')}
    (makes : κ × ι → ι' → Prop)
    (inserts : ∀ built entry before next after, step built entry before = (.ok next, after) →
      ∃ made, makes entry made ∧ next = built.insert entry.1 made)
    {state last : σ} (distinct : (entries.map Prod.fst).Nodup)
    (ran : (entries.foldlM step start : Calls ε σ (Std.ExtTreeMap κ ι')) state = (.ok result, last)) :
    (∀ entry ∈ entries, ∃ made, makes entry made ∧ result[entry.1]? = some made) ∧
      ∀ key ∉ entries.map Prod.fst, result[key]? = start[key]? := by
  induction entries generalizing start state with
  | nil =>
    cases ran
    simp
  | cons entry entries ih =>
    obtain ⟨fresh, distinct⟩ := nodup_cons.mp distinct
    rw [foldlM_cons] at ran
    obtain ⟨next, between, first, rest⟩ := Calls.bind_ok.mp ran
    obtain ⟨made, here, rfl⟩ := inserts _ _ _ _ _ first
    obtain ⟨held, others⟩ := ih distinct rest
    refine ⟨forall_mem_cons.mpr ⟨⟨made, here, ?_⟩, held⟩, fun key absent => ?_⟩
    · rw [others _ fresh, Std.ExtTreeMap.getElem?_insert_self]
    · obtain ⟨ne, absent⟩ := ne_and_not_mem_of_not_mem_cons absent
      rw [others key absent, getElem?_insert_of_ne (Ne.symm ne)]

end Built

end Starring.Foundation
