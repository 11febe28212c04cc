import Starring.Automation.Preflight.Execute

/-! Keys and entries. In a prepared plan a key belongs to one step, so that a map by key and
a map by entry can hold the same; the ids of the instances are drawn in the order of the plan
whichever of the two they are filed under. -/

namespace Starring.Automation
open Foundation Calls List

theorem ActionEntryId.fromIndex_eq_ok {index : Nat} {entry : ActionEntryId} :
    ActionEntryId.fromIndex index = .ok entry ↔ entry.val = index := by
  unfold ActionEntryId.fromIndex
  split
  · simp [Fin.ext_iff, eq_comm]
  · simp only [reduceCtorEq, false_iff]
    omega

/-- The table has each key, with the place and the kind of the step that creates it. -/
def Indexed (producers : StringMap Producer) (steps : List PlannedAction) : Prop :=
  ∀ (key : String) (entry : ActionEntryId) (kind : CreatedKind), producers[key]? = some (Producer.mk entry kind) ↔
    ∃ step, steps[entry.val]? = some step ∧ step.created = some (key, kind)

section Indexing
variable {producers : StringMap Producer} {steps : List PlannedAction}

theorem created_concat {step : PlannedAction} {index : Nat} {made : String × CreatedKind} :
    (∃ found, (steps ++ [step])[index]? = some found ∧ found.created = some made) ↔
      (∃ found, steps[index]? = some found ∧ found.created = some made) ∨
        index = steps.length ∧ step.created = some made := by
  rcases Nat.lt_trichotomy index steps.length with before | rfl | after
  · simp [getElem?_append_left before, Nat.ne_of_lt before]
  · simp
  · have beyond : (steps ++ [step])[index]? = none := getElem?_eq_none (length_append ▸ after)
    simp [beyond, getElem?_eq_none (Nat.le_of_lt after), Nat.ne_of_gt after]

theorem indexProducer_indexed {step : PlannedAction} {next : StringMap Producer} (indexed : Indexed producers steps)
    (entered : indexProducer producers (step, steps.length) = .ok next) : Indexed next (steps ++ [step]) := by
  obtain ⟨place, bounded, entered⟩ := bind_eq_ok.mp entered
  have bounded := ActionEntryId.fromIndex_eq_ok.mp bounded
  intro key entry kind
  rw [created_concat, ← indexed]
  cases creates : step.created with
  | none =>
    simp only [creates] at entered
    cases entered
    simp
  | some made =>
    simp only [creates, check_bind_eq_ok] at entered
    obtain ⟨-, entered⟩ := entered
    cases known : producers[made.1]? with
    | some first =>
      rw [known] at entered
      cases entered
    | none =>
      rw [known] at entered
      cases entered
      have here : entry.val = steps.length ↔ place = entry := by rw [Fin.ext_iff, bounded, eq_comm]
      by_cases same : made.1 = key
      · subst same
        rw [known, Std.ExtTreeMap.getElem?_insert_self, here]
        simp [Prod.ext_iff]
      · have other : made ≠ (key, kind) := fun equal => same (congrArg Prod.fst equal)
        simp [getElem?_insert_of_ne same, other]

theorem indexProducers_indexed {plan : ActionPlan} (entered : indexProducers plan = .ok producers) :
    Indexed producers plan.steps := by
  have run : ∀ rest done (known : StringMap Producer), Indexed known done →
      (rest.zipIdx done.length).foldlM indexProducer known = .ok producers → Indexed producers (done ++ rest) := by
    intro rest
    induction rest with
    | nil =>
      intro done known indexed ran
      cases ran
      simpa using indexed
    | cons step rest ih =>
      intro done known indexed ran
      rw [zipIdx_cons, foldlM_cons] at ran
      obtain ⟨next, first, later⟩ := bind_eq_ok.mp ran
      have all := ih (done ++ [step]) next (indexProducer_indexed indexed first) (by simpa using later)
      simpa using all
  exact run plan.steps [] ∅ (by simp [Indexed]) entered

theorem Indexed.at {step : PlannedAction} {entry : ActionEntryId} {key : String} {kind : CreatedKind}
    (indexed : Indexed producers steps) (here : steps[entry.val]? = some step)
    (found : producers[key]? = some (Producer.mk entry kind)) : step.created = some (key, kind) := by
  obtain ⟨_, same, creates⟩ := (indexed key entry kind).mp found
  cases here.symm.trans same
  exact creates

theorem Indexed.injective {key key' : String} {entry : ActionEntryId} {kind kind' : CreatedKind}
    (indexed : Indexed producers steps) (found : producers[key]? = some (Producer.mk entry kind))
    (found' : producers[key']? = some (Producer.mk entry kind')) : key = key' := by
  obtain ⟨step, here, creates⟩ := (indexed key entry kind).mp found
  cases creates.symm.trans (indexed.at here found')
  rfl

end Indexing

/-- The same values by key and by entry, as far as the steps before a place have made them. -/
structure Matches {ι : Type} (producers : StringMap Producer) (kind : CreatedKind) (done : Nat) (byKey : StringMap ι)
    (byEntry : Std.ExtTreeMap ActionEntryId ι) : Prop where
  same : ∀ (key : String) (entry : ActionEntryId), producers[key]? = some (Producer.mk entry kind) → byKey[key]? = byEntry[entry]?
  there : ∀ (key : String) (entry : ActionEntryId), producers[key]? = some (Producer.mk entry kind) → entry.val < done → entry ∈ byEntry

namespace Matches
variable {ι : Type} {producers : StringMap Producer} {steps : List PlannedAction} {kind : CreatedKind} {done : Nat}
  {byKey : StringMap ι} {byEntry : Std.ExtTreeMap ActionEntryId ι} {key : String} {entry : ActionEntryId}

theorem empty : Matches producers kind 0 (∅ : StringMap ι) ∅ where
  same := by simp
  there := by simp

theorem resolve (agree : Matches producers kind done byKey byEntry) (found : producers[key]? = some (Producer.mk entry kind))
    (prior : entry.val < done) : ∃ value, byKey[key]? = some value ∧ byEntry[entry]? = some value := by
  obtain ⟨value, held⟩ := exists_of_mem (agree.there key entry found prior)
  exact ⟨value, (agree.same key entry found).trans held, held⟩

theorem skip (indexed : Indexed producers steps) {step : PlannedAction} (here : steps[done]? = some step)
    (other : ∀ key, step.created ≠ some (key, kind)) (agree : Matches producers kind done byKey byEntry) :
    Matches producers kind (done + 1) byKey byEntry where
  same := agree.same
  there := by
    intro key entry found before
    rcases Nat.lt_or_eq_of_le (Nat.le_of_lt_succ before) with prior | rfl
    · exact agree.there key entry found prior
    · exact absurd (indexed.at here found) (other key)

theorem insert (indexed : Indexed producers steps) (found : producers[key]? = some (Producer.mk entry kind)) (value : ι)
    (agree : Matches producers kind entry.val byKey byEntry) :
    Matches producers kind (entry.val + 1) (byKey.insert key value) (byEntry.insert entry value) where
  same := by
    intro key' entry' found'
    by_cases equal : key = key'
    · subst equal
      cases found.symm.trans found'
      rw [Std.ExtTreeMap.getElem?_insert_self, Std.ExtTreeMap.getElem?_insert_self]
    · have apart : entry ≠ entry' := fun equal' => equal (indexed.injective (equal' ▸ found) found')
      rw [getElem?_insert_of_ne equal, getElem?_insert_of_ne apart]
      exact agree.same key' entry' found'
  there := by
    intro key' entry' found' before
    rw [Std.ExtTreeMap.mem_insert]
    rcases Nat.lt_or_eq_of_le (Nat.le_of_lt_succ before) with prior | equal
    · exact .inr (agree.there key' entry' found' prior)
    · exact .inl (Fin.ext equal ▸ Std.ReflCmp.compare_self)

end Matches

section Preallocation

def PlannedAction.isRegister : PlannedAction → Bool
  | registerInstance _ _ _ => true
  | _ => false

/-- The places at which instances are registered. -/
def registrations (items : List (PlannedAction × Nat)) : List Nat :=
  (items.filter fun item => item.1.isRegister).map Prod.snd

variable {producers : StringMap Producer} {steps : List PlannedAction}

theorem isRegister_iff {step : PlannedAction} : step.isRegister = true ↔ ∃ key, step.created = some (key, .ofInstance) := by
  cases step <;> simp [PlannedAction.isRegister, PlannedAction.created]

theorem registrations_cons (step : PlannedAction) (rest : List PlannedAction) (done : Nat) :
    registrations ((step :: rest).zipIdx done) =
      if step.isRegister = true then done :: registrations (rest.zipIdx (done + 1))
      else registrations (rest.zipIdx (done + 1)) := by
  rw [registrations, zipIdx_cons, filter_cons]
  split <;> rfl

theorem mem_instanceEntries {entry : ActionEntryId} :
    entry ∈ instanceEntries producers ↔ ∃ key : String, producers[key]? = some (Producer.mk entry .ofInstance) := by
  simp only [instanceEntries, mem_mergeSort, mem_map, mem_filter, decide_eq_true_eq,
    Std.ExtTreeMap.mem_toList_iff_getElem?_eq_some, Prod.exists]
  constructor
  · rintro ⟨key, ⟨place, kind⟩, ⟨found, rfl⟩, rfl⟩
    exact ⟨key, found⟩
  · rintro ⟨key, found⟩
    exact ⟨key, _, ⟨found, rfl⟩, rfl⟩

theorem instanceEntries_ascend (indexed : Indexed producers steps) : (instanceEntries producers).Pairwise (· < ·) := by
  have distinct : (instanceEntries producers).Nodup := by
    refine (mergeSort_perm _ _).nodup_iff.mpr (List.Nodup.map_on ?_ ((nodup_keys_toList producers).of_map.filter _))
    rintro ⟨key, entry, kind⟩ found ⟨key', entry', kind'⟩ found' same
    obtain ⟨found, -⟩ := mem_filter.mp found
    obtain ⟨found', -⟩ := mem_filter.mp found'
    rw [Std.ExtTreeMap.mem_toList_iff_getElem?_eq_some] at found found'
    obtain rfl : entry = entry' := same
    obtain rfl := indexed.injective found found'
    cases found.symm.trans found'
    rfl
  have ascend : (instanceEntries producers).Pairwise (· ≤ ·) := pairwise_mergeSort' (r := (· ≤ ·)) _
  exact (ascend.and distinct).imp fun both => lt_of_le_of_ne both.1 both.2

theorem instanceEntries_val (indexed : Indexed producers steps) (few : steps.length ≤ maxPreflightActions) :
    (instanceEntries producers).map Fin.val = registrations steps.zipIdx := by
  refine List.Pairwise.eq_of_mem_iff (r := (· < ·)) (pairwise_map.mpr (instanceEntries_ascend indexed)) ?_ ?_
  · have places : (steps.zipIdx.map Prod.snd).Pairwise (· < ·) := by
      rw [zipIdx_map_snd]
      exact pairwise_lt_range'
    exact pairwise_map.mpr ((pairwise_map.mp places).filter _)
  · intro place
    simp only [mem_map, registrations, mem_filter, isRegister_iff, mem_instanceEntries, indexed _ _ _]
    constructor
    · rintro ⟨entry, ⟨key, step, here, creates⟩, rfl⟩
      exact ⟨(step, entry.val), ⟨mem_zipIdx_iff_getElem?.mpr here, key, creates⟩, rfl⟩
    · rintro ⟨⟨step, place⟩, ⟨mem, key, creates⟩, rfl⟩
      have here := mem_zipIdx_iff_getElem?.mp mem
      have bounded : place < steps.length := (List.getElem?_eq_some_iff.mp here).1
      exact ⟨⟨place, bounded.trans_le few⟩, ⟨key, step, here, creates⟩, rfl⟩

variable {σ : Type} {services : AutomationServices σ}

theorem preallocate_plans (indexed : Indexed producers steps) {entries : List ActionEntryId} {rest : List PlannedAction}
    {done : Nat} (steps_eq : steps.drop done = rest) (entries_eq : entries.map Fin.val = registrations (rest.zipIdx done))
    {ids ids' : Std.ExtTreeMap ActionEntryId InstanceId} {planned : StringMap InstanceId} {state last : σ}
    (ran : (entries.foldlM (preallocateInstance services.generate) ids : Calls _ σ _) state = (.ok ids', last))
    (agree : Matches producers .ofInstance done planned ids) (early : ∀ entry : ActionEntryId, entry ∈ ids → entry.val < done) :
    ∃ planned', rest.foldlM (planInstance services) planned state = (.ok planned', last) ∧
      Matches producers .ofInstance (done + rest.length) planned' ids' := by
  induction rest generalizing done entries ids planned state with
  | nil =>
    obtain rfl := map_eq_nil_iff.mp entries_eq
    cases ran
    exact ⟨planned, rfl, agree⟩
  | cons step rest ih =>
    have here : steps[done]? = some step := by rw [← head?_drop, steps_eq, head?_cons]
    have rest_eq : steps.drop (done + 1) = rest := by rw [← tail_drop, steps_eq, tail_cons]
    have length_eq : done + (step :: rest).length = done + 1 + rest.length := by
      rw [length_cons]
      omega
    rw [length_eq, foldlM_cons]
    by_cases registers : step.isRegister = true
    · obtain ⟨key, kind, resources, rfl⟩ : ∃ key kind resources, step = .registerInstance key kind resources := by
        cases step <;> first | exact ⟨_, _, _, rfl⟩ | cases registers
      rw [registrations_cons, if_pos registers] at entries_eq
      obtain ⟨entry, entries, rfl, rfl, entries_eq⟩ := map_eq_cons_iff.mp entries_eq
      rw [foldlM_cons] at ran
      obtain ⟨next, between, first, ran⟩ := bind_ok.mp ran
      obtain ⟨id, _, drawn, first⟩ := bind_ok.mp first
      obtain ⟨_, _, checked, same⟩ := bind_ok.mp first
      obtain ⟨-, rfl⟩ := ofExcept_eq.mp checked
      cases same
      have found : producers[key]? = some (Producer.mk entry .ofInstance) := (indexed _ _ _).mpr ⟨_, here, rfl⟩
      have fresh : key ∉ planned := by
        intro known
        obtain ⟨id, known⟩ := exists_of_mem known
        have held := mem_of_getElem? ((agree.same key entry found).symm.trans known)
        exact Nat.lt_irrefl _ (early entry held)
      obtain ⟨planned', rest_ran, agree'⟩ := ih rest_eq entries_eq ran (agree.insert indexed found id) (by
        intro other mem
        rcases Std.ExtTreeMap.mem_insert.mp mem with equal | mem
        · obtain rfl := Std.LawfulEqCmp.eq_of_compare equal
          omega
        · exact Nat.lt_succ_of_lt (early other mem))
      refine ⟨planned', bind_ok.mpr ⟨_, _, ?_, rest_ran⟩, agree'⟩
      simp only [planInstance, if_neg fresh]
      exact bind_ok.mpr ⟨id, _, mapError_ok.mpr (mapError_ok.mp drawn), rfl⟩
    · rw [registrations_cons, if_neg registers] at entries_eq
      have quiet : planInstance services planned step = pure planned := by
        cases step <;> first | rfl | exact absurd rfl registers
      obtain ⟨planned', rest_ran, agree'⟩ := ih rest_eq entries_eq ran
        (agree.skip indexed here fun key creates => registers (isRegister_iff.mpr ⟨key, creates⟩))
        (fun other mem => Nat.lt_succ_of_lt (early other mem))
      exact ⟨planned', by rw [quiet]; exact rest_ran, agree'⟩

end Preallocation

end Starring.Automation
