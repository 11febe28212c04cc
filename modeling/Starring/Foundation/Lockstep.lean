import Starring.Foundation.Service

/-! Two computations in lockstep. From every state they end in the same state, with related
values or with the same error; an error has to be one that the last state accounts for. -/

namespace Starring.Foundation.Calls
variable {ε σ α α' β β' : Type} {blame : ε → σ → Prop}

def Lockstep (blame : ε → σ → Prop) (related : α → β → Prop) (left : Calls ε σ α) (right : Calls ε σ β) : Prop :=
  ∀ state, (∃ value value' last, left state = (.ok value, last) ∧ right state = (.ok value', last) ∧ related value value') ∨
    ∃ error last, left state = (.error error, last) ∧ right state = (.error error, last) ∧ blame error last

/-- The errors of a computation are accounted for. -/
def Accounts (blame : ε → σ → Prop) (call : Calls ε σ α) : Prop :=
  ∀ state error last, call state = (.error error, last) → blame error last

namespace Lockstep

variable {related : α → β → Prop}

theorem pure {value : α} {value' : β} (same : related value value') :
    Lockstep blame related (Pure.pure value) (Pure.pure value') :=
  fun state => .inl ⟨value, value', state, rfl, rfl, same⟩

variable {left : Calls ε σ α} {right : Calls ε σ β}

theorem mono {weaker : α → β → Prop} (same : Lockstep blame related left right)
    (weaken : ∀ value value', related value value' → weaker value value') : Lockstep blame weaker left right :=
  fun state => (same state).imp_left fun ⟨value, value', last, ran, ran', here⟩ =>
    ⟨value, value', last, ran, ran', weaken value value' here⟩

theorem of_accounts {call : Calls ε σ α} (accounts : Accounts blame call) : Lockstep blame Eq call call := by
  intro state
  rcases called : call state with ⟨error | value, last⟩
  · exact .inr ⟨error, last, rfl, rfl, accounts state error last called⟩
  · exact .inl ⟨value, value, last, rfl, rfl, rfl⟩

theorem bind {related' : α' → β' → Prop} {next : α → Calls ε σ α'} {next' : β → Calls ε σ β'}
    (first : Lockstep blame related left right)
    (then_ : ∀ value value', related value value' → Lockstep blame related' (next value) (next' value')) :
    Lockstep blame related' (left >>= next) (right >>= next') := by
  intro state
  obtain ⟨value, value', last, ran, ran', same⟩ | ⟨error, last, failed, failed', blamed⟩ := first state
  · rw [bind_of_ok ran, bind_of_ok ran']
    exact then_ value value' same last
  · rw [bind_of_error failed, bind_of_error failed']
    exact .inr ⟨error, last, rfl, rfl, blamed⟩

/-- The same call on both sides. -/
theorem call {related : α' → β' → Prop} {call : Calls ε σ α} {next : α → Calls ε σ α'} {next' : α → Calls ε σ β'}
    (accounts : Accounts blame call) (then_ : ∀ value, Lockstep blame related (next value) (next' value)) :
    Lockstep blame related (call >>= next) (call >>= next') :=
  (of_accounts accounts).bind fun value _ same => same ▸ then_ value

/-- Two loops over lists whose items correspond, with an invariant that knows the place. -/
theorem foldlM {ξ η : Type} (invariant : Nat → α → β → Prop) {made : ξ × Nat → η → Prop}
    {step : α → ξ × Nat → Calls ε σ α} {step' : β → η → Calls ε σ β} {items : List ξ} {items' : List η} {start : Nat}
    (stepped : ∀ item ∈ items.zipIdx start, ∀ item', made item item' → ∀ value value', invariant item.2 value value' →
      Lockstep blame (invariant (item.2 + 1)) (step value item) (step' value' item'))
    (corresponds : List.Forall₂ made (items.zipIdx start) items') {value : α} {value' : β}
    (initial : invariant start value value') :
    Lockstep blame (invariant (start + items.length)) ((items.zipIdx start).foldlM step value) (items'.foldlM step' value') := by
  induction items generalizing start items' value value' with
  | nil =>
    cases corresponds
    exact Lockstep.pure initial
  | cons item items ih =>
    obtain ⟨item', rest, here, later, rfl⟩ := List.forall₂_cons_left_iff.mp corresponds
    rw [List.zipIdx_cons, List.foldlM_cons, List.foldlM_cons]
    refine (stepped (item, start) List.mem_cons_self item' here value value' initial).bind fun next next' kept => ?_
    have places : start + (item :: items).length = start + 1 + items.length := by
      rw [List.length_cons]
      omega
    rw [places]
    exact ih (fun other mem => stepped other (List.mem_cons_of_mem _ mem)) later kept

/-- Lockstep with equal values is equality. -/
theorem eq {right : Calls ε σ α} (same : Lockstep blame Eq left right) (state : σ) : left state = right state := by
  obtain ⟨value, _, last, ran, ran', rfl⟩ | ⟨error, last, failed, failed', -⟩ := same state
  · rw [ran, ran']
  · rw [failed, failed']

theorem accounts (same : Lockstep blame related left right) : Accounts blame left := by
  intro state error last failed
  obtain ⟨value, _, _, ran, -⟩ | ⟨error', last', failed', -, blamed⟩ := same state
  · rw [ran] at failed
    cases failed
  · rw [failed'] at failed
    cases failed
    exact blamed

end Lockstep

/-- The values that a loop collects come from its items one by one. -/
theorem forall₂_of_mapM {ξ : Type} {call : ξ → Calls ε σ α} {items : List ξ} {values : List α} {state last : σ}
    (mapped : items.mapM call state = (.ok values, last)) :
    List.Forall₂ (fun item value => ∃ before after, call item before = (.ok value, after)) items values := by
  induction items generalizing state values with
  | nil =>
    cases mapped
    exact .nil
  | cons item items ih =>
    rw [List.mapM_cons] at mapped
    obtain ⟨value, between, called, mapped⟩ := bind_ok.mp mapped
    obtain ⟨rest, after, later, same⟩ := bind_ok.mp mapped
    cases same
    exact .cons ⟨state, between, called⟩ (ih later)

end Starring.Foundation.Calls
