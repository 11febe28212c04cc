import Starring.Registry.Edits

/-! What the operations leave behind. An operation that fails changes at most the numbers and closes what has run out of
them; an operation that succeeds changes nothing, or makes one edit in one slot. -/

namespace Starring.Registry
open Foundation Convergence Calls RegistryState Option

namespace RegistryObservationState
variable (before after : RegistryObservationState)

def Later : Prop :=
  before.sequence.get ≤ after.sequence.get ∧ (before.failedClosed = true → after.failedClosed = true)

/-- The next number, and not the last one. -/
def Next : Prop :=
  before.failedClosed = false ∧ after.failedClosed = false ∧ after.sequence.get = before.sequence.get + 1

variable {before after}

theorem Later.rfl : before.Later before := ⟨Nat.le_refl _, id⟩

theorem Next.later (next : before.Next after) : before.Later after :=
  ⟨by rw [next.2.2]; exact Nat.le_succ _, fun closed => nomatch next.1.symm.trans closed⟩

end RegistryObservationState

theorem checkedSuccessor_eq {value : Nat} {next : NonZeroU64} (found : checkedSuccessor value = some next) :
    next.get = value + 1 := by
  unfold checkedSuccessor at found
  split at found
  · cases found
    rfl
  · cases found

theorem successor_eq {value next : NonZeroU64} (found : successor value = some next) : next.get = value.get + 1 :=
  checkedSuccessor_eq found

variable {slot : SlotCell} {value : Unit}

theorem ensureSlotOpen_eq_ok (passed : ensureSlotOpen slot = .ok value) : slot.failedClosed = false := by
  simpa [ensureSlotOpen] using passed

theorem ensureSlotUnsealed_eq_ok (passed : ensureSlotUnsealed slot = .ok value) : slot.sealState = none := by
  simpa [ensureSlotUnsealed] using passed

theorem ensureRegistryOpen_eq_ok {observation : RegistryObservationState}
    (passed : ensureRegistryOpen observation = .ok value) : observation.failedClosed = false := by
  simpa [ensureRegistryOpen] using passed

theorem advanceRegistryObservation_cases (before : RegistryObservationState) :
    (∃ error after, advanceRegistryObservation before = (.error error, after) ∧ before.Later after ∧
      after.failedClosed = true) ∨
      ∃ after, advanceRegistryObservation before = (.ok (), after) ∧ before.Next after := by
  unfold advanceRegistryObservation
  split
  · rename_i refused
    exact .inl ⟨_, _, rfl, .rfl, (rejectIf_eq_error.mp refused).1⟩
  · rename_i passed
    have isOpen := ensureRegistryOpen_eq_ok passed
    split
    · exact .inl ⟨_, _, rfl, ⟨Nat.le_refl _, fun _ => rfl⟩, rfl⟩
    · rename_i sequence found
      have next := successor_eq found
      split
      · exact .inl ⟨_, _, rfl, ⟨Nat.le_of_lt (Nat.lt_of_succ_le (Nat.le_of_eq next.symm)), fun _ => rfl⟩, rfl⟩
      · exact .inr ⟨_, rfl, isOpen, isOpen, next⟩

namespace BorrowedSlot
variable (before after : BorrowedSlot)

/-- Nothing has happened but that the slot or the registry may have run out of numbers. -/
structure Failed : Prop where
  slot : after.slot = before.slot ∨ after.slot = { before.slot with failedClosed := true }
  observation : before.observation.Later after.observation

variable {before after}

theorem Failed.rfl : before.Failed before := ⟨.inl (Eq.refl _), .rfl⟩

instance : Std.Refl Failed := ⟨fun _ => .rfl⟩

end BorrowedSlot

/-- The numbers of a slot after a change. Interactions do not change the admission generation. -/
structure SlotCell.Renumbered (before : SlotCell) (counts : Bool)
    (observationSequence admissionGeneration : NonZeroU64) : Prop where
  wasOpen : before.failedClosed = false
  observation : observationSequence.get = before.observationSequence.get + 1
  admission : admissionGeneration.get = before.admissionGeneration.get + if counts then 0 else 1

section Numbers
variable {α β : Type} {before : BorrowedSlot} {done : β → BorrowedSlot → Prop}

theorem settles_advance {numbers : SlotCell → Option (α × SlotCell)} {next : α → OnSlot β}
    (goes : ∀ value observation slot, before.observation.Next observation → before.slot.failedClosed = false →
      numbers before.slot = some (value, slot) →
      (next value).Settles done (fun _ after => before.Failed after) ⟨observation, slot⟩) :
    (advanceSlot numbers >>= next).Settles done (fun _ after => before.Failed after) before := by
  refine Settles.bind ?_
  unfold Settles advanceSlot
  cases passed : ensureSlotOpen before.slot with
  | error error => exact .rfl
  | ok value =>
    obtain ⟨error, observation, advanced, later, -⟩ | ⟨observation, advanced, isNext⟩ :=
      advanceRegistryObservation_cases before.observation
    · simp only [advanced]
      exact ⟨.inl rfl, later⟩
    · simp only [advanced]
      cases numbered : numbers before.slot with
      | none => exact ⟨.inr rfl, isNext.later⟩
      | some result => exact goes result.1 observation result.2 isNext (ensureSlotOpen_eq_ok passed) numbered

theorem settles_mutation {next : Unit → OnSlot β}
    (goes : ∀ observation admissionGeneration observationSequence, before.observation.Next observation →
      before.slot.Renumbered false observationSequence admissionGeneration →
      (next ()).Settles done (fun _ after => before.Failed after)
        ⟨observation, { before.slot with admissionGeneration, observationSequence }⟩) :
    (advanceSlotMutation >>= next).Settles done (fun _ after => before.Failed after) before := by
  refine settles_advance fun value observation slot isNext isOpen numbered => ?_
  simp only [mutationNumbers, bind_eq_bind, bind_eq_some_iff, Option.some.injEq, Prod.mk.injEq] at numbered
  obtain ⟨admission, admitted, sequence, observed, -, rfl⟩ := numbered
  exact goes observation admission sequence isNext ⟨isOpen, successor_eq observed, successor_eq admitted⟩

theorem settles_activation {next : NonZeroU64 → OnSlot β}
    (goes : ∀ observation admissionGeneration observationSequence (activationSequence : NonZeroU64),
      before.observation.Next observation →
      before.slot.Renumbered false observationSequence admissionGeneration →
      (next activationSequence).Settles done (fun _ after => before.Failed after)
        ⟨observation,
          { before.slot with
            admissionGeneration, observationSequence, nextActivationSequence := activationSequence.get }⟩) :
    (advanceSlotActivation >>= next).Settles done (fun _ after => before.Failed after) before := by
  refine settles_advance fun value observation slot isNext isOpen numbered => ?_
  simp only [activationNumbers, bind_eq_bind, bind_eq_some_iff, Option.some.injEq, Prod.mk.injEq] at numbered
  obtain ⟨admission, admitted, sequence, observed, activation, -, rfl, rfl⟩ := numbered
  exact goes observation admission sequence activation isNext ⟨isOpen, successor_eq observed, successor_eq admitted⟩

theorem settles_observation {next : Unit → OnSlot β}
    (goes : ∀ observation observationSequence, before.observation.Next observation →
      before.slot.Renumbered true observationSequence before.slot.admissionGeneration →
      (next ()).Settles done (fun _ after => before.Failed after) ⟨observation, { before.slot with observationSequence }⟩) :
    (advanceSlotObservation >>= next).Settles done (fun _ after => before.Failed after) before := by
  refine settles_advance fun value observation slot isNext isOpen numbered => ?_
  simp only [observationNumbers, bind_eq_bind, bind_eq_some_iff, Option.some.injEq, Prod.mk.injEq] at numbered
  obtain ⟨sequence, observed, -, rfl⟩ := numbered
  exact goes observation sequence isNext ⟨isOpen, successor_eq observed, rfl⟩

theorem settles_seal {next : NonZeroU64 → OnSlot β}
    (goes : ∀ observation admissionGeneration observationSequence (sealGeneration : NonZeroU64),
      before.observation.Next observation →
      before.slot.Renumbered false observationSequence admissionGeneration →
      sealGeneration.get = before.slot.nextSealGeneration + 1 →
      (next sealGeneration).Settles done (fun _ after => before.Failed after)
        ⟨observation,
          { before.slot with admissionGeneration, observationSequence, nextSealGeneration := sealGeneration.get }⟩) :
    (advanceSlotSeal false >>= next).Settles done (fun _ after => before.Failed after) before := by
  refine settles_advance fun value observation slot isNext isOpen numbered => ?_
  simp only [sealNumbers, Bool.false_eq_true, if_false, bind_eq_bind, bind_eq_some_iff, Option.some.injEq,
    Prod.mk.injEq] at numbered
  obtain ⟨admission, admitted, sequence, observed, generation, sealed, rfl, rfl⟩ := numbered
  exact goes observation admission sequence generation isNext ⟨isOpen, successor_eq observed, successor_eq admitted⟩
    (checkedSuccessor_eq sealed)

end Numbers

theorem settles_borrowed {β : Type} {next : SlotCell → OnSlot β} {before : BorrowedSlot}
    {done : β → BorrowedSlot → Prop} {failed : ServingSlotRegistryError → BorrowedSlot → Prop}
    (settles : (next before.slot).Settles done failed before) : (borrowedSlot >>= next).Settles done failed before :=
  settles

theorem atomicObservationV2_ok (isOpen : slot.failedClosed = false) : atomicObservationV2 slot = .ok slot.observed := by
  simp only [atomicObservationV2, ensureSlotOpen, isOpen]
  rfl

theorem atomicObservationV2_eq_ok {observed : SlotAtomicObservationV2}
    (passed : atomicObservationV2 slot = .ok observed) : slot.failedClosed = false ∧ observed = slot.observed := by
  simp only [atomicObservationV2, check_bind_eq_ok, pure_eq_ok] at passed
  exact ⟨ensureSlotOpen_eq_ok passed.1, passed.2.symm⟩

section Slots

def SlotEdit.counts : SlotEdit → Bool
  | .admitInteraction | .releaseCurrent | .releaseRetired _ => true
  | _ => false

def SlotEdit.NumbersSeal (edit : SlotEdit) (before after : Nat) : Prop :=
  match edit with
  | .close sealed => sealed.sealGeneration.get = before + 1 ∧ after = before + 1
  | _ => after = before

def SlotEdit.NumbersRoute (edit : SlotEdit) (before after : Nat) : Prop :=
  match edit with
  | .install record => record.incarnation.get = before + 1 ∧ after = before + 1
  | _ => after = before

structure BorrowedSlot.Changed (limit : Nat) (before : BorrowedSlot) (edit : SlotEdit) (after : BorrowedSlot) : Prop where
  observation : before.observation.Next after.observation
  edited : Edited limit before.slot.content edit after.slot.content
  renumbered : after.slot.failedClosed = false →
    before.slot.Renumbered edit.counts after.slot.observationSequence after.slot.admissionGeneration
  sealed : edit.NumbersSeal before.slot.nextSealGeneration after.slot.nextSealGeneration

end Slots

namespace RegistryState

def slotAt (self : RegistryState) (key : ServingSlotKeyV1) : SlotCell := (self.slots.lookup key).getD .fresh

theorem slotAt_of_some {self : RegistryState} {key : ServingSlotKeyV1} {slot : SlotCell}
    (found : self.slots.lookup key = some slot) : self.slotAt key = slot := by
  rw [slotAt, found]
  rfl

theorem slotAt_of_none {self : RegistryState} {key : ServingSlotKeyV1} (absent : self.slots.lookup key = none) :
    self.slotAt key = .fresh := by
  rw [slotAt, absent]
  rfl

/-- The slots are in their limit and each of them is sound. -/
structure Sound (registry : RegistryInner) (state : RegistryState) : Prop where
  size : state.slots.entries.length ≤ registry.config.maxSlots.get
  slots : ∀ key slot, state.slots.lookup key = some slot →
    slot.content.Sound registry.config.maxActiveInteractionsPerSlot.get

theorem Sound.slotAt {registry : RegistryInner} {state : RegistryState} (sound : state.Sound registry)
    (key : ServingSlotKeyV1) : (state.slotAt key).content.Sound registry.config.maxActiveInteractionsPerSlot.get := by
  cases found : state.slots.lookup key with
  | none => exact slotAt_of_none found ▸ .fresh _
  | some slot => exact slotAt_of_some found ▸ sound.slots key slot found

structure Same (before after : RegistryState) : Prop where
  observation : after.observation = before.observation
  nextIncarnation : after.nextIncarnation = before.nextIncarnation
  size : after.slots.entries.length = before.slots.entries.length
  slots : ∀ key, after.slots.lookup key = before.slots.lookup key

/-- Nothing has happened but that numbers may have run out. -/
structure Failed (before after : RegistryState) : Prop where
  observation : before.observation.Later after.observation
  nextIncarnation : after.nextIncarnation = before.nextIncarnation
  size : after.slots.entries.length = before.slots.entries.length
  slots : ∀ key, after.slots.lookup key = before.slots.lookup key ∨
    ∃ slot, before.slots.lookup key = some slot ∧ after.slots.lookup key = some { slot with failedClosed := true }

/-- One edit has been made in the slot of the key; the slot may be a new one. -/
structure Changed (registry : RegistryInner) (before : RegistryState) (key : ServingSlotKeyV1) (edit : SlotEdit)
    (after : RegistryState) : Prop where
  observation : before.observation.Next after.observation
  others : ∀ other, other ≠ key → after.slots.lookup other = before.slots.lookup other
  present : after.slots.lookup key = some (after.slotAt key)
  size : after.slots.entries.length ≤ max before.slots.entries.length registry.config.maxSlots.get
  edited : Edited registry.config.maxActiveInteractionsPerSlot.get (before.slotAt key).content edit
    (after.slotAt key).content
  renumbered : ∀ slot, before.slots.lookup key = some slot → (after.slotAt key).failedClosed = false →
    slot.Renumbered edit.counts (after.slotAt key).observationSequence (after.slotAt key).admissionGeneration
  sealed : edit.NumbersSeal (before.slotAt key).nextSealGeneration (after.slotAt key).nextSealGeneration
  nextIncarnation : edit.NumbersRoute before.nextIncarnation after.nextIncarnation

variable {registry : RegistryInner} {before after state : RegistryState} {key : ServingSlotKeyV1} {slot : SlotCell}
  {borrowed : BorrowedSlot} {edit : SlotEdit}

theorem Same.rfl : state.Same state := ⟨Eq.refl _, Eq.refl _, Eq.refl _, fun _ => Eq.refl _⟩

theorem Same.failed (same : before.Same after) : before.Failed after where
  observation := same.observation ▸ .rfl
  nextIncarnation := same.nextIncarnation
  size := same.size
  slots key := .inl (same.slots key)

theorem Failed.rfl : state.Failed state := Same.rfl.failed

instance : Std.Refl Failed := ⟨fun _ => .rfl⟩

theorem Failed.content (failed : before.Failed after) (key : ServingSlotKeyV1) :
    (after.slotAt key).content = (before.slotAt key).content := by
  obtain same | ⟨slot, was, closed⟩ := failed.slots key
  · rw [slotAt, slotAt, same]
  · rw [slotAt_of_some was, slotAt_of_some closed]
    rfl

theorem Changed.slotAt_other (changed : before.Changed registry key edit after) {other : ServingSlotKeyV1}
    (different : other ≠ key) : after.slotAt other = before.slotAt other := by
  rw [slotAt, slotAt, changed.others other different]

theorem length_insert (found : state.slots.lookup key = some slot) (next : SlotCell) :
    (state.slots.insert key next).entries.length = state.slots.entries.length := by
  have mem : key ∈ state.slots.keys := AList.mem_keys.mp (AList.lookup_isSome.mp (by rw [found]; rfl))
  have lengths : (state.slots.insert key next).keys.length = state.slots.keys.length := by
    rw [AList.keys_insert, List.length_cons, List.length_erase_of_mem mem]
    exact Nat.sub_add_cancel (List.length_pos_of_mem mem)
  simpa [AList.keys, List.keys] using lengths

theorem length_insert_of_none (absent : state.slots.lookup key = none) (next : SlotCell) :
    (state.slots.insert key next).entries.length = state.slots.entries.length + 1 := by
  rw [AList.entries_insert_of_notMem (AList.lookup_eq_none.mp absent), List.length_cons]

@[simp] theorem slotAt_giveBack : (state.giveBack key borrowed).slotAt key = borrowed.slot := by
  simp [slotAt, giveBack]

theorem giveBack_self (found : state.slots.lookup key = some slot) :
    state.Same (state.giveBack key ⟨state.observation, slot⟩) where
  observation := Eq.refl _
  nextIncarnation := Eq.refl _
  size := length_insert found slot
  slots other := by
    by_cases same : other = key
    · subst same
      simp [giveBack, found]
    · exact AList.lookup_insert_ne same

theorem Changed.of_insert {next : SlotCell} (slots : after.slots = before.slots.insert key next)
    (observation : before.observation.Next after.observation)
    (room : before.slots.lookup key = none → before.slots.entries.length < registry.config.maxSlots.get)
    (edited : Edited registry.config.maxActiveInteractionsPerSlot.get (before.slotAt key).content edit next.content)
    (renumbered : ∀ slot, before.slots.lookup key = some slot → next.failedClosed = false →
      slot.Renumbered edit.counts next.observationSequence next.admissionGeneration)
    (sealed : edit.NumbersSeal (before.slotAt key).nextSealGeneration next.nextSealGeneration)
    (nextIncarnation : edit.NumbersRoute before.nextIncarnation after.nextIncarnation) :
    before.Changed registry key edit after := by
  have here : after.slotAt key = next := by simp [slotAt, slots]
  refine ⟨observation, fun other different => ?_, ?_, ?_, here ▸ edited, here ▸ renumbered, here ▸ sealed, nextIncarnation⟩
  · rw [slots]
    exact AList.lookup_insert_ne different
  · rw [here, slots, AList.lookup_insert]
  · rw [slots]
    cases found : before.slots.lookup key with
    | none =>
      rw [length_insert_of_none found]
      exact Nat.le_trans (room found) (Nat.le_max_right _ _)
    | some slot =>
      rw [length_insert found]
      exact Nat.le_max_left _ _

end RegistryState

namespace BorrowedSlot
variable {registry : RegistryInner} {state : RegistryState} {key : ServingSlotKeyV1} {slot : SlotCell}
  {borrowed : BorrowedSlot} {edit : SlotEdit}

theorem Failed.giveBack (failed : (⟨state.observation, slot⟩ : BorrowedSlot).Failed borrowed)
    (found : state.slots.lookup key = some slot) : state.Failed (state.giveBack key borrowed) where
  observation := failed.observation
  nextIncarnation := Eq.refl _
  size := length_insert found _
  slots other := by
    by_cases same : other = key
    · subst same
      simp only [RegistryState.giveBack, AList.lookup_insert, found]
      obtain unchanged | closed := failed.slot
      · exact .inl (congrArg some unchanged)
      · exact .inr ⟨slot, Eq.refl _, congrArg some closed⟩
    · exact .inl (AList.lookup_insert_ne same)

theorem Changed.giveBack
    (changed : (⟨state.observation, slot⟩ : BorrowedSlot).Changed registry.config.maxActiveInteractionsPerSlot.get edit
      borrowed)
    (found : state.slots.lookup key = some slot) (noRoute : ∀ number, edit.NumbersRoute number number) :
    state.Changed registry key edit (state.giveBack key borrowed) := by
  have here := slotAt_of_some found
  refine .of_insert rfl changed.observation (fun absent => (nomatch found.symm.trans absent)) (here ▸ changed.edited)
    (fun slot' found' isOpen => ?_) (here ▸ changed.sealed) (noRoute _)
  cases found.symm.trans found'
  exact changed.renumbered isOpen

end BorrowedSlot

theorem settles_onSlot {α : Type} {key : ServingSlotKeyV1} {missing : ServingSlotRegistryError} {body : OnSlot α}
    {done : α → RegistryState → Prop} {state : RegistryState}
    (goes : ∀ slot, state.slots.lookup key = some slot →
      body.Settles (fun value borrowed => done value (state.giveBack key borrowed))
        (fun _ borrowed => (⟨state.observation, slot⟩ : BorrowedSlot).Failed borrowed) ⟨state.observation, slot⟩) :
    (onSlot key missing body).Settles done (fun _ last => state.Failed last) state := by
  unfold Settles onSlot
  cases found : state.slots.lookup key with
  | none => exact .rfl
  | some slot =>
    have settles := goes slot found
    unfold Settles at settles
    rcases called : body ⟨state.observation, slot⟩ with ⟨error | value, borrowed⟩
    · rw [called] at settles
      simp only [called]
      exact settles.giveBack found
    · rw [called] at settles
      simp only [called]
      exact settles

/-- The rule for an operation on one slot that has to be open and unsealed. -/
theorem settles_onUnsealed {α : Type} {key : ServingSlotKeyV1} {missing : ServingSlotRegistryError} {body : SlotCell → OnSlot α}
    {done : α → RegistryState → Prop} {state : RegistryState}
    (goes : ∀ slot, state.slots.lookup key = some slot → slot.sealState = none →
      (body slot).Settles (fun value borrowed => done value (state.giveBack key borrowed))
        (fun _ borrowed => (⟨state.observation, slot⟩ : BorrowedSlot).Failed borrowed) ⟨state.observation, slot⟩) :
    (onSlot key missing do
      let slot ← borrowedSlot
      ofExcept (ensureSlotOpen slot)
      ofExcept (ensureSlotUnsealed slot)
      body slot).Settles done (fun _ last => state.Failed last) state := by
  refine settles_onSlot fun slot found => settles_borrowed (settles_check fun _ _ => ?_)
  exact settles_check fun _ isUnsealed => goes slot found (ensureSlotUnsealed_eq_ok isUnsealed)

end Starring.Registry
