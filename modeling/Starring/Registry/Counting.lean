import Starring.Registry.Effects

/-! The counts that are taken for recovery. They can be taken in every state that the registry gets into: no slot is
inconsistent, and no count runs over. -/

namespace Starring.Registry
open Foundation Convergence List SlotCell

namespace RegistryRecoveryCountsV2

def Below (bound : Nat) (self : RegistryRecoveryCountsV2) : Prop :=
  self.retainedEmptyTombstoneCount ≤ bound ∧ self.stagedRouteCount ≤ bound ∧ self.servingRouteCount ≤ bound ∧
    self.drainingRouteCount ≤ bound ∧ self.sealedSlotCount ≤ bound ∧ self.activeInteractionCount ≤ bound ∧
    self.failedClosedSlotCount ≤ bound

instance (bound : Nat) (counts : RegistryRecoveryCountsV2) : Decidable (counts.Below bound) :=
  inferInstanceAs (Decidable (_ ∧ _))

def tally (counts : RegistryRecoveryCountsV2) (cells : List SlotCell) : RegistryRecoveryCountsV2 :=
  cells.foldl (fun counts cell => counts.add cell.counts) counts

theorem Below.add {self other : RegistryRecoveryCountsV2} {bound bound' : Nat} (below : self.Below bound)
    (below' : other.Below bound') : (self.add other).Below (bound + bound') := by
  simp only [Below, RegistryRecoveryCountsV2.add] at *
  omega

theorem Below.fits {self : RegistryRecoveryCountsV2} {bound : Nat} (below : self.Below bound) (small : bound < 2 ^ 64) :
    self.fits = true := by
  simp only [Below] at below
  simp only [RegistryRecoveryCountsV2.fits, decide_eq_true_eq]
  omega

theorem tally_field (field : RegistryRecoveryCountsV2 → Nat) (additive : ∀ a b, field (a.add b) = field a + field b)
    (counts : RegistryRecoveryCountsV2) (cells : List SlotCell) :
    field (counts.tally cells) = field counts + (cells.map fun cell => field cell.counts).sum := by
  induction cells generalizing counts with
  | nil => rfl
  | cons cell cells ih =>
    rw [tally, foldl_cons, ← tally, ih, additive, map_cons, sum_cons, Nat.add_assoc]

theorem le_tally (field : RegistryRecoveryCountsV2 → Nat) (additive : ∀ a b, field (a.add b) = field a + field b)
    {counts : RegistryRecoveryCountsV2} {cells : List SlotCell} {cell : SlotCell} (mem : cell ∈ cells) :
    field cell.counts ≤ field (counts.tally cells) := by
  rw [tally_field field additive]
  have here : field cell.counts ∈ cells.map fun cell => field cell.counts := mem_map_of_mem mem
  exact Nat.le_trans (single_le_sum (fun _ _ => Nat.zero_le _) _ here) (Nat.le_add_left _ _)

end RegistryRecoveryCountsV2

open RegistryRecoveryCountsV2

theorem foldlM_countSlot {bound : Nat} {cells : List SlotCell} {counts : RegistryRecoveryCountsV2} {base : Nat}
    (consistent : ∀ cell ∈ cells, cell.isConsistent = true ∧ cell.counts.Below bound) (below : counts.Below base)
    (small : base + cells.length * bound < 2 ^ 64) : cells.foldlM countSlot counts = .ok (counts.tally cells) := by
  induction cells generalizing counts base with
  | nil => rfl
  | cons cell cells ih =>
    obtain ⟨isConsistent, bounded⟩ := consistent cell mem_cons_self
    rw [length_cons, Nat.add_mul, Nat.one_mul] at small
    have counted : countSlot counts cell = .ok (counts.add cell.counts) := by
      have fits := (below.add bounded).fits (by omega)
      simp only [countSlot, isConsistent, fits]
      rfl
    rw [foldlM_cons, counted]
    exact ih (fun cell mem => consistent cell (mem_cons_of_mem _ mem)) (below.add bounded) (by omega)

namespace SlotContent.Sound
variable {slot : SlotCell} {limit : Nat}

theorem isConsistent (sound : slot.content.Sound limit) : slot.isConsistent = true := by
  simp only [SlotCell.isConsistent, decide_eq_true_eq, Option.all_eq_true, all_eq_true]
  refine ⟨fun sealed found => ?_, fun route found => ?_, fun route found => ?_, fun route mem => ?_⟩
  · exact sound.sealRoute sealed found
  · exact sound.staged route found
  · exact (sound.current route found).1
  · exact sound.retired route mem

theorem routes_length (sound : slot.content.Sound limit) : slot.routes.length ≤ limit + 2 := by
  have few : slot.retired.length ≤ limit := sound.few
  simp only [SlotCell.routes, length_append]
  have staged : slot.staged.toList.length ≤ 1 := by cases slot.staged <;> simp
  have current : slot.current.toList.length ≤ 1 := by cases slot.current <;> simp
  omega

theorem counts_below (sound : slot.content.Sound limit) : slot.counts.Below (limit + 2) := by
  have routes := sound.routes_length
  have active : slot.counts.activeInteractionCount ≤ limit := sound.bounded
  have counted (test : RouteRecord → Bool) : slot.routes.countP test ≤ limit + 2 :=
    Nat.le_trans countP_le_length routes
  refine ⟨?_, counted _, counted _, counted _, ?_, Nat.le_trans active (Nat.le_add_right _ _), ?_⟩
  · exact Nat.le_trans (Bool.toNat_le _) (Nat.le_add_left 1 _)
  · exact Nat.le_trans (Bool.toNat_le _) (Nat.le_add_left 1 _)
  · exact Nat.le_trans (Bool.toNat_le _) (Nat.le_add_left 1 _)

end SlotContent.Sound

namespace RegistryState
variable {registry : RegistryInner} {state : RegistryState}

def recovered (self : RegistryState) : RegistryRecoveryObservationV2 where
  observationSequence := self.observation.sequence
  retainedSlotCount := self.slots.entries.length
  counts := RegistryRecoveryCountsV2.tally {} self.cells
  registryFailedClosed := self.observation.failedClosed

theorem mem_cells {slot : SlotCell} (mem : slot ∈ state.cells) : ∃ key, state.slots.lookup key = some slot := by
  obtain ⟨⟨key, slot⟩, entry, rfl⟩ := mem_map.mp mem
  exact ⟨key, AList.mem_lookup_iff.mpr entry⟩

theorem Sound.recovered (sound : state.Sound registry) : registryRecoveryObservationV2 state = .ok state.recovered := by
  have slots : state.cells.length < 2 ^ 32 := by
    have size := sound.size
    have bound := registry.config.maxSlots.bounded
    simp only [cells, length_map]
    omega
  have limit := registry.config.maxActiveInteractionsPerSlot.bounded
  have product : state.cells.length * (registry.config.maxActiveInteractionsPerSlot.get + 2) ≤
      (2 ^ 32 - 1) * (2 ^ 32 + 1) := Nat.mul_le_mul (by omega) (by omega)
  have counted : state.cells.foldlM countSlot {} = .ok (RegistryRecoveryCountsV2.tally {} state.cells) := by
    have nothing : ({} : RegistryRecoveryCountsV2).Below 0 := by decide
    refine foldlM_countSlot (fun cell mem => ?_) nothing
      (Nat.lt_of_le_of_lt (Nat.add_le_add_left product 0) (by decide))
    obtain ⟨key, found⟩ := mem_cells mem
    exact ⟨(sound.slots key cell found).isConsistent, (sound.slots key cell found).counts_below⟩
  simp only [registryRecoveryObservationV2, counted]
  rfl

end RegistryState

section Vacancy

def SlotCell.IsVacant (self : SlotCell) : Prop :=
  self.routes = [] ∧ self.sealState = none ∧ self.failedClosed = false

theorem SlotCell.IsVacant.counts {slot : SlotCell} (vacant : slot.IsVacant) :
    slot.counts = { retainedEmptyTombstoneCount := 1 } := by
  obtain ⟨routes, unsealed, isOpen⟩ := vacant
  have parts : slot.staged = none ∧ slot.current = none ∧ slot.retired = [] := by
    simpa [SlotCell.routes, and_assoc] using routes
  simp [SlotCell.counts, SlotCell.isTombstone, routes, parts, unsealed, isOpen]

theorem RegistryRecoveryCountsV2.tally_vacant {cells : List SlotCell} (vacant : ∀ cell ∈ cells, cell.IsVacant)
    (counts : RegistryRecoveryCountsV2) :
    counts.tally cells =
      { counts with retainedEmptyTombstoneCount := counts.retainedEmptyTombstoneCount + cells.length } := by
  induction cells generalizing counts with
  | nil => rfl
  | cons cell cells ih =>
    rw [tally, foldl_cons, ← tally, ih (fun cell mem => vacant cell (mem_cons_of_mem _ mem)),
      (vacant cell mem_cons_self).counts]
    simp only [RegistryRecoveryCountsV2.add, length_cons, Nat.add_zero, Nat.add_assoc, Nat.add_comm 1]

theorem SlotCell.routes_eq_nil {slot : SlotCell} (staged : slot.counts.stagedRouteCount = 0)
    (serving : slot.counts.servingRouteCount = 0) (draining : slot.counts.drainingRouteCount = 0) : slot.routes = [] := by
  simp only [SlotCell.counts, countP_eq_zero, decide_eq_true_eq] at staged serving draining
  refine eq_nil_iff_forall_not_mem.mpr fun route mem => ?_
  cases lifecycle : route.lifecycle with
  | staged => exact staged route mem lifecycle
  | serving => exact serving route mem lifecycle
  | draining => exact draining route mem lifecycle

namespace RegistryState
variable {registry : RegistryInner} {state : RegistryState} {key : ServingSlotKeyV1} {slot : SlotCell}
  {borrowed : BorrowedSlot}

def otherCells (self : RegistryState) (key : ServingSlotKeyV1) : List SlotCell :=
  (self.slots.entries.kerase key).map Sigma.snd

theorem otherCells_subset : state.otherCells key ⊆ state.cells :=
  ((kerase_sublist key _).map _).subset

theorem cells_giveBack : (state.giveBack key borrowed).cells = borrowed.slot :: state.otherCells key := by
  simp [cells, giveBack, AList.entries_insert, otherCells]

theorem cells_perm (found : state.slots.lookup key = some slot) : state.cells.Perm (slot :: state.otherCells key) := by
  have mem : key ∈ state.slots.entries.keys := AList.lookup_isSome.mp (by rw [found]; rfl)
  obtain ⟨other, first, second, -, entries, erased⟩ := exists_of_kerase mem
  have here : (⟨key, other⟩ : Sigma fun _ : ServingSlotKeyV1 => SlotCell) ∈ state.slots.entries := by
    rw [entries]
    exact mem_append_right _ mem_cons_self
  cases found.symm.trans (AList.mem_lookup_iff.mpr here)
  rw [cells, otherCells, erased, entries, map_append, map_append]
  exact perm_middle

theorem vacant_of_isRecoveryEmpty (empty : state.recovered.isRecoveryEmpty = true) :
    ∀ cell ∈ state.cells, cell.IsVacant := by
  intro cell mem
  simp only [RegistryRecoveryObservationV2.isRecoveryEmpty, decide_eq_true_eq] at empty
  obtain ⟨-, staged, serving, draining, sealed, -, closed⟩ := empty
  have zero (field : RegistryRecoveryCountsV2 → Nat) (additive : ∀ a b, field (a.add b) = field a + field b)
      (total : field (RegistryRecoveryCountsV2.tally {} state.cells) = 0) : field cell.counts = 0 :=
    Nat.le_zero.mp (total ▸ RegistryRecoveryCountsV2.le_tally field additive mem)
  refine ⟨routes_eq_nil (zero _ (fun _ _ => rfl) staged) (zero _ (fun _ _ => rfl) serving)
    (zero _ (fun _ _ => rfl) draining), ?_, ?_⟩
  · simpa [SlotCell.counts] using zero RegistryRecoveryCountsV2.sealedSlotCount (fun _ _ => rfl) sealed
  · simpa [SlotCell.counts] using zero RegistryRecoveryCountsV2.failedClosedSlotCount (fun _ _ => rfl) closed

theorem isRecoveryEmpty_of_vacant (isOpen : state.observation.failedClosed = false)
    (vacant : ∀ cell ∈ state.cells, cell.IsVacant) : state.recovered.isRecoveryEmpty = true := by
  simp [RegistryRecoveryObservationV2.isRecoveryEmpty, recovered, isOpen,
    RegistryRecoveryCountsV2.tally_vacant vacant]

theorem checkOneSealed_of_cells (sound : state.Sound registry) (isOpen : state.observation.failedClosed = false)
    {rest : List SlotCell} (cells : state.cells = slot :: rest) (unrouted : slot.routes = [])
    (sealed : slot.sealState.isSome = true) (slotOpen : slot.failedClosed = false)
    (vacant : ∀ cell ∈ rest, cell.IsVacant) (error : ServingSlotRegistryError) :
    state.recovered.checkOneSealed error = .ok () := by
  have notVacant : slot.isTombstone = false := by
    obtain ⟨sealed, found⟩ := Option.isSome_iff_exists.mp sealed
    simp [SlotCell.isTombstone, found]
  have counts : RegistryRecoveryCountsV2.tally {} state.cells =
      { retainedEmptyTombstoneCount := rest.length, sealedSlotCount := 1 } := by
    rw [cells, RegistryRecoveryCountsV2.tally, foldl_cons, ← RegistryRecoveryCountsV2.tally,
      RegistryRecoveryCountsV2.tally_vacant vacant]
    simp [RegistryRecoveryCountsV2.add, SlotCell.counts, unrouted, sealed, slotOpen, notVacant]
  have length : state.slots.entries.length = rest.length + 1 := by
    have := congrArg List.length cells
    simpa [RegistryState.cells] using this
  have small : rest.length + 1 < 2 ^ 64 := by
    have size := sound.size
    have bound := registry.config.maxSlots.bounded
    omega
  simp [RegistryRecoveryObservationV2.checkOneSealed, RegistryRecoveryObservationV2.isOneSealed, recovered, counts,
    length, isOpen]
  omega

theorem others_vacant {error : ServingSlotRegistryError} {value : Unit}
    (checked : state.recovered.checkOneSealed error = .ok value) (found : state.slots.lookup key = some slot)
    (sealed : slot.sealState.isSome = true) :
    slot.routes = [] ∧ slot.failedClosed = false ∧ ∀ cell ∈ state.otherCells key, cell.IsVacant := by
  simp only [RegistryRecoveryObservationV2.checkOneSealed, check_bind_eq_ok, rejectIf_eq_ok, Bool.not_eq_false] at checked
  have isOneSealed := checked.2.2
  simp only [RegistryRecoveryObservationV2.isOneSealed, decide_eq_true_eq] at isOneSealed
  obtain ⟨-, staged, serving, draining, oneSealed, -, closed, -⟩ := isOneSealed
  have zero (cell : SlotCell) (mem : cell ∈ state.cells) (field : RegistryRecoveryCountsV2 → Nat)
      (additive : ∀ a b, field (a.add b) = field a + field b)
      (total : field (RegistryRecoveryCountsV2.tally {} state.cells) = 0) : field cell.counts = 0 :=
    Nat.le_zero.mp (total ▸ RegistryRecoveryCountsV2.le_tally field additive mem)
  have unrouted (cell : SlotCell) (mem : cell ∈ state.cells) : cell.routes = [] ∧ cell.failedClosed = false := by
    refine ⟨routes_eq_nil (zero cell mem _ (fun _ _ => rfl) staged) (zero cell mem _ (fun _ _ => rfl) serving)
      (zero cell mem _ (fun _ _ => rfl) draining), ?_⟩
    simpa [SlotCell.counts] using zero cell mem RegistryRecoveryCountsV2.failedClosedSlotCount (fun _ _ => rfl) closed
  have perm := cells_perm found
  have here := unrouted slot (perm.symm.subset mem_cons_self)
  refine ⟨here.1, here.2, fun cell mem => ?_⟩
  have there := unrouted cell (otherCells_subset mem)
  refine ⟨there.1, ?_, there.2⟩
  -- The one seal that is counted is that of the slot.
  have total := RegistryRecoveryCountsV2.tally_field RegistryRecoveryCountsV2.sealedSlotCount (fun _ _ => rfl) {} state.cells
  rw [(perm.map _).sum_eq, map_cons, sum_cons] at total
  have ours : slot.counts.sealedSlotCount = 1 := by simp [SlotCell.counts, sealed]
  have mine : cell.counts.sealedSlotCount ∈ (state.otherCells key).map fun cell => cell.counts.sealedSlotCount :=
    mem_map_of_mem mem
  have some := single_le_sum (fun _ _ => Nat.zero_le _) _ mine
  have none : cell.counts.sealedSlotCount = 0 := by
    change (RegistryRecoveryCountsV2.tally {} state.cells).sealedSlotCount = 1 at oneSealed
    dsimp only at total
    omega
  simpa [SlotCell.counts] using none

end RegistryState

end Vacancy

end Starring.Registry
