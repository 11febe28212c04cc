import Starring.Foundation.Fields
import Starring.Automation.Teardown

/-! The scan for instances whose teardown is to be tried again. It goes from page to page by a cursor, and its end is
fixed on the first page. Between two pages instances may be added, claimed and deleted. -/

namespace Starring.Automation
open Foundation List

def maxInstanceTeardownRetryScanBatchV2 : Nat := 256

structure InstanceTeardownRetryKeyV2 where
  guildId : GuildId
  instanceId : InstanceId
  deriving DecidableEq

namespace InstanceTeardownRetryKeyV2

def new (guildId : GuildId) (instanceId : InstanceId) : Option InstanceTeardownRetryKeyV2 :=
  if guildId.value ≠ 0 then some ⟨guildId, instanceId⟩ else none

-- The bytes of two texts compare as their characters do.
def cmpCV2 (self other : InstanceTeardownRetryKeyV2) : Ordering :=
  (compare (toString self.guildId.value.toNat) (toString other.guildId.value.toNat)).then
    (compare self.instanceId.value other.instanceId.value)

end InstanceTeardownRetryKeyV2

structure InstanceTeardownRetryScanCursorV2 where
  after : Option InstanceTeardownRetryKeyV2
  through : Option InstanceTeardownRetryKeyV2
  deriving DecidableEq

def InstanceTeardownRetryScanCursorV2.initial : InstanceTeardownRetryScanCursorV2 := ⟨none, none⟩

def InstanceTeardownRetryScanCursorV2.continueAfter (after through : InstanceTeardownRetryKeyV2) :
    Option InstanceTeardownRetryScanCursorV2 :=
  if after.cmpCV2 through = .lt then some ⟨some after, some through⟩ else none

structure InstanceTeardownRetryScanPageV2 where
  keys : List InstanceTeardownRetryKeyV2
  through : Option InstanceTeardownRetryKeyV2
  deriving DecidableEq

def InstanceTeardownRetryScanPageV2.new (keys : List InstanceTeardownRetryKeyV2)
    (through : Option InstanceTeardownRetryKeyV2) (limit : Nat) : Option InstanceTeardownRetryScanPageV2 :=
  if limit > maxInstanceTeardownRetryScanBatchV2 ∨ keys.length > limit ∨
      ¬keys.IsChain (fun first second => first.cmpCV2 second = .lt) ∨
      (∃ key ∈ keys, through.all fun through => key.cmpCV2 through = .gt) ∨ keys ≠ [] ∧ through = none then none
  else some ⟨keys, through⟩

def InstanceTeardownRetryScanPageV2.nextCursorV2 (self : InstanceTeardownRetryScanPageV2) :
    Option InstanceTeardownRetryScanCursorV2 := do
  let last ← self.keys.getLast?
  let through ← self.through
  InstanceTeardownRetryScanCursorV2.continueAfter last through

/-- The instances of all guilds. -/
structure InMemoryInstanceStore where
  instances : List AutomationInstance
  distinct : (instances.map fun held => (held.guildId, held.id)).Nodup
  nonZero : ∀ held ∈ instances, held.guildId.value ≠ 0

def InstanceTeardownRetryScanCursorV2.selects (self : InstanceTeardownRetryScanCursorV2)
    (through : Option InstanceTeardownRetryKeyV2) (key : InstanceTeardownRetryKeyV2) : Bool :=
  self.after.all (fun after => key.cmpCV2 after = .gt) && through.any fun through => key.cmpCV2 through ≠ .gt

namespace InMemoryInstanceStore

def retryKeys (self : InMemoryInstanceStore) : List InstanceTeardownRetryKeyV2 :=
  (self.instances.filter (·.status = .deleting)).filterMap fun held =>
    InstanceTeardownRetryKeyV2.new held.guildId held.id

def deleting (self : InMemoryInstanceStore) : List InstanceTeardownRetryKeyV2 :=
  self.retryKeys.mergeSort fun first second => first.cmpCV2 second ≠ .gt

def scanRetryableV2 (self : InMemoryInstanceStore) (cursor : InstanceTeardownRetryScanCursorV2) (limit : Nat) :
    Except InstanceStoreError InstanceTeardownRetryScanPageV2 := do
  rejectIf (limit > maxInstanceTeardownRetryScanBatchV2) (.backend "instance_teardown_retry_scan_batch_invalid")
  let through := cursor.through.or self.deleting.getLast?
  let keys := (self.deleting.filter (cursor.selects through)).take limit
  orReject (InstanceTeardownRetryScanPageV2.new keys through limit) (.backend "instance_teardown_retry_scan_corrupt")

end InMemoryInstanceStore

/-- The keys of the first pages, and where the scan goes on. Each page finds a store of its own. -/
def scannedPages (stores : Nat → InMemoryInstanceStore) (limit : Nat) :
    Nat → Except InstanceStoreError (List InstanceTeardownRetryKeyV2 × Option InstanceTeardownRetryScanCursorV2)
  | 0 => .ok ([], some .initial)
  | pages + 1 => do
    let (visited, next) ← scannedPages stores limit pages
    match next with
    | none => .ok (visited, none)
    | some cursor =>
      let page ← (stores pages).scanRetryableV2 cursor limit
      .ok (visited ++ page.keys, page.nextCursorV2)

section Order

def InstanceTeardownRetryKeyV2.spelling (self : InstanceTeardownRetryKeyV2) : String ×ₗ String :=
  toLex (toString self.guildId.value.toNat, self.instanceId.value)

theorem spelling_injective : Function.Injective InstanceTeardownRetryKeyV2.spelling := by
  rintro ⟨⟨guild⟩, ⟨text, _⟩⟩ ⟨⟨other⟩, ⟨otherText, _⟩⟩ same
  obtain ⟨guilds, texts⟩ := Prod.mk.inj (toLex.injective same)
  obtain rfl : guild = other := Option.some.inj
    ((parseU64_toString guild).symm.trans ((congrArg parseU64 guilds).trans (parseU64_toString other)))
  obtain rfl : text = otherText := texts
  rfl

instance : LinearOrder InstanceTeardownRetryKeyV2 := .lift' InstanceTeardownRetryKeyV2.spelling spelling_injective

theorem utf8_injective : Function.Injective utf8 := fun _ _ same =>
  String.toByteArray_inj.mp (ByteArray.ext (Array.toList_inj.mp same))

/-- There are only finitely many keys, since an instance id has at most 32 bytes. -/
instance : Finite InstanceTeardownRetryKeyV2 := by
  have := (finite_length_le UInt8 32).to_subtype
  have bound (id : InstanceId) : (utf8 id.value).length ≤ 32 := by
    have parsed := id.parsed
    simp only [isInstanceId, Bool.and_eq_true, decide_eq_true_eq] at parsed
    exact parsed.1.2
  refine Finite.of_injective (β := UInt64 × {bytes : List UInt8 | bytes.length ≤ 32})
    (fun key => (key.guildId.value, ⟨utf8 key.instanceId.value, bound key.instanceId⟩)) ?_
  rintro ⟨⟨guild⟩, ⟨text, _⟩⟩ ⟨⟨other⟩, ⟨otherText, _⟩⟩ same
  obtain ⟨rfl, texts⟩ := Prod.mk.inj same
  obtain rfl := utf8_injective (congrArg Subtype.val texts)
  rfl

variable {first second key : InstanceTeardownRetryKeyV2}

theorem cmpCV2_lt : first.cmpCV2 second = .lt ↔ first < second := by
  change _ ↔ first.spelling < second.spelling
  rw [InstanceTeardownRetryKeyV2.spelling, InstanceTeardownRetryKeyV2.spelling, Prod.Lex.toLex_lt_toLex,
    InstanceTeardownRetryKeyV2.cmpCV2, Ordering.then_eq_lt, compare_lt_iff_lt, compare_eq_iff_eq,
    compare_lt_iff_lt]

theorem cmpCV2_gt : first.cmpCV2 second = .gt ↔ second < first := by
  change _ ↔ second.spelling < first.spelling
  rw [InstanceTeardownRetryKeyV2.spelling, InstanceTeardownRetryKeyV2.spelling, Prod.Lex.toLex_lt_toLex,
    InstanceTeardownRetryKeyV2.cmpCV2, Ordering.then_eq_gt, compare_gt_iff_gt, compare_eq_iff_eq,
    compare_gt_iff_gt, eq_comm (a := toString first.guildId.value.toNat)]

theorem selects_iff {cursor : InstanceTeardownRetryScanCursorV2} {through : Option InstanceTeardownRetryKeyV2} :
    cursor.selects through key = true ↔ (∀ last ∈ cursor.after, last < key) ∧ ∃ bound ∈ through, key ≤ bound := by
  obtain ⟨after, -⟩ := cursor
  cases after <;> cases through <;> simp [InstanceTeardownRetryScanCursorV2.selects, cmpCV2_gt]

end Order

section Scan
variable {store : InMemoryInstanceStore} {cursor : InstanceTeardownRetryScanCursorV2} {limit : Nat}
  {key : InstanceTeardownRetryKeyV2}

theorem mem_deleting {held : AutomationInstance} (mem : held ∈ store.instances) (marked : held.status = .deleting) :
    ⟨held.guildId, held.id⟩ ∈ store.deleting :=
  mem_mergeSort.mpr (mem_filterMap.mpr
    ⟨held, mem_filter.mpr ⟨mem, decide_eq_true marked⟩, if_pos (store.nonZero held mem)⟩)

theorem retryKeys_nodup : store.retryKeys.Nodup := by
  have distinct := (pairwise_map.mp store.distinct).sublist (filter_sublist (p := (·.status = .deleting)))
  refine distinct.filterMap _ fun held other differ key made otherKey otherMade same => differ ?_
  simp only [InstanceTeardownRetryKeyV2.new, Option.ite_none_right_eq_some, Option.some.injEq] at made otherMade
  obtain ⟨-, rfl⟩ := made
  obtain ⟨-, rfl⟩ := otherMade
  exact Prod.ext (congrArg (·.guildId) same) (congrArg (·.instanceId) same)

theorem deleting_sorted : store.deleting.Pairwise (· < ·) := by
  have ordered : store.deleting.Pairwise fun first second => decide (first.cmpCV2 second ≠ .gt) = true :=
    pairwise_mergeSort (by simpa [cmpCV2_gt] using fun _ _ _ => le_trans) (by simpa [cmpCV2_gt] using le_total) _
  have distinct : store.deleting.Nodup := (mergeSort_perm _ _).nodup_iff.mpr retryKeys_nodup
  refine (ordered.and distinct).imp fun both => lt_of_le_of_ne ?_ both.2
  simpa [cmpCV2_gt] using both.1

/-- The key comes after the cursor, and not after its end. -/
def InstanceTeardownRetryScanCursorV2.Covers (cursor : InstanceTeardownRetryScanCursorV2)
    (key : InstanceTeardownRetryKeyV2) : Prop :=
  (∀ last ∈ cursor.after, last < key) ∧ ∀ bound ∈ cursor.through, key ≤ bound

/-- What is on a page. -/
structure Scans (store : InMemoryInstanceStore) (cursor : InstanceTeardownRetryScanCursorV2)
    (page : InstanceTeardownRetryScanPageV2) : Prop where
  sorted : page.keys.Pairwise (· < ·)
  beyond : ∀ key ∈ page.keys, ∀ last ∈ cursor.after, last < key
  covered : ∀ key ∈ store.deleting, cursor.Covers key → ∃ bound ∈ page.through, key ≤ bound ∧
    (key ∈ page.keys ∨ ∃ last ∈ page.keys.getLast?, last < key)

theorem exists_last_lt {keys : List InstanceTeardownRetryKeyV2} (sorted : keys.Pairwise (· < ·)) (positive : 0 < limit)
    (mem : key ∈ keys) : key ∈ keys.take limit ∨ ∃ last ∈ (keys.take limit).getLast?, last < key := by
  have nonempty : keys.take limit ≠ [] := by
    rw [ne_eq, take_eq_nil_iff, not_or]
    exact ⟨positive.ne', ne_nil_of_mem mem⟩
  rw [← take_append_drop limit keys] at mem sorted
  obtain taken | dropped := mem_append.mp mem
  · exact .inl taken
  · exact .inr ⟨_, getLast?_eq_getLast_of_ne_nil nonempty,
      (pairwise_append.mp sorted).2.2 _ (getLast_mem nonempty) key dropped⟩

theorem le_getLast {keys : List InstanceTeardownRetryKeyV2} (sorted : keys.Pairwise (· < ·))
    {last : InstanceTeardownRetryKeyV2} (found : keys.getLast? = some last) (mem : key ∈ keys) : key ≤ last := by
  obtain ⟨earlier, rfl⟩ := getLast?_eq_some_iff.mp found
  obtain before | same := mem_append.mp mem
  · exact ((pairwise_append.mp sorted).2.2 key before last (mem_singleton_self _)).le
  · exact (mem_singleton.mp same).le

theorem scanRetryableV2_ok (positive : 0 < limit) (within : limit ≤ maxInstanceTeardownRetryScanBatchV2)
    (store : InMemoryInstanceStore) (cursor : InstanceTeardownRetryScanCursorV2) :
    ∃ page, store.scanRetryableV2 cursor limit = .ok page ∧ Scans store cursor page := by
  unfold InMemoryInstanceStore.scanRetryableV2
  rw [(rejectIf_eq_ok (u := ())).mpr (not_lt.mpr within)]
  generalize isThrough : cursor.through.or store.deleting.getLast? = through
  have kept : (store.deleting.filter (cursor.selects through)).Pairwise (· < ·) :=
    deleting_sorted.sublist filter_sublist
  have sorted := kept.sublist (take_sublist limit _)
  have selected : ∀ key ∈ (store.deleting.filter (cursor.selects through)).take limit,
      (∀ last ∈ cursor.after, last < key) ∧ ∃ bound ∈ through, key ≤ bound := fun key mem =>
    selects_iff.mp (mem_filter.mp (mem_of_mem_take mem)).2
  refine ⟨⟨_, through⟩, orReject_eq_ok.mpr (if_neg ?_), sorted, fun key mem => (selected key mem).1, ?_⟩
  · rintro (large | long | unsorted | ⟨key, mem, above⟩ | ⟨some, none⟩)
    · exact absurd within (not_le.mpr large)
    · exact absurd (length_take_le _ _) (not_le.mpr long)
    · exact unsorted (sorted.imp cmpCV2_lt.mpr).isChain
    · obtain ⟨bound, rfl, le⟩ := (selected key mem).2
      exact absurd (cmpCV2_gt.mp (by simpa using above)) (not_lt.mpr le)
    · obtain ⟨key, mem⟩ := exists_mem_of_ne_nil _ some
      obtain ⟨bound, rfl, -⟩ := (selected key mem).2
      cases none
  · intro key mem covers
    obtain ⟨bound, isBound, le⟩ : ∃ bound ∈ through, key ≤ bound := by
      cases known : cursor.through with
      | some bound => exact ⟨bound, isThrough ▸ known ▸ rfl, covers.2 bound known⟩
      | none =>
        have found := getLast?_eq_getLast_of_ne_nil (ne_nil_of_mem mem)
        exact ⟨_, isThrough ▸ known ▸ found, le_getLast deleting_sorted found mem⟩
    exact ⟨bound, isBound, le, exists_last_lt kept positive
      (mem_filter.mpr ⟨mem, selects_iff.mpr ⟨covers.1, bound, isBound, le⟩⟩)⟩

theorem nextCursorV2_eq_some {page : InstanceTeardownRetryScanPageV2} : page.nextCursorV2 = some cursor ↔
    ∃ last ∈ page.keys.getLast?, ∃ bound ∈ page.through, last < bound ∧ ⟨some last, some bound⟩ = cursor := by
  simp [InstanceTeardownRetryScanPageV2.nextCursorV2, InstanceTeardownRetryScanCursorV2.continueAfter, cmpCV2_lt,
    Option.bind_eq_some_iff]

variable {stores : Nat → InMemoryInstanceStore} {pages : Nat} {visited : List InstanceTeardownRetryKeyV2}

/-- What has been visited so far, and what is still to come. -/
structure Progressed (stores : Nat → InMemoryInstanceStore) (pages : Nat) (visited : List InstanceTeardownRetryKeyV2)
    (next : Option InstanceTeardownRetryScanCursorV2) : Prop where
  sorted : visited.Pairwise (· < ·)
  passed : ∀ cursor ∈ next, pages ≤ visited.length ∧ ∀ key ∈ visited, ∃ last ∈ cursor.after, key ≤ last
  complete : ∀ key, (∀ page < pages, key ∈ (stores page).deleting) → key ∈ visited ∨ ∃ cursor ∈ next, cursor.Covers key

theorem Progressed.step {page : InstanceTeardownRetryScanPageV2} (progressed : Progressed stores pages visited (some cursor))
    (scans : Scans (stores pages) cursor page) :
    Progressed stores (pages + 1) (visited ++ page.keys) page.nextCursorV2 := by
  obtain ⟨long, passed⟩ := progressed.passed cursor rfl
  have sorted : (visited ++ page.keys).Pairwise (· < ·) := by
    refine pairwise_append.mpr ⟨progressed.sorted, scans.sorted, fun key mem later found => ?_⟩
    obtain ⟨last, isLast, le⟩ := passed key mem
    exact le.trans_lt (scans.beyond later found last isLast)
  refine ⟨sorted, fun next isNext => ?_, fun key marked => ?_⟩
  · obtain ⟨last, found, bound, -, -, rfl⟩ := nextCursorV2_eq_some.mp isNext
    have more := length_pos_of_mem (mem_of_getLast? found)
    refine ⟨by rw [length_append]; omega, fun key mem => ⟨last, rfl, le_getLast sorted ?_ mem⟩⟩
    rw [getLast?_append, found]
    rfl
  · obtain seen | ⟨_, same, covers⟩ := progressed.complete key fun page before => marked page (by omega)
    · exact .inl (mem_append_left _ seen)
    · cases same
      obtain ⟨bound, isBound, le, here | ⟨last, found, lt⟩⟩ := scans.covered key (marked pages (by omega)) covers
      · exact .inl (mem_append_right _ here)
      · exact .inr ⟨_, nextCursorV2_eq_some.mpr ⟨last, found, bound, isBound, lt.trans_le le, rfl⟩, by simpa using lt,
          by simpa using le⟩

theorem scannedPages_ok (positive : 0 < limit) (within : limit ≤ maxInstanceTeardownRetryScanBatchV2)
    (stores : Nat → InMemoryInstanceStore) (pages : Nat) : ∃ visited next, scannedPages stores limit pages = .ok (visited, next) ∧
      Progressed stores pages visited next := by
  induction pages with
  | zero => exact ⟨[], some .initial, rfl, .nil, by simp, fun key _ => .inr ⟨_, rfl, by simp [InstanceTeardownRetryScanCursorV2.initial],
      by simp [InstanceTeardownRetryScanCursorV2.initial]⟩⟩
  | succ pages ih =>
    obtain ⟨visited, next, reached, progressed⟩ := ih
    rw [scannedPages, reached]
    cases next with
    | none => exact ⟨visited, none, rfl, progressed.sorted, by simp, fun key marked =>
        progressed.complete key fun page before => marked page (by omega)⟩
    | some cursor =>
      obtain ⟨page, made, scans⟩ := scanRetryableV2_ok positive within (stores pages) cursor
      exact ⟨_, _, by simp [bind, Except.bind, made], progressed.step scans⟩

/-- The scan comes to an end, in the order of the keys, and visits every instance that is to be deleted all the while. -/
theorem retry_scan_complete (stores : Nat → InMemoryInstanceStore) {limit : Nat} (positive : 0 < limit)
    (within : limit ≤ maxInstanceTeardownRetryScanBatchV2) :
    ∃ pages visited, scannedPages stores limit pages = .ok (visited, none) ∧
      (∀ earlier < pages, ∃ seen cursor, scannedPages stores limit earlier = .ok (seen, some cursor)) ∧
      visited.Pairwise (fun first second => first.cmpCV2 second = .lt) ∧ visited.Nodup ∧
      ∀ key, (∀ page < pages, ∃ held ∈ (stores page).instances, held.guildId = key.guildId ∧ held.id = key.instanceId ∧
        held.status = .deleting) → visited.count key = 1 := by
  have ends : ∃ pages visited, scannedPages stores limit pages = .ok (visited, none) := by
    have := Fintype.ofFinite InstanceTeardownRetryKeyV2
    obtain ⟨visited, next, reached, progressed⟩ :=
      scannedPages_ok positive within stores (Fintype.card InstanceTeardownRetryKeyV2 + 1)
    cases next with
    | none => exact ⟨_, visited, reached⟩
    | some cursor =>
      have few := List.Nodup.length_le_card (progressed.sorted.imp ne_of_lt)
      exact absurd (progressed.passed cursor rfl).1 (by omega)
  classical
  obtain ⟨visited, reached⟩ := Nat.find_spec ends
  obtain ⟨_, _, same, progressed⟩ := scannedPages_ok positive within stores (Nat.find ends)
  cases reached.symm.trans same
  have nodup : visited.Nodup := progressed.sorted.imp ne_of_lt
  refine ⟨_, visited, reached, fun earlier before => ?_, progressed.sorted.imp cmpCV2_lt.mpr, nodup, fun key marked => ?_⟩
  · obtain ⟨seen, next, found, -⟩ := scannedPages_ok positive within stores earlier
    cases next with
    | none => exact absurd ⟨seen, found⟩ (Nat.find_min ends before)
    | some cursor => exact ⟨seen, cursor, found⟩
  · refine count_eq_one_of_mem nodup ((progressed.complete key fun page before => ?_).resolve_right (by simp))
    obtain ⟨held, mem, guild, id, status⟩ := marked page before
    have found := mem_deleting mem status
    rwa [guild, id] at found

theorem room_scan_complete : ∃ store : InMemoryInstanceStore, store.instances = [{ room with status := .deleting }] ∧
    ∃ pages visited, scannedPages (fun _ => store) 1 pages = .ok (visited, none) ∧
      visited.count ⟨room.guildId, room.id⟩ = 1 := by
  have nonZero : ∀ held ∈ [{ room with status := InstanceStatus.deleting }], held.guildId.value ≠ 0 := by simp [room]
  obtain ⟨pages, visited, reached, -, -, -, complete⟩ :=
    retry_scan_complete (fun _ => ⟨[{ room with status := .deleting }], nodup_singleton _, nonZero⟩) Nat.one_pos
      (by decide)
  exact ⟨_, rfl, pages, visited, reached, complete ⟨room.guildId, room.id⟩ fun _ _ =>
    ⟨_, mem_singleton_self _, rfl, rfl, rfl⟩⟩

end Scan
end Starring.Automation
