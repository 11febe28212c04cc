import Starring.Planning.Matching

/-! When a list of edits to the rows brings about what is declared. Roles and channels
are two families of resources, and everything here is said of a family: each edit is
made for one entry, and an entry that is present has its row to itself. -/

namespace Starring.Planning
open Foundation Table Option

/-- Entries of a desired state, the rows they are about, and the fields in which a row falls short. -/
structure Family (ρ ε : Type) where
  kind : Kind ρ
  identity : ε → Identity
  name : ε → Option String
  changed : ε → ρ → List ChangedField
  named : ∀ entry row text, name entry = some text → changed entry row = [] → kind.name row = text

theorem differs_eq_nil {α : Type} [DecidableEq α] (field : ChangedField) (wanted : Option α) (current : α) :
    differs field wanted current = [] ↔ ∀ value, wanted = some value → value = current := by
  cases wanted <;> simp [differs]

def roleFamily : Family Role NormalizedRole where
  kind := roleKind
  identity := NormalizedRole.identity
  name := NormalizedRole.name
  changed := roleChanged
  named role row text named unchanged := by
    rw [roleChanged, List.append_eq_nil_iff, differs_eq_nil] at unchanged
    exact (unchanged.1 text named).symm

def channelFamily : Family Channel NormalizedChannel where
  kind := channelKind
  identity := NormalizedChannel.identity
  name := NormalizedChannel.name
  changed := channelMetaChanged
  named channel row text named unchanged := by
    rw [channelMetaChanged, List.append_eq_nil_iff, differs_eq_nil] at unchanged
    exact (unchanged.1 text named).symm

namespace Family
variable {ρ ε : Type} (family : Family ρ ε)

def key (entry : ε) : ResourceKey := (family.identity entry).key
def Present (entry : ε) : Prop := (family.identity entry).state = .present
def Owned (entry : ε) : Prop := (family.identity entry).ownership ≠ .referenced
def resolve (rows : List ρ) (entry : ε) : ResolveResult ρ :=
  resolveMatch family.kind rows (family.identity entry) (family.name entry)

def rowFor (rows : List ρ) (entries : List ε) (key : ResourceKey) : Option (ResolveResult ρ) :=
  (entries.find? fun entry => family.key entry = key).map (family.resolve rows)

variable {family} in
theorem rowFor_key (rows : List ρ) {entries : List ε} (keys : (entries.map family.key).Nodup) {entry : ε} (mem : entry ∈ entries) :
    family.rowFor rows entries (family.key entry) = some (family.resolve rows entry) := by
  have found : (entries.find? fun other => family.key other = family.key entry) = some entry :=
    (lookup_eq_some_iff keys (family.key entry) entry).mpr ⟨mem, rfl⟩
  rw [rowFor, found]
  rfl

variable {family} in
theorem mem_of_rowFor {rows : List ρ} {entries : List ε} {key : ResourceKey} {result : ResolveResult ρ}
    (found : family.rowFor rows entries key = some result) :
    ∃ entry ∈ entries, family.key entry = key ∧ family.resolve rows entry = result := by
  obtain ⟨entry, held, same⟩ := map_eq_some_iff.mp found
  exact ⟨entry, List.mem_of_find?_eq_some held, by simpa using List.find?_some held, same⟩

/-- A row that a present entry finds is found by no other entry, and a name that an entry is found
by is declared by no other present entry. -/
structure Separate (rows : List ρ) (entries : List ε) : Prop where
  own : ∀ entry ∈ entries, family.Present entry → ∀ other ∈ entries, family.key other ≠ family.key entry →
    ∀ row, family.resolve rows entry = .existing row → family.resolve rows other ≠ .existing row
  names : ∀ entry ∈ entries, (family.identity entry).matchBy = .byName →
    ∀ other ∈ entries, family.key other ≠ family.key entry → family.Present other →
      family.name other ≠ family.name entry

/-- The id of an entry: the one of its row, or the one its key is bound to where it has no row yet. -/
def Home (rows : List ρ) (bound : ResourceKey → Option UInt64) (entry : ε) (id : UInt64) : Prop :=
  (∃ row, family.resolve rows entry = .existing row ∧ family.kind.id row = id) ∨
    (family.resolve rows entry = .missing ∧ bound (family.key entry) = some id)

/-- The name is the one a row with the id had, or the one that a present entry declares for it. -/
def Known (rows : List ρ) (entries : List ε) (bound : ResourceKey → Option UInt64) (id : UInt64)
    (name : String) : Prop :=
  (∃ old ∈ rows, family.kind.id old = id ∧ family.kind.name old = name) ∨
    ∃ entry ∈ entries, family.Present entry ∧ family.Home rows bound entry id ∧ family.name entry = some name

/-- Everything that is asked for in the row is there. -/
def Complete (entry : ε) (row : Option ρ) : Prop :=
  ∃ held, row = some held ∧ family.changed entry held = []

/-- Entries that are to be reconciled with rows. Ids for new rows are bound to the keys of entries
without a row, and are nobody else's. -/
structure Situation (rows : List ρ) (entries : List ε) (bound : ResourceKey → Option UInt64) : Prop where
  ids : (rows.map family.kind.id).Nodup
  keys : (entries.map family.key).Nodup
  proper : ∀ entry ∈ entries, Proper (family.identity entry) (family.name entry)
  clear : ∀ entry ∈ entries, ∀ reason, family.resolve rows entry ≠ .conflict reason
  creatable : ∀ entry ∈ entries, family.Present entry → family.resolve rows entry = .missing →
    (family.identity entry).matchBy = .byName
  separate : family.Separate rows entries
  unused : ∀ entry ∈ entries, family.resolve rows entry = .missing → ∀ id, bound (family.key entry) = some id →
    ∀ row ∈ rows, family.kind.id row ≠ id
  unnamed : ∀ entry ∈ entries, family.resolve rows entry = .missing → ∀ id, bound (family.key entry) = some id →
    ∀ other ∈ entries, ∀ text, (family.identity other).matchBy = .byExplicitId text → parseU64 text ≠ some id
  distinct : ∀ entry ∈ entries, family.resolve rows entry = .missing → ∀ id, bound (family.key entry) = some id →
    ∀ other ∈ entries, family.resolve rows other = .missing → bound (family.key other) = some id →
      family.key other = family.key entry

inductive Makes (rows : List ρ) (bound : ResourceKey → Option UInt64) (entry : ε) : Table.Edit ρ UInt64 → Prop where
  | create (id : UInt64) (row : ρ) (present : family.Present entry)
      (missing : family.resolve rows entry = .missing) (bind : bound (family.key entry) = some id)
      (complete : family.changed entry row = []) : Makes rows bound entry (.add id row)
  | update (row : ρ) (change : ρ → ρ) (present : family.Present entry) (owned : family.Owned entry)
      (found : family.resolve rows entry = .existing row) (complete : ∀ old, family.changed entry (change old) = [])
      (keeps : family.name entry = none → ∀ old, family.kind.name (change old) = family.kind.name old) :
      Makes rows bound entry (.change (family.kind.id row) change)
  | detail (id : UInt64) (change : ρ → ρ) (present : family.Present entry) (owned : family.Owned entry)
      (home : family.Home rows bound entry id) (same : ∀ old, family.changed entry (change old) = family.changed entry old)
      (keeps : ∀ old, family.kind.name (change old) = family.kind.name old) : Makes rows bound entry (.amend id change)
  | delete (row : ρ) (absent : ¬family.Present entry) (found : family.resolve rows entry = .existing row) :
      Makes rows bound entry (.drop (family.kind.id row))

/-- The edits are those that the entries ask for, and nothing that is asked for is left out. -/
structure Carries (rows : List ρ) (entries : List ε) (bound : ResourceKey → Option UInt64)
    (edits : List (Table.Edit ρ UInt64)) : Prop where
  made : ∀ edit ∈ edits, ∃ entry ∈ entries, family.Makes rows bound entry edit
  created : ∀ entry ∈ entries, family.Present entry → family.resolve rows entry = .missing →
    ∃ id row, .add id row ∈ edits ∧ family.Makes rows bound entry (.add id row)
  updated : ∀ entry ∈ entries, family.Present entry → family.Owned entry →
    ∀ row, family.resolve rows entry = .existing row → family.changed entry row ≠ [] →
      ∃ change, .change (family.kind.id row) change ∈ edits ∧
        family.Makes rows bound entry (.change (family.kind.id row) change)
  deleted : ∀ entry ∈ entries, ¬family.Present entry → ∀ row, family.resolve rows entry = .existing row →
    .drop (family.kind.id row) ∈ edits

section
variable {family} {rows : List ρ} {entries : List ε} {bound : ResourceKey → Option UInt64}
  {edits : List (Table.Edit ρ UInt64)} {entry other : ε} {id : UInt64}

variable {edit : Table.Edit ρ UInt64}

theorem Makes.home (makes : family.Makes rows bound entry edit) : family.Home rows bound entry edit.target := by
  cases makes with
  | create id row present missing bind complete => exact .inr ⟨missing, bind⟩
  | update row change present owned found complete keeps | delete row absent found => exact .inl ⟨row, found, rfl⟩
  | detail id change present owned home same keeps => exact home

theorem Makes.change_complete {change : ρ → ρ} (makes : family.Makes rows bound entry (.change id change)) (old : ρ) :
    family.changed entry (change old) = [] := by
  cases makes with
  | update row change present owned found complete keeps => exact complete old

theorem Home.unique {second : UInt64} (home : family.Home rows bound entry id)
    (again : family.Home rows bound entry second) : id = second := by
  obtain ⟨row, found, rfl⟩ | ⟨missing, bind⟩ := home
  · obtain ⟨same, sameFound, rfl⟩ | ⟨missing, _⟩ := again
    · obtain rfl := ResolveResult.existing.inj (found.symm.trans sameFound)
      rfl
    · cases found.symm.trans missing
  · obtain ⟨same, sameFound, _⟩ | ⟨_, bindAgain⟩ := again
    · cases missing.symm.trans sameFound
    · exact Option.some.inj (bind.symm.trans bindAgain)

/-- A row that goes by the name that an entry is found by was that entry's row, or is declared by it. -/
theorem Known.of_byName (situation : family.Situation rows entries bound) (mem : entry ∈ entries)
    (byName : (family.identity entry).matchBy = .byName) {text : String} (named : family.name entry = some text)
    (known : family.Known rows entries bound id text) : family.Home rows bound entry id := by
  obtain ⟨old, inRows, rfl, sameName⟩ | ⟨other, otherMem, present, home, otherNamed⟩ := known
  · cases resolved : family.resolve rows entry with
    | existing row =>
      obtain rfl := (existing_of_byName byName named resolved).2.2 old inRows sameName
      exact .inl ⟨old, resolved, rfl⟩
    | missing => exact (missing_of_byName byName named resolved old inRows sameName).elim
    | conflict reason => exact (situation.clear entry mem reason resolved).elim
  · have sameKey : family.key other = family.key entry := by
      by_contra differ
      exact situation.separate.names entry mem byName other otherMem differ present (otherNamed.trans named.symm)
    exact List.inj_on_of_nodup_map situation.keys otherMem mem sameKey ▸ home

theorem Situation.parsed (situation : family.Situation rows entries bound) (mem : entry ∈ entries) {text : String}
    (explicit : (family.identity entry).matchBy = .byExplicitId text) : ∃ raw, parseU64 text = some raw := by
  cases parsed : parseU64 text with
  | some raw => exact ⟨raw, rfl⟩
  | none =>
    have conflict : family.resolve rows entry = .conflict ("invalid id " ++ text) := by
      simp only [resolve, resolveMatch, explicit, parsed]
    exact (situation.clear entry mem _ conflict).elim

theorem Situation.home_unique (situation : family.Situation rows entries bound) (mem : entry ∈ entries)
    (present : family.Present entry) (home : family.Home rows bound entry id) (otherMem : other ∈ entries)
    (otherHome : family.Home rows bound other id) : other = entry := by
  refine List.inj_on_of_nodup_map situation.keys otherMem mem ?_
  by_contra differ
  obtain ⟨row, found, here⟩ | ⟨missing, bind⟩ := home
  · obtain ⟨second, secondFound, there⟩ | ⟨otherMissing, otherBind⟩ := otherHome
    · have same := List.inj_on_of_nodup_map situation.ids (resolveMatch_mem secondFound) (resolveMatch_mem found)
        (there.trans here.symm)
      exact situation.separate.own entry mem present other otherMem differ row found (same ▸ secondFound)
    · exact situation.unused other otherMem otherMissing id otherBind row (resolveMatch_mem found) here
  · obtain ⟨second, secondFound, there⟩ | ⟨otherMissing, otherBind⟩ := otherHome
    · exact situation.unused entry mem missing id bind second (resolveMatch_mem secondFound) there
    · exact differ (situation.distinct entry mem missing id bind other otherMem otherMissing otherBind)

theorem Carries.makes_of_home (carries : family.Carries rows entries bound edits)
    (situation : family.Situation rows entries bound) (mem : entry ∈ entries) (present : family.Present entry)
    (home : family.Home rows bound entry id) (inEdits : edit ∈ edits) (here : edit.target = id) :
    family.Makes rows bound entry edit := by
  obtain ⟨maker, makerMem, makes⟩ := carries.made edit inEdits
  obtain rfl := situation.home_unique mem present home makerMem (here ▸ makes.home)
  exact makes

/-- No edit that is made for a present entry undoes what another one has completed. -/
theorem Makes.complete (makes : family.Makes rows bound entry edit) (present : family.Present entry) {row : Option ρ}
    (suits : edit.Suits row) (complete : family.Complete entry row) : family.Complete entry (edit.act row) := by
  obtain ⟨held, rfl, unchanged⟩ := complete
  cases makes with
  | create id row _ missing bind complete => cases suits
  | update row change _ owned found complete keeps => exact ⟨change held, rfl, complete held⟩
  | detail id change _ owned home same keeps => exact ⟨change held, rfl, (same held).trans unchanged⟩
  | delete row absent found => exact (absent present).elim

theorem Carries.name_known (carries : family.Carries rows entries bound edits)
    (situation : family.Situation rows entries bound) (fits : Table.Fits family.kind.id rows edits) {row : ρ}
    (found : Table.lookup family.kind.id (Table.run family.kind.id rows edits) id = some row) :
    family.Known rows entries bound id (family.kind.name row) := by
  refine lookup_run_invariant
    (fun held => ∀ row, held = some row → family.Known rows entries bound id (family.kind.name row)) fits ?_ ?_ row found
  · intro row held
    obtain ⟨mem, here⟩ := (lookup_eq_some_iff situation.ids id row).mp held
    exact .inl ⟨row, mem, here, rfl⟩
  · intro edit inEdits here old suits known row held
    obtain ⟨maker, mem, makes⟩ := carries.made edit inEdits
    have home := here ▸ makes.home
    cases makes with
    | create id added present missing bind complete =>
      obtain rfl := Option.some.inj held
      obtain ⟨text, named⟩ := ne_none_iff_exists'.mp
        ((situation.proper maker mem).named (situation.creatable maker mem present missing))
      exact .inr ⟨maker, mem, present, home, family.named maker added text named complete ▸ named⟩
    | update first change present owned found complete keeps =>
      obtain ⟨before, rfl, rfl⟩ := map_eq_some_iff.mp held
      cases named : family.name maker with
      | none => exact keeps named before ▸ known before rfl
      | some text =>
        exact .inr ⟨maker, mem, present, home, family.named maker _ text named (complete before) ▸ named⟩
    | detail id change present owned _ same keeps =>
      obtain ⟨before, rfl, rfl⟩ := map_eq_some_iff.mp held
      exact keeps before ▸ known before rfl
    | delete first absent found => cases held

section
variable (carries : family.Carries rows entries bound edits) (situation : family.Situation rows entries bound)
  (fits : Table.Fits family.kind.id rows edits) (mem : entry ∈ entries)
include carries situation fits mem

theorem Carries.complete_of_missing (present : family.Present entry) (missing : family.resolve rows entry = .missing) :
    ∃ id, bound (family.key entry) = some id ∧
      family.Complete entry (Table.lookup family.kind.id (Table.run family.kind.id rows edits) id) := by
  obtain ⟨id, row, inEdits, makes⟩ := carries.created entry mem present missing
  cases makes with
  | create id row _ _ bind complete =>
    have home : family.Home rows bound entry id := .inr ⟨missing, bind⟩
    refine ⟨id, bind, lookup_run_establish (fun _ => True) (family.Complete entry) fits trivial
      (fun _ _ _ _ _ _ => trivial) ⟨_, inEdits, rfl, fun _ _ _ => ⟨row, rfl, complete⟩⟩ ?_⟩
    intro edit later here held suits _ done
    exact (carries.makes_of_home situation mem present home later here).complete present suits done

theorem Carries.complete_of_existing (present : family.Present entry) (owned : family.Owned entry) {row : ρ}
    (found : family.resolve rows entry = .existing row) :
    family.Complete entry
      (Table.lookup family.kind.id (Table.run family.kind.id rows edits) (family.kind.id row)) := by
  have home : family.Home rows bound entry (family.kind.id row) := .inl ⟨row, found, rfl⟩
  have held : Table.lookup family.kind.id rows (family.kind.id row) = some row :=
    (lookup_eq_some_iff situation.ids _ row).mpr ⟨resolveMatch_mem found, rfl⟩
  have stays : ∀ edit ∈ edits, edit.target = family.kind.id row → ∀ old, edit.Suits old →
      family.Complete entry old → family.Complete entry (edit.act old) := fun edit inEdits here old suits done =>
    (carries.makes_of_home situation mem present home inEdits here).complete present suits done
  by_cases unchanged : family.changed entry row = []
  · exact lookup_run_invariant (family.Complete entry) fits ⟨row, held, unchanged⟩ stays
  · obtain ⟨change, inEdits, makes⟩ := carries.updated entry mem present owned row found unchanged
    refine lookup_run_establish (fun old => old ≠ none) (family.Complete entry) fits (by simp [held]) ?_
      ⟨_, inEdits, rfl, fun old _ there => ?_⟩ fun edit later here old suits _ done => stays edit later here old suits done
    · intro edit later here old suits there
      obtain ⟨first, rfl⟩ := ne_none_iff_exists'.mp there
      cases carries.makes_of_home situation mem present home later here with
      | create id row _ missing bind complete => cases suits
      | update row change _ owned found complete keeps => exact some_ne_none _
      | detail id change _ owned home same keeps => exact some_ne_none _
      | delete row absent found => exact (absent present).elim
    · obtain ⟨first, rfl⟩ := ne_none_iff_exists'.mp there
      exact ⟨change first, rfl, makes.change_complete first⟩

theorem Carries.lookup_of_referenced (present : family.Present entry) (foreign : ¬family.Owned entry) {row : ρ}
    (found : family.resolve rows entry = .existing row) :
    Table.lookup family.kind.id (Table.run family.kind.id rows edits) (family.kind.id row) = some row := by
  have home : family.Home rows bound entry (family.kind.id row) := .inl ⟨row, found, rfl⟩
  refine lookup_run_invariant (fun old => old = some row) fits
    ((lookup_eq_some_iff situation.ids _ row).mpr ⟨resolveMatch_mem found, rfl⟩) ?_
  intro edit inEdits here old suits same
  cases carries.makes_of_home situation mem present home inEdits here with
  | create id row _ missing bind complete =>
    rw [missing] at found
    cases found
  | update row change _ owned found complete keeps => exact (foreign owned).elim
  | detail id change _ owned home same keeps => exact (foreign owned).elim
  | delete row absent found => exact (absent present).elim

theorem Carries.lookup_of_absent (absent : ¬family.Present entry) (home : family.Home rows bound entry id) :
    Table.lookup family.kind.id (Table.run family.kind.id rows edits) id = none := by
  have stays : ∀ edit ∈ edits, edit.target = id → ∀ old, edit.Suits old → old = none → edit.act old = none := by
    intro edit inEdits here old suits gone
    obtain ⟨maker, makerMem, makes⟩ := carries.made edit inEdits
    have lacks : ¬family.Present maker := fun makerPresent =>
      absent (situation.home_unique makerMem makerPresent (here ▸ makes.home) mem home ▸ makerPresent)
    cases makes with
    | create id row present missing bind complete | update row change present owned found complete keeps
    | detail id change present owned home same keeps => exact (lacks present).elim
    | delete row absent found => rfl
  obtain ⟨row, found, rfl⟩ | ⟨missing, bind⟩ := home
  · exact lookup_run_establish (fun _ => True) (fun old => old = none) fits trivial (fun _ _ _ _ _ _ => trivial)
      ⟨_, carries.deleted entry mem absent row found, rfl, fun _ _ _ => rfl⟩
      fun edit inEdits here old suits _ => stays edit inEdits here old suits
  · exact lookup_run_invariant (fun old => old = none) fits
      ((lookup_eq_none_iff id).mpr (situation.unused entry mem missing id bind)) stays

theorem Carries.resolve_of_present (present : family.Present entry) :
    ∃ row, family.resolve (Table.run family.kind.id rows edits) entry = .existing row ∧
      family.Home rows bound entry (family.kind.id row) ∧ (family.Owned entry → family.changed entry row = []) := by
  have ids := nodup_run fits situation.ids
  have proper := situation.proper entry mem
  obtain ⟨row, id, held, home, complete⟩ : ∃ row id,
      Table.lookup family.kind.id (Table.run family.kind.id rows edits) id = some row ∧
        family.Home rows bound entry id ∧ (family.Owned entry → family.changed entry row = []) := by
    cases resolved : family.resolve rows entry with
    | existing row =>
      by_cases owned : family.Owned entry
      · obtain ⟨final, held, unchanged⟩ := carries.complete_of_existing situation fits mem present owned resolved
        exact ⟨final, _, held, .inl ⟨row, resolved, rfl⟩, fun _ => unchanged⟩
      · have held := carries.lookup_of_referenced situation fits mem present owned resolved
        exact ⟨row, _, held, .inl ⟨row, resolved, rfl⟩, fun owns => (owned owns).elim⟩
    | missing =>
      obtain ⟨id, bind, final, held, unchanged⟩ := carries.complete_of_missing situation fits mem present resolved
      exact ⟨final, id, held, .inr ⟨resolved, bind⟩, fun _ => unchanged⟩
    | conflict reason => exact (situation.clear entry mem reason resolved).elim
  obtain ⟨inRows, here⟩ := (lookup_eq_some_iff ids id row).mp held
  refine ⟨row, ?_, here ▸ home, complete⟩
  cases strategy : (family.identity entry).matchBy with
  | byName =>
    obtain ⟨text, named⟩ := ne_none_iff_exists'.mp (proper.named strategy)
    have owned : family.Owned entry := fun referenced => by
      rw [(proper.foreign referenced).1] at named
      cases named
    refine resolveMatch_eq_existing ids strategy named inRows (family.named entry row text named (complete owned)) ?_
    intro other otherMem sameName
    have found := (lookup_eq_some_iff ids (family.kind.id other) other).mpr ⟨otherMem, rfl⟩
    have known := carries.name_known situation fits found
    exact ((sameName ▸ known).of_byName situation mem strategy named).unique (here ▸ home)
  | byExplicitId text =>
    obtain ⟨raw, parsed⟩ := situation.parsed mem strategy
    have sameId : id = raw := by
      obtain ⟨old, found, rfl⟩ | ⟨missing, _⟩ := home
      · rw [resolve, resolveMatch_byExplicitId strategy parsed, ofFound_eq_existing] at found
        exact ((lookup_eq_some_iff situation.ids raw old).mp found).2
      · rw [situation.creatable entry mem present missing] at strategy
        cases strategy
    rw [resolve, resolveMatch_byExplicitId strategy parsed, ofFound_eq_existing, ← sameId]
    exact held

theorem Carries.resolve_of_absent (absent : ¬family.Present entry) :
    family.resolve (Table.run family.kind.id rows edits) entry = .missing := by
  have ids := nodup_run fits situation.ids
  cases strategy : (family.identity entry).matchBy with
  | byName =>
    obtain ⟨text, named⟩ := ne_none_iff_exists'.mp ((situation.proper entry mem).named strategy)
    refine resolveMatch_eq_missing strategy named fun other otherMem sameName => ?_
    have found := (lookup_eq_some_iff ids (family.kind.id other) other).mpr ⟨otherMem, rfl⟩
    have home := (sameName ▸ carries.name_known situation fits found).of_byName situation mem strategy named
    cases found.symm.trans (carries.lookup_of_absent situation fits mem absent home)
  | byExplicitId text =>
    obtain ⟨raw, parsed⟩ := situation.parsed mem strategy
    rw [resolve, resolveMatch_byExplicitId strategy parsed, ofFound_eq_missing]
    cases old : Table.lookup family.kind.id rows raw with
    | some row =>
      have found : family.resolve rows entry = .existing row := by
        rw [resolve, resolveMatch_byExplicitId strategy parsed, ofFound_eq_existing, old]
      have here := ((lookup_eq_some_iff situation.ids raw row).mp old).2
      exact carries.lookup_of_absent situation fits mem absent (.inl ⟨row, found, here⟩)
    | none =>
      -- no edit is made under the id: it is that of no row, and none of the new ones
      refine lookup_run_invariant (fun held => held = none) fits old fun edit inEdits here held _ _ => ?_
      obtain ⟨maker, makerMem, makes⟩ := carries.made edit inEdits
      obtain ⟨row, found, there⟩ | ⟨missing, bind⟩ := makes.home
      · exact ((lookup_eq_none_iff raw).mp old row (resolveMatch_mem found) (there.trans here)).elim
      · exact (situation.unnamed maker makerMem missing _ bind entry mem text strategy (here ▸ parsed)).elim

end

end

end Family

end Starring.Planning
