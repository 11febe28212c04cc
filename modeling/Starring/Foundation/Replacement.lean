import Mathlib

/-! Replacement of substrings in a text, and which marks a text contains afterwards. A mark
is broken by a separator behind its first character. Dropping characters later can join
a mark that was not there before, and only in that way does a broken text contain one. -/

namespace Starring.Foundation
open List
variable {α : Type}

/-- The runs of characters between separators, with the run that is being read. -/
def splitRuns (separates : α → Bool) (current : List α) : List α → List (List α)
  | [] => if current = [] then [] else [current]
  | head :: rest =>
    if separates head then
      if current = [] then splitRuns separates [] rest else current :: splitRuns separates [] rest
    else splitRuns separates (current ++ [head]) rest

section Separators
variable {mark : List α} {separator : α}

theorem prefix_append_separator (absent : separator ∉ mark) (first rest : List α) :
    mark <+: first ++ separator :: rest ↔ mark <+: first := by
  induction first generalizing mark with
  | nil =>
    cases mark with
    | nil => simp
    | cons head tail =>
      have : separator ≠ head := fun same => absent (same ▸ mem_cons_self)
      simp [cons_prefix_cons, this.symm]
  | cons head first ih =>
    cases mark with
    | nil => simp
    | cons start tail =>
      rw [cons_append, cons_prefix_cons, cons_prefix_cons,
        ih fun mem => absent (mem_cons_of_mem _ mem)]

theorem infix_cons_separator (nonempty : mark ≠ []) (absent : separator ∉ mark) (rest : List α) :
    mark <:+: separator :: rest ↔ mark <:+: rest := by
  rw [infix_cons_iff]
  refine or_iff_right fun starts => ?_
  have : mark <+: [] := (prefix_append_separator absent [] rest).mp starts
  exact nonempty (prefix_nil.mp this)

/-- A mark does not reach across a separator. -/
theorem infix_append_separator (nonempty : mark ≠ []) (absent : separator ∉ mark) (first rest : List α) :
    mark <:+: first ++ separator :: rest ↔ mark <:+: first ∨ mark <:+: rest := by
  induction first with
  | nil => simp [infix_cons_separator nonempty absent, nonempty]
  | cons head first ih =>
    rw [cons_append, infix_cons_iff, infix_cons_iff, ih, ← cons_append,
      prefix_append_separator absent, or_assoc]

theorem infix_intercalate (nonempty : mark ≠ []) (absent : separator ∉ mark) (parts : List (List α)) :
    mark <:+: [separator].intercalate parts ↔ ∃ part ∈ parts, mark <:+: part := by
  induction parts with
  | nil => simp [List.intercalate, nonempty]
  | cons part parts ih =>
    cases parts with
    | nil => simp [List.intercalate]
    | cons next parts =>
      have joined : [separator].intercalate (part :: next :: parts) =
          part ++ separator :: [separator].intercalate (next :: parts) := by
        simp [List.intercalate]
      rw [joined, infix_append_separator nonempty absent, ih]
      simp only [mem_cons, exists_eq_or_imp]

/-- The runs hold the marks of the text. -/
theorem infix_splitRuns {separates : α → Bool} (nonempty : mark ≠ [])
    (solid : ∀ char ∈ mark, separates char = false) (current text : List α) :
    (∃ run ∈ splitRuns separates current text, mark <:+: run) ↔ mark <:+: current ++ text := by
  induction text generalizing current with
  | nil =>
    rw [splitRuns, append_nil]
    by_cases empty : current = []
    · simp [empty, nonempty]
    · simp [empty]
  | cons head rest ih =>
    rw [splitRuns]
    by_cases separated : separates head = true
    · have absent : head ∉ mark := fun mem => by simp [solid head mem] at separated
      rw [if_pos separated, infix_append_separator nonempty absent]
      by_cases empty : current = []
      · simp [empty, ih, nonempty]
      · rw [if_neg empty]
        simp only [mem_cons, exists_eq_or_imp, ih, nil_append]
    · rw [if_neg separated, ih, append_assoc]
      rfl

end Separators

/-- A separator is put behind the first character of every place that is cut. -/
def breakWhen (separator : α) (cut : List α → Bool) : List α → List α
  | [] => []
  | head :: rest =>
    if cut (head :: rest) then head :: separator :: breakWhen separator cut rest
    else head :: breakWhen separator cut rest

section Breaking
variable {separator : α} {cut : List α → Bool} {keep : α → Bool} {mark : List α}

theorem breakWhen_append {passed : List α} (whole : ∀ head ∈ passed, ∀ rest, cut (head :: rest) = false)
    (text : List α) : breakWhen separator cut (passed ++ text) = passed ++ breakWhen separator cut text := by
  induction passed with
  | nil => rfl
  | cons head passed ih =>
    rw [cons_append, breakWhen, whole head mem_cons_self,
      ih fun other mem => whole other (mem_cons_of_mem _ mem)]
    rfl

/-- Places are cut between two characters that are kept. -/
def CutsKept (cut : List α → Bool) (keep : α → Bool) : Prop :=
  ∀ place, cut place = true → ∃ first second rest, place = first :: second :: rest ∧ keep first = true ∧ keep second = true

/-- The mark is not one that is cut somewhere inside it. -/
def Uncut (cut : List α → Bool) (mark : List α) : Prop :=
  ∀ first second rest, cut (first :: second :: rest) = true → ¬[first, second] <:+: mark

theorem Uncut.tail {head : α} (uncut : Uncut cut (head :: mark)) : Uncut cut mark :=
  fun first second rest cuts inside => uncut first second rest cuts (inside.trans (suffix_cons _ _).isInfix)

/-- Breaking a text elsewhere does not change whether it begins with the mark. -/
theorem prefix_filter_breakWhen (absent : separator ∉ mark) (kept : keep separator = true)
    (between : CutsKept cut keep) (uncut : Uncut cut mark) (text : List α) :
    mark <+: (breakWhen separator cut text).filter keep ↔ mark <+: text.filter keep := by
  induction text generalizing mark with
  | nil => rfl
  | cons head rest ih =>
    cases mark with
    | nil => simp
    | cons start mark =>
      have absent' : separator ∉ mark := fun mem => absent (mem_cons_of_mem _ mem)
      rw [breakWhen]
      by_cases cuts : cut (head :: rest) = true
      · obtain ⟨first, second, tail, same, keepFirst, keepSecond⟩ := between _ cuts
        obtain ⟨rfl, rfl⟩ := List.cons.inj same
        rw [if_pos cuts, filter_cons_of_pos keepFirst, filter_cons_of_pos keepFirst,
          filter_cons_of_pos kept, filter_cons_of_pos keepSecond, cons_prefix_cons, cons_prefix_cons]
        refine and_congr_right fun begins => ?_
        cases mark with
        | nil => simp
        | cons next mark =>
          -- the mark goes on behind its first character, so it cannot be cut there
          have apart : separator ≠ next := fun same => absent' (same ▸ mem_cons_self)
          have inside : next ≠ second := by
            rintro rfl
            refine uncut _ _ _ cuts ?_
            rw [begins]
            exact (prefix_append [head, next] mark).isInfix
          simp [cons_prefix_cons, apart.symm, inside]
      · rw [if_neg cuts]
        by_cases keeps : keep head = true
        · rw [filter_cons_of_pos keeps, filter_cons_of_pos keeps, cons_prefix_cons, cons_prefix_cons,
            ih absent' uncut.tail]
        · rw [filter_cons_of_neg keeps, filter_cons_of_neg keeps, ih absent uncut]

/-- The mark appears once the characters that are not kept are gone, and is not there before. -/
def Hidden (keep : α → Bool) (mark text : List α) : Prop :=
  ∃ place, place <:+ text ∧ place.head? = mark.head? ∧ mark <+: place.filter keep ∧ ¬mark <+: place

theorem hidden_cons {head : α} {rest : List α} :
    Hidden keep mark (head :: rest) ↔
      (some head = mark.head? ∧ mark <+: (head :: rest).filter keep ∧ ¬mark <+: head :: rest) ∨ Hidden keep mark rest := by
  simp only [Hidden, suffix_cons_iff, or_and_right, exists_or, exists_eq_left, head?_cons]

/-- A broken text contains a mark exactly where the mark was hidden. -/
theorem infix_filter_breakWhen {start : α} (more : mark ≠ []) (absent : separator ∉ start :: mark)
    (kept : keep separator = true) (between : CutsKept cut keep) (uncut : Uncut cut mark)
    (own : ∀ place, start :: mark <+: place → cut place = true)
    (others : ∀ first second rest, cut (first :: second :: rest) = true →
      start :: mark <+: first :: second :: rest ∨ ¬[first, second] <+: start :: mark) (text : List α) :
    start :: mark <:+: (breakWhen separator cut text).filter keep ↔ Hidden keep (start :: mark) text := by
  induction text with
  | nil => simp [breakWhen, Hidden]
  | cons head rest ih =>
    have absent' : separator ∉ mark := fun mem => absent (mem_cons_of_mem _ mem)
    rw [hidden_cons, breakWhen, head?_cons, Option.some_inj]
    by_cases cuts : cut (head :: rest) = true
    · obtain ⟨first, second, tail, same, keepFirst, keepSecond⟩ := between _ cuts
      obtain ⟨rfl, rfl⟩ := List.cons.inj same
      obtain ⟨next, mark, rfl⟩ := exists_cons_of_ne_nil more
      have broken : ¬start :: next :: mark <+: head :: separator :: (breakWhen separator cut (second :: tail)).filter keep := by
        intro starts
        have begins : separator = next := (cons_prefix_cons.mp (cons_prefix_cons.mp starts).2).1.symm
        exact absent' (begins ▸ mem_cons_self)
      rw [if_pos cuts, filter_cons_of_pos keepFirst, filter_cons_of_pos kept, infix_cons_iff,
        infix_cons_separator (cons_ne_nil _ _) absent, ih, or_iff_right broken, eq_comm, or_iff_right]
      rintro ⟨-, joined, missing⟩
      rw [filter_cons_of_pos keepFirst, filter_cons_of_pos keepSecond, cons_prefix_cons,
        cons_prefix_cons] at joined
      obtain ⟨rfl, rfl, -⟩ := joined
      exact (others _ _ _ cuts).elim missing (· (prefix_append [start, next] mark))
    · have missing : ¬start :: mark <+: head :: rest := fun starts => cuts (own _ starts)
      rw [if_neg cuts]
      by_cases keeps : keep head = true
      · rw [filter_cons_of_pos keeps, filter_cons_of_pos keeps, infix_cons_iff, ih,
          cons_prefix_cons, prefix_filter_breakWhen absent' kept between uncut, cons_prefix_cons]
        simp [missing, eq_comm]
      · rw [filter_cons_of_neg keeps, filter_cons_of_neg keeps, ih, or_iff_right]
        rintro ⟨rfl, joined, -⟩
        exact keeps (mem_filter.mp (joined.subset mem_cons_self)).2

end Breaking

/-- The separator stands behind the first character. -/
def guarded (separator : α) : List α → List α
  | [] => []
  | start :: mark => start :: separator :: mark

/-- Marks that can be broken one after the other: none of them begins inside another. -/
structure Breakable (separator : α) (marks : List (List α)) : Prop where
  distinct : marks.Nodup
  long : ∀ mark ∈ marks, 2 ≤ mark.length
  once : ∀ mark ∈ marks, ∀ start ∈ mark.head?, start ∉ mark.tail
  absent : ∀ mark ∈ marks, separator ∉ mark
  apart : ∀ mark ∈ marks, ∀ other ∈ marks, mark ≠ other → ¬mark.take 2 <:+: other

theorem Breakable.sublist {separator : α} {marks fewer : List (List α)} (breakable : Breakable separator marks)
    (sub : fewer.Sublist marks) : Breakable separator fewer where
  distinct := breakable.distinct.sublist sub
  long mark mem := breakable.long mark (sub.subset mem)
  once mark mem := breakable.once mark (sub.subset mem)
  absent mark mem := breakable.absent mark (sub.subset mem)
  apart mark mem other held := breakable.apart mark (sub.subset mem) other (sub.subset held)

section Replacing
variable [DecidableEq α]

/-- Replacing goes from the left, and what has been replaced is passed over. -/
def replaceFrom (pattern replacement : List α) : Nat → List α → List α
  | _, [] => []
  | skip + 1, _ :: rest => replaceFrom pattern replacement skip rest
  | 0, head :: rest =>
    if pattern <+: head :: rest then replacement ++ replaceFrom pattern replacement (pattern.length - 1) rest
    else head :: replaceFrom pattern replacement 0 rest

/-- `str::replace`, for a pattern that is not empty. -/
def replaceAll (pattern replacement text : List α) : List α := replaceFrom pattern replacement 0 text

/-- The text before the first occurrence of a pattern, and the text after it. -/
def splitFirst (pattern : List α) : List α → Option (List α × List α)
  | [] => none
  | head :: rest =>
    if pattern <+: head :: rest then some ([], (head :: rest).drop pattern.length)
    else (splitFirst pattern rest).map fun parts => (head :: parts.1, parts.2)

theorem splitFirst_length {pattern text before after : List α} (nonempty : pattern ≠ [])
    (split_ : splitFirst pattern text = some (before, after)) : after.length < text.length := by
  induction text generalizing before with
  | nil => cases split_
  | cons head rest ih =>
    rw [splitFirst] at split_
    split at split_
    · obtain ⟨-, rfl⟩ := Prod.mk.inj (Option.some.inj split_)
      have := length_pos_of_ne_nil nonempty
      rw [length_drop, length_cons]
      omega
    · obtain ⟨parts, found, same⟩ := Option.map_eq_some_iff.mp split_
      obtain ⟨-, rfl⟩ := Prod.mk.inj same
      exact Nat.lt_succ_of_lt (ih found)

theorem splitFirst_append {pattern text before after : List α} (split_ : splitFirst pattern text = some (before, after)) :
    before ++ pattern ++ after = text := by
  induction text generalizing before with
  | nil => cases split_
  | cons head rest ih =>
    rw [splitFirst] at split_
    split at split_
    · rename_i occurs
      obtain ⟨rfl, rfl⟩ := Prod.mk.inj (Option.some.inj split_)
      exact prefix_iff_eq_append.mp occurs
    · obtain ⟨parts, found, same⟩ := Option.map_eq_some_iff.mp split_
      obtain ⟨rfl, rfl⟩ := Prod.mk.inj same
      rw [cons_append, cons_append, ih found]

variable {separator start : α} {mark : List α}

theorem replaceFrom_append (pattern replacement passed text : List α) :
    replaceFrom pattern replacement passed.length (passed ++ text) = replaceFrom pattern replacement 0 text := by
  induction passed with
  | nil => rfl
  | cons head passed ih => exact ih

/-- A mark that has its first character nowhere else is broken wherever it occurs. -/
theorem replaceAll_guarded (once : start ∉ mark) (text : List α) :
    replaceAll (start :: mark) (start :: separator :: mark) text =
      breakWhen separator (fun place => start :: mark <+: place) text := by
  induction length : text.length using Nat.strong_induction_on generalizing text with
  | _ size ih =>
    subst length
    cases text with
    | nil => rfl
    | cons head rest =>
      rw [replaceAll, replaceFrom, breakWhen]
      simp only [decide_eq_true_eq]
      split
      · rename_i occurs
        obtain ⟨tail, same⟩ := occurs
        rw [cons_append] at same
        obtain ⟨rfl, rfl⟩ := List.cons.inj same
        have later : tail.length < (start :: (mark ++ tail)).length := by
          rw [length_cons, length_append]
          omega
        rw [length_cons, Nat.add_sub_cancel, replaceFrom_append, cons_append, cons_append,
          breakWhen_append, ← ih _ later tail rfl, replaceAll]
        intro other mem rest
        have : start ≠ other := fun same => once (same ▸ mem)
        simp [cons_prefix_cons, this]
      · rw [← ih _ (Nat.lt_succ_self rest.length) rest rfl, replaceAll]

theorem breakWhen_breakWhen {cut : List α → Bool} (long : 2 ≤ mark.length) (absent : separator ∉ mark)
    (pairs : CutsKept cut fun _ => true) (uncut : Uncut cut mark) (text : List α) :
    breakWhen separator (fun place => mark <+: place) (breakWhen separator cut text) =
      breakWhen separator (fun place => cut place || decide (mark <+: place)) text := by
  induction text with
  | nil => rfl
  | cons head rest ih =>
    have starts : mark <+: breakWhen separator cut (head :: rest) ↔ mark <+: head :: rest := by
      simpa using prefix_filter_breakWhen absent rfl pairs uncut (head :: rest)
    by_cases cuts : cut (head :: rest) = true
    · have elsewhere : ¬mark <+: head :: rest := by
        intro occurs
        obtain ⟨first, second, tail, same, -⟩ := pairs _ cuts
        rw [same] at occurs cuts
        refine uncut _ _ _ cuts (List.IsPrefix.isInfix ?_)
        exact prefix_of_prefix_length_le (prefix_append [first, second] tail) occurs long
      have separated : ¬mark <+: separator :: breakWhen separator cut rest := by
        intro occurs
        obtain ⟨first, tail, rfl⟩ := exists_cons_of_length_pos (Nat.lt_of_lt_of_le Nat.zero_lt_two long)
        exact absent ((cons_prefix_cons.mp occurs).1 ▸ mem_cons_self)
      rw [breakWhen, if_pos cuts] at starts ⊢
      simp [breakWhen, starts, elsewhere, separated, cuts, ih]
    · rw [breakWhen, if_neg cuts] at starts ⊢
      simp [breakWhen, starts, cuts, ih]

/-- Every mark is broken in turn. -/
def breakMarks (separator : α) (marks : List (List α)) (text : List α) : List α :=
  marks.foldl (fun text mark => replaceAll mark (guarded separator mark) text) text

/-- Some mark begins here. -/
def marked (marks : List (List α)) (place : List α) : Bool := marks.any fun mark => mark <+: place

theorem marked_pair {marks : List (List α)} {place : List α} (long : ∀ mark ∈ marks, 2 ≤ mark.length)
    (cuts : marked marks place = true) :
    ∃ mark ∈ marks, ∃ first second rest, mark <+: place ∧ place = first :: second :: rest ∧ mark.take 2 = [first, second] ∧
      first ∈ mark ∧ second ∈ mark := by
  obtain ⟨mark, mem, occurs⟩ := any_eq_true.mp cuts
  have occurs : mark <+: place := of_decide_eq_true occurs
  obtain ⟨rest, rfl⟩ := occurs
  obtain ⟨first, tail, rfl⟩ := exists_cons_of_length_pos (Nat.lt_of_lt_of_le Nat.zero_lt_two (long _ mem))
  obtain ⟨second, tail, rfl⟩ := exists_cons_of_length_pos (Nat.le_of_succ_le_succ (long _ mem))
  exact ⟨_, mem, first, second, tail ++ rest, prefix_append _ _, rfl, rfl, by simp, by simp⟩

namespace Breakable
variable {marks : List (List α)}

/-- Where a pair of characters of a mark is cut, the mark itself begins. -/
theorem begins {others : List (List α)} {first second : α} {rest : List α} (breakable : Breakable separator marks)
    (sub : others.Sublist marks) (mem : mark ∈ marks) (cuts : marked others (first :: second :: rest) = true)
    (inside : [first, second] <:+: mark) : mark ∈ others ∧ mark <+: first :: second :: rest := by
  obtain ⟨other, held, _, _, _, occurs, same, pair, -⟩ := marked_pair (breakable.sublist sub).long cuts
  obtain ⟨rfl, rfl, rfl⟩ : first = _ ∧ second = _ ∧ rest = _ := by simpa using same
  have own : other = mark := by
    by_contra ne
    exact breakable.apart other (sub.subset held) mark mem ne (pair ▸ inside)
  exact ⟨own ▸ held, own ▸ occurs⟩

theorem breakMarks_eq (breakable : Breakable separator marks) (text : List α) :
    breakMarks separator marks text = breakWhen separator (marked marks) text := by
  induction marks using List.reverseRecOn with
  | nil =>
    induction text with
    | nil => rfl
    | cons head rest ih => simpa [breakMarks, breakWhen, marked] using ih
  | append_singleton marks mark ih =>
    have earlier : Breakable separator marks := breakable.sublist (sublist_append_left _ _)
    have mem : mark ∈ marks ++ [mark] := mem_append_right _ mem_cons_self
    obtain ⟨start, tail, rfl⟩ := exists_cons_of_length_pos (Nat.lt_of_lt_of_le Nat.zero_lt_two (breakable.long _ mem))
    have whole : Uncut (marked marks) (start :: tail) := by
      intro first second rest cuts inside
      obtain ⟨held, -⟩ := breakable.begins (sublist_append_left _ _) mem cuts inside
      exact (nodup_append.mp breakable.distinct).2.2 _ held _ mem_cons_self rfl
    have pairs : CutsKept (marked marks) fun _ => true := by
      intro place cuts
      obtain ⟨-, -, first, second, rest, -, same, -⟩ := marked_pair earlier.long cuts
      exact ⟨first, second, rest, same, rfl, rfl⟩
    have step : breakMarks separator (marks ++ [start :: tail]) text =
        replaceAll (start :: tail) (start :: separator :: tail) (breakMarks separator marks text) := by
      rw [breakMarks, foldl_append]
      rfl
    have once : start ∉ tail := breakable.once _ mem start rfl
    rw [step, ih earlier, replaceAll_guarded once,
      breakWhen_breakWhen (breakable.long _ mem) (breakable.absent _ mem) pairs whole]
    congr 1
    funext place
    simp [marked]

/-- After the marks have been broken and characters dropped, the text contains exactly the marks that were hidden. -/
theorem infix_breakMarks (breakable : Breakable separator marks) {keep : α → Bool} (kept : keep separator = true)
    (keeps : ∀ mark ∈ marks, ∀ char ∈ mark, keep char = true) (mem : mark ∈ marks) (text : List α) :
    mark <:+: (breakMarks separator marks text).filter keep ↔ Hidden keep mark text := by
  have between : CutsKept (marked marks) keep := by
    intro place cuts
    obtain ⟨other, held, first, second, rest, -, same, -, inFirst, inSecond⟩ := marked_pair breakable.long cuts
    exact ⟨first, second, rest, same, keeps _ held _ inFirst, keeps _ held _ inSecond⟩
  have long := breakable.long _ mem
  obtain ⟨start, tail, rfl⟩ := exists_cons_of_length_pos (Nat.lt_of_lt_of_le Nat.zero_lt_two long)
  have once : start ∉ tail := breakable.once _ mem start rfl
  rw [breakable.breakMarks_eq]
  refine infix_filter_breakWhen ?_ (breakable.absent _ mem) kept between ?_ ?_ ?_ text
  · rintro rfl
    simp at long
  · intro first second rest cuts inside
    obtain ⟨-, occurs⟩ := breakable.begins (.refl _) mem cuts (inside.trans (suffix_cons _ _).isInfix)
    exact once ((cons_prefix_cons.mp occurs).1 ▸ inside.subset mem_cons_self)
  · intro place occurs
    exact any_eq_true.mpr ⟨_, mem, decide_eq_true occurs⟩
  · intro first second rest cuts
    refine or_iff_not_imp_right.mpr fun starts => ?_
    exact (breakable.begins (.refl _) mem cuts (not_not.mp starts).isInfix).2

end Breakable

end Replacing

end Starring.Foundation
