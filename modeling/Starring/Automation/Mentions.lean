import Starring.Automation.Template

/-! Mentions in rendered texts. Messages and role names are shown with every mention broken by a
zero width space. Control characters are dropped afterwards, and this is the one way in
which a mention can come back. -/

namespace Starring.Automation
open Foundation List

def mentions : List String := ["@everyone", "@here", "<@", "<#"]

/-- The characters that a context leaves in a text. -/
def keeps (context : SanitizeContext) (char : Char) : Bool :=
  match context with
  | .ephemeralMessageContent => char == '\n' || !isControl char
  | .channelName | .roleName => !isControl char

/-- The literals of a template, with the inputs in their places. -/
def TemplateString.written (self : TemplateString) (inputs : StringMap String) : List Char :=
  self.segments.flatMap fun
    | .literal text => text.toList
    | .input key => (inputs.getD key "").toList

theorem neutralizeMentions_eq (input : List Char) :
    neutralizeMentions input = breakMarks '\u200b' (mentions.map String.toList) input := rfl

theorem mentions_breakable : Breakable '\u200b' (mentions.map String.toList) where
  distinct := by decide +kernel
  long := by decide +kernel
  once := by
    have all : (mentions.map String.toList).all (fun mark =>
      mark.head?.all fun start => decide (start ∉ mark.tail)) = true := by decide +kernel
    simp only [all_eq_true, Option.all_eq_true, decide_eq_true_eq] at all
    exact all
  absent := by decide +kernel
  apart := by decide +kernel

theorem mentions_kept (context : SanitizeContext) :
    ∀ mark ∈ mentions.map String.toList, ∀ char ∈ mark, keeps context char = true := by
  have all : (mentions.map String.toList).all (fun mark => mark.all (keeps context)) = true := by
    cases context <;> decide +kernel
  simpa only [all_eq_true] using all

theorem written_of_fill {inputs : StringMap String} {segments : List Segment} {out : List String}
    (filled : segments.mapM (Segment.fill inputs) = .ok out) :
    (String.join out).toList = TemplateString.written { segments } inputs := by
  induction segments generalizing out with
  | nil =>
    cases filled
    rfl
  | cons segment segments ih =>
    rw [mapM_cons] at filled
    obtain ⟨text, here, filled⟩ := bind_eq_ok.mp filled
    obtain ⟨rest, later, filled⟩ := bind_eq_ok.mp filled
    cases filled
    have first : text.toList = TemplateString.written { segments := [segment] } inputs := by
      cases segment with
      | literal literal =>
        cases here
        simp [TemplateString.written]
      | input key =>
        obtain found : inputs[key]? = some text := by simpa [Segment.fill] using here
        simp [TemplateString.written, Std.ExtTreeMap.getD_eq_getD_getElem?, found]
    simp only [TemplateString.written, flatMap_cons, flatMap_nil, append_nil] at first ih ⊢
    rw [String.toList_join, flatMap_cons, ← String.toList_join, ih later, first]

theorem render_inv {template : TemplateString} {inputs : StringMap String} {context : SanitizeContext} {out : String}
    (rendered : template.render inputs context = .ok out) :
    ∃ text : String, text.toList = template.written inputs ∧ sanitize text context = .ok out ∧
      out.length ≤ maxLen context := by
  obtain ⟨parts, filled, rendered⟩ := bind_eq_ok.mp rendered
  obtain ⟨sanitized, safe, rendered⟩ := bind_eq_ok.mp rendered
  dsimp only at rendered
  split at rendered
  · cases rendered
  · cases rendered
    exact ⟨_, written_of_fill filled, safe, by omega⟩

theorem mem_mentions {mark : String} (mem : mark ∈ mentions) : mark.toList ∈ mentions.map String.toList :=
  mem_map_of_mem mem

/-- Joining the words of a role name with spaces keeps the mentions as they are. -/
theorem infix_words {mark : String} (mem : mark ∈ mentions) (text : List Char) :
    mark.toList <:+: [' '].intercalate (splitRuns isWhitespace [] text) ↔ mark.toList <:+: text := by
  have all : mentions.all (fun mark => decide (mark.toList ≠ [] ∧ ' ' ∉ mark.toList) &&
      mark.toList.all fun char => !isWhitespace char) = true := by
    decide +kernel
  simp only [all_eq_true, Bool.and_eq_true, decide_eq_true_eq, Bool.not_eq_true'] at all
  obtain ⟨⟨nonempty, absent⟩, solid⟩ := all mark mem
  rw [infix_intercalate nonempty absent, infix_splitRuns nonempty solid, nil_append]

theorem sanitize_mention {text out : String} {context : SanitizeContext} (shown : context ≠ .channelName)
    (safe : sanitize text context = .ok out) {mark : String} (mem : mark ∈ mentions) :
    mark.toList <:+: out.toList ↔ Hidden (keeps context) mark.toList text.toList := by
  have kept : keeps context '\u200b' = true := by cases context <;> decide +kernel
  have broken := mentions_breakable.infix_breakMarks kept (mentions_kept context) (mem_mentions mem) text.toList
  rw [← neutralizeMentions_eq] at broken
  obtain ⟨rfl, -⟩ := (sanitize_eq_ok _ _ _).mp safe
  cases context with
  | ephemeralMessageContent =>
    rw [sanitizeFor, sanitizeMessage, String.toList_ofList]
    exact broken
  | channelName => exact absurd rfl shown
  | roleName =>
    rw [sanitizeFor, sanitizeRoleName, String.toList_ofList, infix_words mem]
    exact broken

end Starring.Automation
