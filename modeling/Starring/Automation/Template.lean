import Starring.Automation.Ruleset
import Starring.Foundation.Checks
import Starring.Foundation.Replacement

/-! Template texts of rules. A template is literal text with `input` variables in it; it is
rendered by filling in what a user has typed, and the result is made safe for the place
where it is shown. -/

namespace Starring.Automation
open Foundation

def ephemeralMaxLen : Nat := 2000
def nameMaxLen : Nat := 100

inductive SanitizeContext where
  | ephemeralMessageContent
  | channelName
  | roleName
  deriving DecidableEq

inductive TemplateError where
  | badSyntax (source : String)
  | unsupportedVariable (expr : String)
  | missingInput (key : String)
  | tooLong (limit actual : Nat)
  | emptyAfterSanitize
  deriving DecidableEq

inductive Segment where
  | literal (text : String)
  | input (key : String)
  deriving DecidableEq

structure TemplateString where
  segments : List Segment
  deriving DecidableEq

/-- A literal is kept unless it is empty. -/
def Segment.ofLiteral (text : List Char) : List Segment :=
  if text = [] then [] else [.literal (String.ofList text)]

namespace TemplateString

def opening : List Char := "$\x7b".toList
def closing : List Char := "\x7d".toList
def inputPrefix : List Char := "input.".toList

/-- The loop of `parse` over the rest of the source. -/
def parseFrom (source : String) (rest : List Char) : Except TemplateError (List Segment) :=
  match opened : splitFirst opening rest with
  | none => .ok (Segment.ofLiteral rest)
  | some (literal, after) =>
    match closed : splitFirst closing after with
    | none => .error (.badSyntax source)
    | some (expr, following) =>
      match expr.dropPrefix? inputPrefix with
      | none => .error (.unsupportedVariable (String.ofList expr))
      | some [] => .error (.badSyntax source)
      | some key => do
        let segments ← parseFrom source following
        .ok (Segment.ofLiteral literal ++ .input (String.ofList key) :: segments)
termination_by rest.length
decreasing_by
  have := splitFirst_length (by decide) opened
  have := splitFirst_length (by decide) closed
  omega

def parse (source : String) : Except TemplateError TemplateString := do
  let segments ← parseFrom source source.toList
  .ok { segments }

def inputKeys (self : TemplateString) : List String :=
  self.segments.filterMap fun
    | .input key => some key
    | .literal _ => none

end TemplateString

def Segment.spell : Segment → List Char
  | literal text => text.toList
  | input key => TemplateString.opening ++ TemplateString.inputPrefix ++ key.toList ++ TemplateString.closing

theorem Segment.spell_ofLiteral (text : List Char) : (ofLiteral text).flatMap spell = text := by
  unfold ofLiteral
  split
  · simp_all
  · simp [spell]

theorem TemplateString.parseFrom_spell {source : String} {rest : List Char} {segments : List Segment}
    (parsed : parseFrom source rest = .ok segments) : segments.flatMap Segment.spell = rest := by
  fun_induction parseFrom source rest generalizing segments with
  | case1 rest opened =>
    cases parsed
    exact Segment.spell_ofLiteral rest
  | case2 => cases parsed
  | case3 => cases parsed
  | case4 => cases parsed
  | case5 rest literal after opened expr following closed key nonempty stripped ih =>
    obtain ⟨later, parsedLater, same⟩ := bind_eq_ok.mp parsed
    cases same
    obtain ⟨start, rfl, same⟩ := List.dropPrefix?_eq_some_iff.mp stripped
    have stripped : start = inputPrefix := by simpa using same
    rw [List.flatMap_append, List.flatMap_cons, Segment.spell_ofLiteral, ih parsedLater, Segment.spell,
      String.toList_ofList, ← splitFirst_append opened, ← splitFirst_append closed, stripped]
    simp

def Segment.fill (inputs : StringMap String) : Segment → Except TemplateError String
  | literal text => .ok text
  | input key => orReject inputs[key]? (.missingInput key)

def maxLen : SanitizeContext → Nat
  | .ephemeralMessageContent => ephemeralMaxLen
  | .channelName | .roleName => nameMaxLen

/-- `char::is_control`. -/
def isControl (char : Char) : Bool := char.toNat < 32 || (127 ≤ char.toNat && char.toNat < 160)

/-- The replacements that `sanitize_message` and `sanitize_role_name` begin with. -/
def neutralizeMentions (input : List Char) : List Char :=
  replaceAll "<#".toList "<\u200b#".toList <|
    replaceAll "<@".toList "<\u200b@".toList <|
      replaceAll "@here".toList "@\u200bhere".toList <|
        replaceAll "@everyone".toList "@\u200beveryone".toList input

def sanitizeMessage (input : String) : String :=
  String.ofList ((neutralizeMentions input.toList).filter fun char => char == '\n' || !isControl char)

/-- `char::to_lowercase`, as far as a channel name tells characters apart. Outside ASCII, only the
letters U+0130 and U+212A have an ASCII letter in their lowercase. -/
def toLowercase (char : Char) : List Char :=
  if char = '\u0130' then ['i', '\u0307'] else if char = '\u212a' then ['k'] else [char.toLower]

def pushChannelChar (result : List Char) (char : Char) : List Char :=
  if char.isLower || char.isDigit then result ++ [char]
  else if result.getLast? = some '-' then result
  else result ++ ['-']

def sanitizeChannelName (input : String) : String :=
  let result := (input.toList.flatMap toLowercase).foldl pushChannelChar []
  String.ofList ((result.dropWhile (· == '-')).rdropWhile (· == '-'))

def sanitizeRoleName (input : String) : String :=
  let cleaned := (neutralizeMentions input.toList).filter fun char => !isControl char
  String.ofList ([' '].intercalate (splitRuns isWhitespace [] cleaned))

def sanitizeFor : SanitizeContext → String → String
  | .ephemeralMessageContent => sanitizeMessage
  | .channelName => sanitizeChannelName
  | .roleName => sanitizeRoleName

def sanitize (input : String) (context : SanitizeContext) : Except TemplateError String :=
  let result := sanitizeFor context input
  if result = "" then .error .emptyAfterSanitize else .ok result

theorem sanitize_eq_ok (input : String) (context : SanitizeContext) (out : String) :
    sanitize input context = .ok out ↔ sanitizeFor context input = out ∧ out ≠ "" := by
  simp only [sanitize]
  split
  · simp_all
  · simp only [Except.ok.injEq]
    refine ⟨?_, And.left⟩
    rintro rfl
    exact ⟨rfl, by assumption⟩

def TemplateString.render (self : TemplateString) (inputs : StringMap String) (context : SanitizeContext) :
    Except TemplateError String := do
  let out ← self.segments.mapM (Segment.fill inputs)
  let sanitized ← sanitize (String.join out) context
  let limit := maxLen context
  let actual := sanitized.length
  if actual > limit then .error (.tooLong limit actual) else .ok sanitized

end Starring.Automation
