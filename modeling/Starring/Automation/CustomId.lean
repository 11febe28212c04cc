import Starring.Automation.Validate
import Starring.Foundation.Fields

/-! The identifiers that buttons and modals carry on the wire. The fields of an identifier are
joined by colons, and an identifier is cut at every colon again when it comes back. -/

namespace Starring.Automation
open Foundation List

def maxInteractionCustomIdBytes : Nat := 100

inductive InteractionComponentKind where
  | button
  | modal
  deriving DecidableEq

def InteractionComponentKind.word : InteractionComponentKind → String
  | button => "button"
  | modal => "modal"

inductive ParsedInteractionCustomId where
  | component (guildId : GuildId) (rulesetKey : String) (kind : InteractionComponentKind) (key : String)
  | instanceAction (instanceId action : String)
  deriving DecidableEq

inductive InteractionCustomIdError where
  | wrongPrefix
  | wrongShape
  | badGuildId
  | unknownKind
  | tooLong
  deriving DecidableEq

def encodeComponentCustomId (kind : InteractionComponentKind) (guildId : GuildId) (rulesetKey key : String) : String :=
  "starring:" ++ toString guildId.value.toNat ++ ":" ++ rulesetKey ++ ":" ++ kind.word ++ ":" ++ key

def encodeInteractionButtonCustomId : GuildId → String → String → String := encodeComponentCustomId .button

def encodeInteractionModalCustomId : GuildId → String → String → String := encodeComponentCustomId .modal

def encodeInteractionInstanceActionCustomId (instanceId action : String) : Except InteractionCustomIdError String := do
  let encoded := "starring:i:" ++ instanceId ++ ":" ++ action
  rejectIf (encoded.utf8ByteSize > maxInteractionCustomIdBytes) .tooLong
  .ok encoded

def decodeComponentKind (word : String) : Except InteractionCustomIdError InteractionComponentKind :=
  if word = "button" then .ok .button
  else if word = "modal" then .ok .modal
  else .error .unknownKind

def decodeInteractionCustomId (customId : String) : Except InteractionCustomIdError ParsedInteractionCustomId := do
  rejectIf (customId.utf8ByteSize > maxInteractionCustomIdBytes) .tooLong
  let parts := splitFields ':' customId
  rejectIf (parts.head? ≠ some "starring") .wrongPrefix
  if parts[1]? = some "i" then
    match parts with
    | [_, _, instanceId, action] => .ok (.instanceAction instanceId action)
    | _ => .error .wrongShape
  else
    match parts with
    | [_, guild, rulesetKey, word, key] => do
      let guildId ← orReject (parseU64 guild) .badGuildId
      let kind ← decodeComponentKind word
      .ok (.component ⟨guildId⟩ rulesetKey kind key)
    | _ => .error .wrongShape

section Decoding
variable {guildId : GuildId} {rulesetKey key : String} {kind : InteractionComponentKind} {customId : String}

theorem decodeComponentKind_word (kind : InteractionComponentKind) : decodeComponentKind kind.word = .ok kind := by
  cases kind <;> rfl

theorem decodeComponentKind_eq_ok (word : String) (kind : InteractionComponentKind) :
    decodeComponentKind word = .ok kind ↔ word = kind.word := by
  constructor
  · intro decoded
    unfold decodeComponentKind at decoded
    split at decoded
    · cases decoded
      assumption
    · split at decoded
      · cases decoded
        assumption
      · cases decoded
  · rintro rfl
    exact decodeComponentKind_word kind

theorem decode_fields {parsed : ParsedInteractionCustomId} (decoded : decodeInteractionCustomId customId = .ok parsed) :
    customId.utf8ByteSize ≤ maxInteractionCustomIdBytes ∧
      ((∃ instanceId action, splitFields ':' customId = ["starring", "i", instanceId, action] ∧
          parsed = .instanceAction instanceId action) ∨
        ∃ guild number rulesetKey kind key,
          splitFields ':' customId = ["starring", guild, rulesetKey, InteractionComponentKind.word kind, key] ∧
            guild ≠ "i" ∧ parseU64 guild = some number ∧ parsed = .component ⟨number⟩ rulesetKey kind key) := by
  simp only [decodeInteractionCustomId, check_bind_eq_ok, rejectIf_eq_ok, not_not] at decoded
  obtain ⟨short, begins, decoded⟩ := decoded
  refine ⟨Nat.le_of_not_lt short, ?_⟩
  split at decoded
  · rename_i owned
    split at decoded
    · rename_i fields
      rw [fields] at begins owned
      cases begins
      cases owned
      exact .inl ⟨_, _, fields, (Except.ok.inj decoded).symm⟩
    · cases decoded
  · rename_i other
    split at decoded
    · rename_i fields
      obtain ⟨number, read, decoded⟩ := bind_eq_ok.mp decoded
      obtain ⟨kind, known, same⟩ := bind_eq_ok.mp decoded
      obtain rfl := (decodeComponentKind_eq_ok _ _).mp known
      rw [fields] at begins other
      cases begins
      refine .inr ⟨_, number, _, kind, _, fields, ?_, orReject_eq_ok.mp read, (Except.ok.inj same).symm⟩
      rintro rfl
      exact other rfl
    · cases decoded

theorem decode_component (decoded : decodeInteractionCustomId customId = .ok (.component guildId rulesetKey kind key)) :
    customId.utf8ByteSize ≤ maxInteractionCustomIdBytes ∧ key ∈ splitFields ':' customId := by
  obtain ⟨short, ⟨_, _, -, same⟩ | ⟨_, _, _, _, _, fields, -, -, same⟩⟩ := decode_fields decoded
  · cases same
  · cases same
    exact ⟨short, by rw [fields]; simp⟩

theorem toString_ne_i (number : Nat) : toString number ≠ "i" := by
  intro same
  have mem : 'i' ∈ (toString number).toList := by
    rw [same]
    decide
  exact absurd (isDigit_of_mem_toString mem) (by decide)

theorem decode_of_fields (short : customId.utf8ByteSize ≤ maxInteractionCustomIdBytes)
    (fields : splitFields ':' customId = ["starring", toString guildId.value.toNat, rulesetKey, kind.word, key]) :
    decodeInteractionCustomId customId = .ok (.component guildId rulesetKey kind key) := by
  have other : ¬["starring", toString guildId.value.toNat, rulesetKey, kind.word, key][1]? = some "i" :=
    fun same => toString_ne_i _ (Option.some.inj same)
  rw [decodeInteractionCustomId, check_bind_eq_ok, check_bind_eq_ok, fields, if_neg other]
  refine ⟨rejectIf_eq_ok.mpr (Nat.not_lt_of_le short), rejectIf_eq_ok.mpr fun ne => ne rfl, ?_⟩
  exact bind_eq_ok.mpr ⟨_, orReject_eq_ok.mpr (parseU64_toString _),
    bind_eq_ok.mpr ⟨_, decodeComponentKind_word kind, rfl⟩⟩

end Decoding

theorem no_colon_in_key (key : RuleSetKey) : ':' ∉ key.value.toList := by
  intro mem
  have byte : (58 : UInt8) ∈ utf8 key.value := by
    rw [← String.ofList_toList (s := key.value), utf8_ofList]
    exact mem_flatMap.mpr ⟨':', mem, by decide⟩
  have parsed := key.parsed
  simp only [isRuleSetKey, Bool.and_eq_true, all_eq_true] at parsed
  exact absurd (parsed.2 58 byte) (by decide)

theorem encodeComponent_fields (kind : InteractionComponentKind) (guildId : GuildId) (rulesetKey key : String) :
    (encodeComponentCustomId kind guildId rulesetKey key).toList =
      [':'].intercalate (["starring", toString guildId.value.toNat, rulesetKey, kind.word, key].map String.toList) := by
  have colon : "starring:".toList = "starring".toList ++ ":".toList := by decide
  change ("starring:" ++ toString guildId.value.toNat ++ ":" ++ rulesetKey ++ ":" ++ kind.word ++ ":" ++ key).toList = _
  simp only [String.toList_append, map_cons, map_nil, intercalate_cons_cons,
    intercalate_singleton, append_assoc, colon]
  rfl

theorem splitFields_encodeComponent (kind : InteractionComponentKind) (guildId : GuildId) {rulesetKey key : String}
    (name : ':' ∉ rulesetKey.toList) (whole : ':' ∉ key.toList) :
    splitFields ':' (encodeComponentCustomId kind guildId rulesetKey key) =
      ["starring", toString guildId.value.toNat, rulesetKey, kind.word, key] := by
  refine splitFields_of_intercalate (cons_ne_nil _ _) ?_ (encodeComponent_fields kind guildId rulesetKey key)
  have digits : ':' ∉ (toString guildId.value.toNat).toList := fun mem =>
    absurd (isDigit_of_mem_toString mem) (by decide)
  have word : ':' ∉ kind.word.toList := by cases kind <;> decide
  have starring : ':' ∉ "starring".toList := by decide
  simp only [forall_mem_cons]
  exact ⟨starring, digits, name, word, whole, fun _ none => nomatch none⟩

theorem decode_encodeComponent (kind : InteractionComponentKind) (guildId : GuildId) (rulesetKey : RuleSetKey) (key : String) :
    decodeInteractionCustomId (encodeComponentCustomId kind guildId rulesetKey.value key) =
        .ok (.component guildId rulesetKey.value kind key) ↔
      ':' ∉ key.toList ∧
        (encodeComponentCustomId kind guildId rulesetKey.value key).utf8ByteSize ≤ maxInteractionCustomIdBytes := by
  constructor
  · intro decoded
    obtain ⟨short, mem⟩ := decode_component decoded
    exact ⟨not_mem_of_mem_splitFields mem, short⟩
  · rintro ⟨whole, short⟩
    exact decode_of_fields short (splitFields_encodeComponent kind guildId (no_colon_in_key rulesetKey) whole)

/-- A component comes back as it went out, provided that its key has no colon in it and the identifier is not too long. -/
theorem component_routed_iff (guildId : GuildId) (rulesetKey : RuleSetKey) (key : String) :
    (decodeInteractionCustomId (encodeInteractionButtonCustomId guildId rulesetKey.value key) =
        .ok (.component guildId rulesetKey.value .button key) ↔
      ':' ∉ key.toList ∧ (encodeInteractionButtonCustomId guildId rulesetKey.value key).utf8ByteSize ≤ 100) ∧
    (decodeInteractionCustomId (encodeInteractionModalCustomId guildId rulesetKey.value key) =
        .ok (.component guildId rulesetKey.value .modal key) ↔
      ':' ∉ key.toList ∧ (encodeInteractionModalCustomId guildId rulesetKey.value key).utf8ByteSize ≤ 100) :=
  ⟨decode_encodeComponent .button guildId rulesetKey key, decode_encodeComponent .modal guildId rulesetKey key⟩

section Canonical
variable {customId : String} {parsed : ParsedInteractionCustomId}

def ParsedInteractionCustomId.encode : ParsedInteractionCustomId → Except InteractionCustomIdError String
  | component guildId rulesetKey .button key => .ok (encodeInteractionButtonCustomId guildId rulesetKey key)
  | component guildId rulesetKey .modal key => .ok (encodeInteractionModalCustomId guildId rulesetKey key)
  | instanceAction instanceId action => encodeInteractionInstanceActionCustomId instanceId action

/-- The second field is the mark of an instance action, or a number as it is written: without a
plus sign and without leading zeros. -/
def CanonicalGuildField (customId : String) : Prop :=
  (splitFields ':' customId)[1]? = some "i" ∨
    ∃ number : UInt64, (splitFields ':' customId)[1]? = some (toString number.toNat)

theorem encode_component (guildId : GuildId) (rulesetKey : String) (kind : InteractionComponentKind) (key : String) :
    (ParsedInteractionCustomId.component guildId rulesetKey kind key).encode =
      .ok (encodeComponentCustomId kind guildId rulesetKey key) := by
  cases kind <;> rfl

theorem encode_instanceAction (short : customId.utf8ByteSize ≤ maxInteractionCustomIdBytes) {instanceId action : String}
    (fields : splitFields ':' customId = ["starring", "i", instanceId, action]) :
    (ParsedInteractionCustomId.instanceAction instanceId action).encode = .ok customId := by
  have written : customId = "starring:i:" ++ instanceId ++ ":" ++ action := by
    have joined := toList_of_splitFields fields
    have marks : "starring:i:".toList = "starring".toList ++ ":".toList ++ "i".toList ++ ":".toList := by decide
    refine String.toList_injective ?_
    rw [joined]
    simp only [String.toList_append, map_cons, map_nil, intercalate_cons_cons,
      intercalate_singleton, append_assoc, marks]
    rfl
  refine check_bind_eq_ok.mpr ⟨rejectIf_eq_ok.mpr ?_, by rw [← written]⟩
  rw [← written]
  exact Nat.not_lt_of_le short

/-- An identifier that is decoded is what its parts are encoded as, unless its guild is not written as a number is. -/
theorem encode_decoded_iff (decoded : decodeInteractionCustomId customId = .ok parsed) :
    parsed.encode = .ok customId ↔ CanonicalGuildField customId := by
  obtain ⟨short, ⟨instanceId, action, fields, rfl⟩ | ⟨guild, number, rulesetKey, kind, key, fields, plain, read, rfl⟩⟩ :=
    decode_fields decoded
  · exact iff_of_true (encode_instanceAction short fields) (.inl (by rw [fields]; rfl))
  · have apart : ∀ field ∈ splitFields ':' customId, ':' ∉ field.toList := fun _ => not_mem_of_mem_splitFields
    rw [fields] at apart
    have again := splitFields_encodeComponent kind ⟨number⟩ (apart rulesetKey (by simp)) (apart key (by simp))
    rw [encode_component, Except.ok.injEq, CanonicalGuildField, fields]
    constructor
    · intro same
      rw [same, fields] at again
      exact .inr ⟨number, congrArg (·[1]?) again⟩
    · rintro (mark | ⟨written, same⟩)
      · exact absurd (Option.some.inj mark) plain
      · obtain rfl : guild = toString written.toNat := Option.some.inj same
        obtain rfl := Option.some.inj (read.symm.trans (parseU64_toString written))
        exact String.toList_injective ((encodeComponent_fields kind ⟨number⟩ rulesetKey key).trans
          (toList_of_splitFields fields).symm)

/-- Decoding an identifier and encoding the result gives the identifier back exactly if its guild is written as a
number is, and two such identifiers never stand for the same component. -/
theorem custom_id_canonical_iff (customId : String) (parsed : ParsedInteractionCustomId) :
    (decodeInteractionCustomId customId = .ok parsed → (parsed.encode = .ok customId ↔ CanonicalGuildField customId)) ∧
    ∀ other, CanonicalGuildField customId → CanonicalGuildField other →
      decodeInteractionCustomId customId = .ok parsed → decodeInteractionCustomId other = .ok parsed →
      customId = other := by
  refine ⟨encode_decoded_iff, fun other written writtenOther first second => ?_⟩
  have encoded := (encode_decoded_iff first).mpr written
  exact Except.ok.inj (encoded.symm.trans ((encode_decoded_iff second).mpr writtenOther))

/-- A guild may be written with a plus sign or with a leading zero. -/
theorem aliased_custom_ids :
    decodeInteractionCustomId "starring:1:rs:button:b" = .ok (.component ⟨1⟩ "rs" .button "b") ∧
      decodeInteractionCustomId "starring:+1:rs:button:b" = .ok (.component ⟨1⟩ "rs" .button "b") ∧
      decodeInteractionCustomId "starring:01:rs:button:b" = .ok (.component ⟨1⟩ "rs" .button "b") ∧
      (ParsedInteractionCustomId.component ⟨1⟩ "rs" .button "b").encode = .ok "starring:1:rs:button:b" := by
  refine ⟨by decide +kernel, by decide +kernel, by decide +kernel, by decide +kernel⟩

end Canonical

def namedComponents (button modal : String) : InteractionRuleSet where
  version := 1
  panels := [{ key := "lobby", channel := ⟨"lobby"⟩, content := "rooms", buttons := [{ label := "open", route := .static button }] }]
  modals := [{ key := modal, title := "room", fields := [] }]
  rules := [{ key := "open", trigger := .buttonClick button, actions := [.respondEphemeral "done"] }]

/-- A ruleset is accepted with any keys, and with the longest key it can be published under. -/
theorem accepted_components_unrouted :
    validateStructural (namedComponents "open:room" "name:room") = .ok () ∧
      decodeInteractionCustomId (encodeInteractionButtonCustomId ⟨1⟩ "rooms" "open:room") = .error .wrongShape ∧
      decodeInteractionCustomId (encodeInteractionModalCustomId ⟨1⟩ "rooms" "name:room") = .error .wrongShape ∧
      validateStructural (namedComponents "open_private_study_room" "name_room") = .ok () ∧
      isRuleSetKey (String.ofList (List.replicate 64 'r')) = true ∧
      decodeInteractionCustomId (encodeInteractionButtonCustomId ⟨1⟩ (String.ofList (List.replicate 64 'r'))
        "open_private_study_room") = .error .tooLong := by
  refine ⟨by decide +kernel, by decide +kernel, by decide +kernel, by decide +kernel, by decide +kernel, by decide +kernel⟩

end Starring.Automation
