import Starring.Foundation.Sha256

/-! Identifiers and values that several parts of the system share. An identifier
carries the check its `parse` makes, so no other text can stand in its place. -/

namespace Starring
open Foundation

/-- Times are nanoseconds since the Unix epoch, in UTC. -/
abbrev DateTime := Int

/-- Durations are nanoseconds. -/
abbrev Duration := Int

/-- `Duration::try_seconds`: at most `i64::MAX` milliseconds either way. -/
def Duration.trySeconds (seconds : Int) : Option Duration :=
  if -9223372036854775 ≤ seconds ∧ seconds ≤ 9223372036854775 then some (seconds * 1000000000) else none

/-- `checked_add_signed`: the result must lie in the years -262143 to 262142. -/
def DateTime.checkedAddSigned (time : DateTime) (duration : Duration) : Option DateTime :=
  if -8334601228800 * 1000000000 ≤ time + duration ∧ time + duration < 8210266876800 * 1000000000 then
    some (time + duration)
  else none

/-- A `u64` that is never zero. -/
structure NonZeroU64 where
  get : Nat
  positive : 0 < get
  bounded : get < 2 ^ 64
  deriving DecidableEq

theorem NonZeroU64.one_bounded : 1 < 2 ^ 64 := by decide

/-- A `u32` that is never zero. -/
structure NonZeroU32 where
  get : Nat
  positive : 0 < get
  bounded : get < 2 ^ 32
  deriving DecidableEq

theorem NonZeroU32.one_bounded : 1 < 2 ^ 32 := by decide

structure GuildId where
  value : UInt64
  deriving DecidableEq

structure RoleId where
  value : UInt64
  deriving DecidableEq

structure ChannelId where
  value : UInt64
  deriving DecidableEq

structure UserId where
  value : UInt64
  deriving DecidableEq

structure MessageId where
  value : UInt64
  deriving DecidableEq

/-- `RuleSetKey::parse`: one to 64 ASCII letters, digits, underscores or dashes. -/
def isRuleSetKey (value : String) : Bool :=
  value != "" && value.utf8ByteSize ≤ 64 &&
    (utf8 value).all fun byte => isAsciiAlphanumeric byte || byte == 95 || byte == 45

structure RuleSetKey where
  value : String
  parsed : isRuleSetKey value = true
  deriving DecidableEq

structure RuleSetVersionId where
  number : NonZeroU32
  deriving DecidableEq

structure RuleSetContentHash where
  bytes : List UInt8
  length : bytes.length = 32
  deriving DecidableEq

def RuleSetContentHash.toHex (hash : RuleSetContentHash) : String := String.ofList (hash.bytes.flatMap lowerHex)

/-- The name a guild resource goes by in rules and bindings. -/
structure ResourceKey where
  value : String
  deriving DecidableEq

structure ResourceBindingFingerprint where
  value : String
  parsed : isLowerHex64 value = true
  deriving DecidableEq

end Starring
