import Starring.Domain.Identifiers

/-! What an approval of a product activation is bound to: the resolved resources,
the expected active baseline and the approval policy, each under its own digest. -/

namespace Starring.Activation
open Foundation

/-- The identifiers of activation requests and of the attempts to apply them. -/
inductive ActivationIdKind where
  | request
  | attempt
  deriving DecidableEq

/-- One to 64 bytes, each an ASCII letter or digit, an underscore or a dash. -/
def isActivationId (value : String) : Bool :=
  value != "" && value.utf8ByteSize ≤ 64 &&
    (utf8 value).all fun byte => isAsciiAlphanumeric byte || byte == 95 || byte == 45

structure ActivationId (kind : ActivationIdKind) where
  value : String
  parsed : isActivationId value = true
  deriving DecidableEq

abbrev ActivationRequestId := ActivationId .request
abbrev ApplyAttemptId := ActivationId .attempt

instance {kind : ActivationIdKind} : Ord (ActivationId kind) := ⟨compareOn ActivationId.value⟩

instance {kind : ActivationIdKind} : Std.TransOrd (ActivationId kind) :=
  inferInstanceAs (Std.TransCmp (compareOn ActivationId.value))

instance {kind : ActivationIdKind} : Std.LawfulEqOrd (ActivationId kind) where
  eq_of_compare {first second} same := by
    have sameValue : compare first.value second.value = .eq := same
    have values := Std.LawfulEqCmp.eq_of_compare sameValue
    cases first
    cases second
    simpa using values
  compare_self {id} := by
    have reflexive : compare id.value id.value = .eq := Std.ReflCmp.compare_self
    exact reflexive

@[ext] structure ActivationDigest where
  value : String
  parsed : isLowerHex64 value = true

instance : DecidableEq ActivationDigest := fun _ _ => decidable_of_iff _ ActivationDigest.ext_iff.symm

@[ext] structure ActivationPromotionId where
  value : String
  parsed : isLowerHex64 value = true

instance : DecidableEq ActivationPromotionId := fun _ _ => decidable_of_iff _ ActivationPromotionId.ext_iff.symm

@[ext] structure ApprovalBindingFingerprint where
  value : String
  parsed : isLowerHex64 value = true

instance : DecidableEq ApprovalBindingFingerprint := fun _ _ => decidable_of_iff _ ApprovalBindingFingerprint.ext_iff.symm

structure ActivationTarget where
  guildId : GuildId
  rulesetKey : RuleSetKey
  version : RuleSetVersionId
  contentHash : RuleSetContentHash
  deriving DecidableEq

structure ObservedActive where
  version : RuleSetVersionId
  contentHash : RuleSetContentHash
  deriving DecidableEq

inductive ResolvedApprovalBinding where
  | channel (key : ResourceKey) (id : ChannelId)
  | role (key : ResourceKey) (id : RoleId)
  deriving DecidableEq

namespace ResolvedApprovalBinding

/-- Channels come before roles, and each kind is ordered by its keys. -/
def identity : ResolvedApprovalBinding → Nat × String
  | channel key _ => (0, key.value)
  | role key _ => (1, key.value)

def precedes (first second : ResolvedApprovalBinding) : Bool :=
  first.identity.1 < second.identity.1 ||
    (first.identity.1 == second.identity.1 && first.identity.2 < second.identity.2)

def material : ResolvedApprovalBinding → List (List UInt8)
  | channel key id => [utf8 "channel", utf8 key.value, utf8 (toString id.value.toNat)]
  | role key id => [utf8 "role", utf8 key.value, utf8 (toString id.value.toNat)]

end ResolvedApprovalBinding

inductive ApprovalBindingProjectionError where
  | nonCanonical
  deriving DecidableEq

/-- `windows(2).all`: every element stands in the relation to the next. -/
def adjacent {α : Type} (related : α → α → Bool) : List α → Bool
  | first :: second :: rest => related first second && adjacent related (second :: rest)
  | _ => true

def validateCanonical (bindings : List ResolvedApprovalBinding) : Except ApprovalBindingProjectionError Unit :=
  if adjacent ResolvedApprovalBinding.precedes bindings then .ok () else .error .nonCanonical

def approvalBindingFingerprintV1 (guildId : GuildId) (revision : NonZeroU64)
    (bindings : List ResolvedApprovalBinding) :
    Except ApprovalBindingProjectionError ApprovalBindingFingerprint := do
  validateCanonical bindings
  return ⟨sha256Hex (lengthFramed
    ([utf8 "starring.activation.approval_binding.v1\x00", utf8 (toString guildId.value.toNat),
      bigEndian 8 revision.get] ++ bindings.flatMap ResolvedApprovalBinding.material)),
    isLowerHex64_sha256Hex _⟩

/-- The golden vector of the source. -/
example :
    approvalBindingFingerprintV1 ⟨7⟩ ⟨3, by decide, by decide⟩
        [.channel ⟨"community_hub"⟩ ⟨700⟩, .role ⟨"member"⟩ ⟨800⟩] =
      .ok ⟨"6f2521fc613634eea480c210e12f503b4e046c25e1200f05a8c9051814599d78", by decide +kernel⟩ := by
  decide +kernel

inductive ExpectedActiveBaselineV1 where
  | absent
  | exact (version : RuleSetVersionId) (contentHash : RuleSetContentHash)
  deriving DecidableEq

def ExpectedActiveBaselineV1.asObserved : ExpectedActiveBaselineV1 → Option ObservedActive
  | absent => none
  | exact version contentHash => some { version, contentHash }

structure ApprovalPolicyBindingV1 where
  revision : NonZeroU64
  requiredApprovals : NonZeroU32
  ttlSeconds : NonZeroU64
  digest : ActivationDigest
  deriving DecidableEq

def approvalPolicyDigestV1 (revision : NonZeroU64) (requiredApprovals : NonZeroU32) (ttlSeconds : NonZeroU64) :
    ActivationDigest :=
  ⟨sha256Hex (lengthFramed
    [utf8 "starring.activation.approval_policy.v1\x00", bigEndian 8 revision.get,
      bigEndian 4 requiredApprovals.get, bigEndian 8 ttlSeconds.get]),
    isLowerHex64_sha256Hex _⟩

/-- The golden vector of the source. -/
example :
    approvalPolicyDigestV1 ⟨5, by decide, by decide⟩ ⟨2, by decide, by decide⟩ ⟨1800, by decide, by decide⟩ =
      ⟨"52ea6b41f445854786cc0764ee2575de3feefeb693b900412eb6841b7f3308cf", by decide +kernel⟩ := by
  decide +kernel

/-- A product policy asks for exactly one approval. -/
def ApprovalPolicyBindingV1.validate (self : ApprovalPolicyBindingV1) : Bool :=
  self.requiredApprovals.get == 1 &&
    approvalPolicyDigestV1 self.revision self.requiredApprovals self.ttlSeconds = self.digest

structure ApprovalBindingContextV1 where
  revision : NonZeroU64
  requiredBindings : List ResolvedApprovalBinding
  fingerprint : ApprovalBindingFingerprint
  deriving DecidableEq

def ApprovalBindingContextV1.validate (self : ApprovalBindingContextV1) (guildId : GuildId) : Bool :=
  approvalBindingFingerprintV1 guildId self.revision self.requiredBindings = .ok self.fingerprint

structure ProductApprovalContextV1 where
  promotionId : ActivationPromotionId
  promotionRequestDigest : ActivationDigest
  approvalPayloadDigest : ActivationDigest
  approvalContextDigest : ActivationDigest
  binding : ApprovalBindingContextV1
  baseline : ExpectedActiveBaselineV1
  policy : ApprovalPolicyBindingV1
  deriving DecidableEq

inductive ActivationApprovalContextV1 where
  | legacyManual
  | productAuthoring (context : ProductApprovalContextV1)
  deriving DecidableEq

inductive ActivationLinkStateV1 where
  | notRequired
  | unlinked
  | linked (linkedAt : DateTime)
  deriving DecidableEq

def ExpectedActiveBaselineV1.material : ExpectedActiveBaselineV1 → List (List UInt8)
  | absent => [utf8 "absent"]
  | exact version contentHash => [utf8 "exact", bigEndian 4 version.number.get, utf8 contentHash.toHex]

def productApprovalContextDigestV1 (requestId : ActivationRequestId) (target : ActivationTarget)
    (requester : UserId) (context : ProductApprovalContextV1) : ActivationDigest :=
  ⟨sha256Hex (lengthFramed
    ([utf8 "starring.activation.approval_context.v1\x00", utf8 requestId.value,
      utf8 (toString target.guildId.value.toNat), utf8 target.rulesetKey.value,
      bigEndian 4 target.version.number.get, utf8 target.contentHash.toHex,
      utf8 (toString requester.value.toNat), utf8 context.promotionId.value,
      utf8 context.promotionRequestDigest.value, utf8 context.approvalPayloadDigest.value,
      bigEndian 8 context.binding.revision.get, utf8 context.binding.fingerprint.value] ++
      context.binding.requiredBindings.flatMap ResolvedApprovalBinding.material ++
      context.baseline.material ++
      [bigEndian 8 context.policy.revision.get, bigEndian 4 context.policy.requiredApprovals.get,
        bigEndian 8 context.policy.ttlSeconds.get, utf8 context.policy.digest.value])),
    isLowerHex64_sha256Hex _⟩

end Starring.Activation
