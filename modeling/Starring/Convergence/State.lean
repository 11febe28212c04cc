import Starring.Domain.Identifiers
import Starring.Foundation.Checks

/-! The data of one runtime deployment: its identity and target, the evidence it
collects on the way to Live, its phase, its controller lease and its failures. -/

namespace Starring.Convergence
open Foundation

/-- The opaque identifiers of the runtime; they differ only in what they name. -/
inductive OpaqueIdKind where
  | deployment
  | tenant
  | installation
  | controller
  | processInstance
  | activationRequest
  | panelCertificate
  | runtimeFailure
  deriving DecidableEq

/-- One to 128 bytes, each an ASCII letter or digit or one of `_`, `-`, `:`, `.`. -/
def isOpaqueId (value : String) : Bool :=
  value != "" && value.utf8ByteSize ≤ 128 &&
    (utf8 value).all fun byte =>
      isAsciiAlphanumeric byte || byte == 95 || byte == 45 || byte == 58 || byte == 46

structure OpaqueId (kind : OpaqueIdKind) where
  value : String
  parsed : isOpaqueId value = true
  deriving DecidableEq

abbrev DeploymentId := OpaqueId .deployment
abbrev TenantId := OpaqueId .tenant
abbrev InstallationId := OpaqueId .installation
abbrev ControllerId := OpaqueId .controller
abbrev ProcessInstanceId := OpaqueId .processInstance
abbrev ActivationRequestId := OpaqueId .activationRequest
abbrev PanelCertificateId := OpaqueId .panelCertificate
abbrev RuntimeFailureId := OpaqueId .runtimeFailure

@[ext] structure PromotionId where
  value : String
  parsed : isLowerHex64 value = true

instance : DecidableEq PromotionId := fun _ _ => decidable_of_iff _ PromotionId.ext_iff.symm

@[ext] structure PanelReportDigestV1 where
  value : String
  parsed : isLowerHex64 value = true

instance : DecidableEq PanelReportDigestV1 := fun _ _ => decidable_of_iff _ PanelReportDigestV1.ext_iff.symm

/-- The counters of the runtime; they differ only in what they count. -/
inductive CounterKind where
  | deploymentRevision
  | runtimeGeneration
  | bindingRevision
  | fencingToken
  deriving DecidableEq

@[ext] structure Counter (kind : CounterKind) where
  get : Nat
  positive : 0 < get
  bounded : get < 2 ^ 64

instance {kind : CounterKind} : DecidableEq (Counter kind) := fun _ _ => decidable_of_iff _ Counter.ext_iff.symm

abbrev DeploymentRevision := Counter .deploymentRevision
abbrev RuntimeGeneration := Counter .runtimeGeneration
abbrev BindingRevision := Counter .bindingRevision
abbrev FencingToken := Counter .fencingToken

inductive RuntimeRevisionError where
  | zero
  | overflow
  deriving DecidableEq

namespace Counter
variable {kind : CounterKind}

instance : LT (Counter kind) := ⟨fun first second => first.get < second.get⟩
instance : LE (Counter kind) := ⟨fun first second => first.get ≤ second.get⟩

instance (first second : Counter kind) : Decidable (first < second) :=
  inferInstanceAs (Decidable (first.get < second.get))
instance (first second : Counter kind) : Decidable (first ≤ second) :=
  inferInstanceAs (Decidable (first.get ≤ second.get))

theorem le_def (first second : Counter kind) : first ≤ second ↔ first.get ≤ second.get := Iff.rfl

theorem not_le {first second : Counter kind} : ¬first ≤ second ↔ second < first := Nat.not_le

def first : Counter kind := ⟨1, Nat.one_pos, NonZeroU64.one_bounded⟩

def next (counter : Counter kind) : Except RuntimeRevisionError (Counter kind) :=
  if room : counter.get + 1 < 2 ^ 64 then .ok ⟨counter.get + 1, Nat.succ_pos _, room⟩ else .error .overflow

theorem next_eq_ok {counter following : Counter kind} (advanced : counter.next = .ok following) :
    following.get = counter.get + 1 := by
  unfold next at advanced
  split at advanced
  · cases advanced
    rfl
  · cases advanced

theorem next_ok_iff (counter : Counter kind) :
    (∃ following, counter.next = .ok following) ↔ counter.get + 1 < 2 ^ 64 := by
  unfold next
  constructor
  · rintro ⟨following, advanced⟩
    split at advanced
    · assumption
    · cases advanced
  · exact fun room => ⟨_, dif_pos room⟩

end Counter

structure RuntimeDeploymentIdentityV1 where
  deploymentId : DeploymentId
  tenantId : TenantId
  installationId : InstallationId
  promotionId : PromotionId
  activationRequestId : ActivationRequestId
  deriving DecidableEq

def RuntimeDeploymentIdentityV1.sameProductScope (self other : RuntimeDeploymentIdentityV1) : Prop :=
  self.tenantId = other.tenantId ∧ self.installationId = other.installationId

structure RuntimeDeploymentTargetV1 where
  guildId : GuildId
  rulesetKey : RuleSetKey
  version : RuleSetVersionId
  contentHash : RuleSetContentHash
  bindingRevision : BindingRevision
  bindingFingerprint : ResourceBindingFingerprint
  deriving DecidableEq

def RuntimeDeploymentTargetV1.sameSlot (self other : RuntimeDeploymentTargetV1) : Prop :=
  self.guildId = other.guildId ∧ self.rulesetKey = other.rulesetKey

instance (self other : RuntimeDeploymentIdentityV1) : Decidable (self.sameProductScope other) :=
  inferInstanceAs (Decidable (_ ∧ _))

instance (self other : RuntimeDeploymentTargetV1) : Decidable (self.sameSlot other) :=
  inferInstanceAs (Decidable (_ ∧ _))

structure RuntimeProcessIdentityV1 where
  target : RuntimeDeploymentTargetV1
  runtimeGeneration : RuntimeGeneration
  processInstanceId : ProcessInstanceId
  deriving DecidableEq

structure PreflightAttestationV1 where
  target : RuntimeDeploymentTargetV1
  runtimeGeneration : RuntimeGeneration
  observedRuntime : Option RuntimeProcessIdentityV1
  checkedAt : DateTime
  deriving DecidableEq

structure DrainAttestationV1 where
  previousRuntime : Option RuntimeProcessIdentityV1
  targetRuntimeGeneration : RuntimeGeneration
  drainedAt : DateTime
  deriving DecidableEq

inductive ActivationOutcomeKindV1 where
  | activated
  | alreadyActive
  | crashRecovered
  deriving DecidableEq

structure ActivationAttestationV1 where
  activationRequestId : ActivationRequestId
  target : RuntimeDeploymentTargetV1
  runtimeGeneration : RuntimeGeneration
  kind : ActivationOutcomeKindV1
  activatedAt : DateTime
  deriving DecidableEq

structure PanelCertificateV1 where
  certificateId : PanelCertificateId
  reportDigest : PanelReportDigestV1
  target : RuntimeDeploymentTargetV1
  runtimeGeneration : RuntimeGeneration
  processInstanceId : ProcessInstanceId
  declaredCount : UInt32
  installedCount : UInt32
  unchangedCount : UInt32
  skippedTransientCount : UInt32
  skippedUnresolvedChannelCount : UInt32
  failedCount : UInt32
  ambiguousOutcomeCount : UInt32
  staleMessageCleanupPendingCount : UInt32
  orphanMessageCleanupPendingCount : UInt32
  repostedOldMessageCleanupPendingCount : UInt32
  reconciledAt : DateTime
  deriving DecidableEq

inductive GatewayReadyKindV1 where
  | discordReady
  | discordResumed
  deriving DecidableEq

structure GatewayReadyAttestationV1 where
  target : RuntimeDeploymentTargetV1
  runtimeGeneration : RuntimeGeneration
  processInstanceId : ProcessInstanceId
  kind : GatewayReadyKindV1
  readyAt : DateTime
  deriving DecidableEq

structure LiveAttestationV1 where
  target : RuntimeDeploymentTargetV1
  runtimeGeneration : RuntimeGeneration
  processInstanceId : ProcessInstanceId
  activation : ActivationAttestationV1
  panelCertificate : PanelCertificateV1
  gatewayReady : GatewayReadyAttestationV1
  certifiedAt : DateTime
  deriving DecidableEq

inductive LiveLossKindV1 where
  | servingLeaseExpired
  | servingDisconnected
  deriving DecidableEq

structure LiveRecoveryAttestationV1 where
  priorLive : LiveAttestationV1
  kind : LiveLossKindV1
  evidenceAt : DateTime
  recoveredAt : DateTime
  deriving DecidableEq

inductive RuntimeFailureKindV1 where
  | environmentUnavailable
  | activationNotObservable
  | panelReconciliation
  | gatewayStart
  | gatewayReadyTimeout
  | invariantViolation
  deriving DecidableEq

structure RuntimeFailureV1 where
  failureId : RuntimeFailureId
  kind : RuntimeFailureKindV1
  code : String
  message : String
  recordedAt : DateTime
  deriving DecidableEq

inductive RuntimeFailureDispositionV1 where
  | retryable (failure : RuntimeFailureV1) (attempt : NonZeroU32) (retryNotBefore : DateTime)
  | blocked (failure : RuntimeFailureV1)
  deriving DecidableEq

inductive RuntimePendingConditionV1 where
  | ready
  | retryable (failure : RuntimeFailureV1) (attempt : NonZeroU32) (retryNotBefore : DateTime)
  | blocked (failure : RuntimeFailureV1)
  deriving DecidableEq

def RuntimePendingConditionV1.disposition : RuntimePendingConditionV1 → Option RuntimeFailureDispositionV1
  | .ready => none
  | .retryable failure attempt retryNotBefore => some (.retryable failure attempt retryNotBefore)
  | .blocked failure => some (.blocked failure)

inductive RuntimeDeploymentPhaseKindV1 where
  | requested
  | preflightReady
  | drainRequested
  | drained
  | activationApplying
  | runtimePending
  | reconcilingPanels
  | awaitingGatewayReady
  | live
  | superseded
  | cancelled
  deriving DecidableEq

structure SupersedingDeploymentV1 where
  identity : RuntimeDeploymentIdentityV1
  target : RuntimeDeploymentTargetV1
  runtimeGeneration : RuntimeGeneration
  deriving DecidableEq

inductive RuntimeDeploymentPhaseV1 where
  | requested
  | preflightReady
  | drainRequested
  | drained
  | activationApplying
  | runtimePending (condition : RuntimePendingConditionV1)
  | reconcilingPanels
  | awaitingGatewayReady
  | live
  | superseded (by_ : SupersedingDeploymentV1) (reason : String) (supersededAt : DateTime)
  | cancelled (reason : String) (cancelledAt : DateTime)
  deriving DecidableEq

namespace RuntimeDeploymentPhaseV1

def kind : RuntimeDeploymentPhaseV1 → RuntimeDeploymentPhaseKindV1
  | requested => .requested
  | preflightReady => .preflightReady
  | drainRequested => .drainRequested
  | drained => .drained
  | activationApplying => .activationApplying
  | runtimePending _ => .runtimePending
  | reconcilingPanels => .reconcilingPanels
  | awaitingGatewayReady => .awaitingGatewayReady
  | live => .live
  | superseded _ _ _ => .superseded
  | cancelled _ _ => .cancelled

def isTerminal : RuntimeDeploymentPhaseV1 → Bool
  | live | superseded _ _ _ | cancelled _ _ => true
  | _ => false

end RuntimeDeploymentPhaseV1

structure ControllerLeaseV1 where
  controllerId : ControllerId
  fencingToken : FencingToken
  acquiredAt : DateTime
  expiresAt : DateTime
  deriving DecidableEq

structure LeaseRequestV1 where
  expectedRevision : DeploymentRevision
  controllerId : ControllerId
  fencingToken : FencingToken
  now : DateTime
  expiresAt : DateTime
  deriving DecidableEq

structure RecoverBlockedRequestV1 where
  expectedRevision : DeploymentRevision
  expectedFailureId : RuntimeFailureId
  controllerId : ControllerId
  fencingToken : FencingToken
  now : DateTime
  expiresAt : DateTime
  deriving DecidableEq

structure CommandGuardV1 where
  expectedRevision : DeploymentRevision
  controllerId : ControllerId
  fencingToken : FencingToken
  runtimeGeneration : RuntimeGeneration
  now : DateTime
  deriving DecidableEq

structure RecoverLiveRequestV1 where
  expectedRevision : DeploymentRevision
  expectedRuntimeGeneration : RuntimeGeneration
  expectedProcessInstanceId : ProcessInstanceId
  kind : LiveLossKindV1
  evidenceAt : DateTime
  recoveredAt : DateTime
  deriving DecidableEq

structure RuntimeDeploymentSnapshotV1 where
  identity : RuntimeDeploymentIdentityV1
  target : RuntimeDeploymentTargetV1
  runtimeGeneration : RuntimeGeneration
  previousRuntime : Option RuntimeProcessIdentityV1
  requestedAt : DateTime
  revision : DeploymentRevision
  phase : RuntimeDeploymentPhaseV1
  controllerLease : Option ControllerLeaseV1
  lastFencingToken : Option FencingToken
  preflight : Option PreflightAttestationV1
  drain : Option DrainAttestationV1
  activation : Option ActivationAttestationV1
  panelCertificate : Option PanelCertificateV1
  gatewayReady : Option GatewayReadyAttestationV1
  live : Option LiveAttestationV1
  lastLiveRecovery : Option LiveRecoveryAttestationV1
  lastRuntimeFailure : Option RuntimeFailureDispositionV1
  deriving DecidableEq

structure RuntimeDeployment where
  identity : RuntimeDeploymentIdentityV1
  target : RuntimeDeploymentTargetV1
  runtimeGeneration : RuntimeGeneration
  previousRuntime : Option RuntimeProcessIdentityV1
  requestedAt : DateTime
  revision : DeploymentRevision
  phase : RuntimeDeploymentPhaseV1
  controllerLease : Option ControllerLeaseV1
  lastFencingToken : Option FencingToken
  preflight : Option PreflightAttestationV1
  drain : Option DrainAttestationV1
  activation : Option ActivationAttestationV1
  panelCertificate : Option PanelCertificateV1
  gatewayReady : Option GatewayReadyAttestationV1
  live : Option LiveAttestationV1
  lastLiveRecovery : Option LiveRecoveryAttestationV1
  lastRuntimeFailure : Option RuntimeFailureDispositionV1
  deriving DecidableEq

inductive PanelIneligibilityV1 where
  | countOverflow
  | transientSkipped
  | unresolvedChannelSkipped
  | failed
  | ambiguousOutcome
  | staleCleanupPending
  | orphanCleanupPending
  | repostedOldMessageCleanupPending
  | incomplete
  deriving DecidableEq

inductive RuntimeDeploymentError where
  | runtimeGenerationNotMonotonic
  | previousRuntimeSlotMismatch
  | supersedingDeploymentIdentityConflict
  | supersedingDeploymentScopeMismatch
  | revisionConflict (expected actual : DeploymentRevision)
  | runtimeGenerationConflict (expected actual : RuntimeGeneration)
  | invalidLeaseWindow
  | leaseHeld (controllerId : ControllerId) (expiresAt : DateTime)
  | leaseRequired
  | leaseExpired (expiresAt : DateTime)
  | controllerMismatch
  | fencingTokenConflict (expected actual : FencingToken)
  | fencingTokenNotMonotonic
  | invalidTransition (current : RuntimeDeploymentPhaseKindV1) (operation : String)
  | targetMismatch
  | previousRuntimeMismatch
  | activationRequestMismatch
  | processInstanceMismatch
  | panelIneligible (reason : PanelIneligibilityV1)
  | attestationTimeRegression
  | invalidFailure
  | invalidReason
  | productDrainSupersessionSourceMismatch
  | productDrainCancellationSourceMismatch
  | revisionOverflow
  | invalidSnapshot
  deriving DecidableEq

inductive TransitionOutcomeV1 where
  | applied (revision : DeploymentRevision)
  | replayed (revision : DeploymentRevision)
  deriving DecidableEq

end Starring.Convergence
