import Starring.Planning.DesiredState

/-! The compiler of desired states: access grants and raw overwrites become one
overwrite per target, in the order of the targets. -/

namespace Starring.Planning
open Foundation

def capabilityToPermission : Capability → Permissions
  | .view => .viewChannel
  | .send => .sendMessages
  | .readHistory => .readMessageHistory
  | .addReactions => .addReactions
  | .attachFiles => .attachFiles
  | .embedLinks => .embedLinks
  | .manageMessages => .manageMessages
  | .connect => .connect
  | .speak => .speak

def capabilitiesToPermissions (caps : List Capability) : Permissions :=
  caps.foldl (fun acc cap => acc.union (capabilityToPermission cap)) .empty

inductive NormalizedTarget where
  | everyone
  | role (key : ResourceKey)
  | member (id : String)
  deriving DecidableEq

namespace NormalizedTarget

def rank : NormalizedTarget → Nat
  | everyone => 0
  | role _ => 1
  | member _ => 2

def text : NormalizedTarget → String
  | everyone => ""
  | role key => key.value
  | member id => id

instance : Ord NormalizedTarget := ⟨compareLex (compareOn rank) (compareOn text)⟩

instance : Std.TransOrd NormalizedTarget :=
  inferInstanceAs (Std.TransCmp (compareLex (compareOn rank) (compareOn text)))

instance : Std.LawfulEqOrd NormalizedTarget where
  eq_of_compare {first second} same := by
    have both : (compare first.rank second.rank).then (compare first.text second.text) = .eq := same
    obtain ⟨ranks, texts⟩ := Ordering.then_eq_eq.mp both
    have sameRank := Std.LawfulEqCmp.eq_of_compare ranks
    have sameText := Std.LawfulEqCmp.eq_of_compare texts
    cases first <;> cases second <;> try cases sameRank
    · rfl
    · exact congrArg (fun value => role ⟨value⟩) sameText
    · exact congrArg member sameText
  compare_self {target} := by
    have reflexive : (compare target.rank target.rank).then (compare target.text target.text) = .eq :=
      Ordering.then_eq_eq.mpr ⟨Std.ReflCmp.compare_self, Std.ReflCmp.compare_self⟩
    exact reflexive

def label : NormalizedTarget → String
  | everyone => "everyone"
  | role key => key.value
  | member id => id

end NormalizedTarget

structure NormalizedRole where
  identity : Identity
  name : Option String
  permissions : Option Permissions
  deriving DecidableEq

structure NormalizedOverwrite where
  target : NormalizedTarget
  allow : Permissions
  deny : Permissions
  deriving DecidableEq

structure NormalizedChannel where
  identity : Identity
  name : Option String
  channelType : Option ChannelType
  parent : Option ResourceKey
  overwrites : List NormalizedOverwrite
  deriving DecidableEq

structure NormalizedVerificationPanel where
  identity : Identity
  channel : ResourceKey
  grantsRole : ResourceKey
  deriving DecidableEq

structure NormalizedDesiredState where
  mode : DesiredStateMode
  scope : Option Scope
  roles : List NormalizedRole
  channels : List NormalizedChannel
  verificationPanels : List NormalizedVerificationPanel
  deriving DecidableEq

inductive CompileError where
  | permissionConflict (channel target : String)
  deriving DecidableEq

def normalizeRole (role : RoleIntent) : NormalizedRole :=
  { identity := role.identity, name := role.name, permissions := role.permissions }

def normalizeVerification (verification : VerificationIntent) : NormalizedVerificationPanel :=
  { identity := verification.identity, channel := verification.channel, grantsRole := verification.grantsRole }

def normalizeFeature : FeatureIntent → Option NormalizedVerificationPanel
  | .verification spec => some (normalizeVerification spec)
  | .moderation | .logging => none

/-- What is allowed and what is denied. -/
abbrev Entry := Permissions × Permissions

def applyGrant (grant : AccessGrant) (entry : Entry) : Entry :=
  (entry.1.union (capabilitiesToPermissions grant.allow), entry.2.union (capabilitiesToPermissions grant.deny))

def applyRaw (raw : PermissionOverwriteIntent) (entry : Entry) : Entry :=
  match raw.op with
  | .add => (entry.1.union raw.allow, entry.2.union raw.deny)
  | .remove => (⟨entry.1.bits &&& ~~~raw.allow.bits⟩, ⟨entry.2.bits &&& ~~~raw.deny.bits⟩)
  | .replace => (raw.allow, raw.deny)

def rawTarget : OverwriteTargetIntent → NormalizedTarget
  | .role key => .role key
  | .member id => .member id

abbrev OverwriteMap := Std.ExtTreeMap NormalizedTarget Entry

/-- `entry(target).or_default()`, changed. -/
def OverwriteMap.update (map : OverwriteMap) (target : NormalizedTarget) (change : Entry → Entry) : OverwriteMap :=
  map.insert target (change (map.getD target (.empty, .empty)))

def grantAccess (access : AccessIntent) (map : OverwriteMap) : OverwriteMap :=
  let everyone := access.everyone.elim map fun grant => map.update .everyone (applyGrant grant)
  access.roles.toList.foldl (fun map (key, grant) => map.update (.role key) (applyGrant grant)) everyone

def overwriteMap (channel : ChannelIntent) : OverwriteMap :=
  let granted := channel.access.elim ∅ fun access => grantAccess access ∅
  (channel.rawOverwrites.getD []).foldl (fun map raw => map.update (rawTarget raw.target) (applyRaw raw)) granted

def overlaps (entry : Entry) : Bool := entry.1.bits &&& entry.2.bits != 0

def normalizeChannel (channel : ChannelIntent) : Except (List CompileError) NormalizedChannel :=
  let entries := (overwriteMap channel).toList
  let errors := (entries.filter fun (_, entry) => overlaps entry).map fun (target, _) =>
    .permissionConflict channel.identity.key.value target.label
  if errors ≠ [] then .error errors
  else
    .ok
      { identity := channel.identity, name := channel.name, channelType := channel.channelType
        parent := channel.parent
        overwrites := (entries.filter fun (_, entry) => !overlaps entry).map fun (target, allow, deny) =>
          { target, allow, deny } }

/-- The results of every channel, or the errors of all of them. -/
def normalizeChannels : List ChannelIntent → Except (List CompileError) (List NormalizedChannel)
  | [] => .ok []
  | channel :: channels =>
    match normalizeChannel channel, normalizeChannels channels with
    | .ok normalized, .ok rest => .ok (normalized :: rest)
    | .ok _, .error errors => .error errors
    | .error errors, .ok _ => .error errors
    | .error errors, .error more => .error (errors ++ more)

def compile (desired : DesiredState) : Except (List CompileError) NormalizedDesiredState := do
  let channels ← normalizeChannels desired.channels
  return {
    mode := desired.mode, scope := desired.scope, roles := desired.roles.map normalizeRole, channels
    verificationPanels := desired.features.filterMap normalizeFeature }

end Starring.Planning
