import Starring.Domain.Guild
import Starring.Foundation.Checks

/-! The desired state of a guild as it is written down, and the checks it must pass. -/

namespace Starring

instance : Ord ResourceKey := ⟨compareOn ResourceKey.value⟩

instance : Std.TransOrd ResourceKey := inferInstanceAs (Std.TransCmp (compareOn ResourceKey.value))

instance : Std.LawfulEqOrd ResourceKey where
  eq_of_compare {first second} same := by
    have sameValue : compare first.value second.value = .eq := same
    have values := Std.LawfulEqCmp.eq_of_compare sameValue
    cases first
    cases second
    simpa using values
  compare_self {key} := by
    have reflexive : compare key.value key.value = .eq := Std.ReflCmp.compare_self
    exact reflexive

end Starring

namespace Starring.Planning
open Foundation

inductive MatchStrategy where
  | byName
  | byExplicitId (id : String)
  deriving DecidableEq

inductive Ownership where
  | managed
  | adopted
  | referenced
  deriving DecidableEq

inductive ResourceState where
  | present
  | absent
  deriving DecidableEq

structure Identity where
  key : ResourceKey
  matchBy : MatchStrategy
  ownership : Ownership
  state : ResourceState
  deriving DecidableEq

inductive Capability where
  | view
  | send
  | readHistory
  | addReactions
  | attachFiles
  | embedLinks
  | manageMessages
  | connect
  | speak
  deriving DecidableEq

structure AccessGrant where
  allow : List Capability
  deny : List Capability
  deriving DecidableEq

structure AccessIntent where
  everyone : Option AccessGrant
  roles : Std.ExtTreeMap ResourceKey AccessGrant

inductive OverwriteOp where
  | add
  | remove
  | replace
  deriving DecidableEq

inductive OverwriteTargetIntent where
  | role (key : ResourceKey)
  | member (id : String)
  deriving DecidableEq

structure PermissionOverwriteIntent where
  target : OverwriteTargetIntent
  op : OverwriteOp
  allow : Permissions
  deny : Permissions
  deriving DecidableEq

structure RoleIntent where
  identity : Identity
  name : Option String
  permissions : Option Permissions
  deriving DecidableEq

structure ChannelIntent where
  identity : Identity
  name : Option String
  channelType : Option ChannelType
  parent : Option ResourceKey
  access : Option AccessIntent
  rawOverwrites : Option (List PermissionOverwriteIntent)

structure VerificationIntent where
  identity : Identity
  channel : ResourceKey
  grantsRole : ResourceKey
  deriving DecidableEq

inductive FeatureIntent where
  | verification (spec : VerificationIntent)
  | moderation
  | logging
  deriving DecidableEq

def FeatureIntent.identity : FeatureIntent → Option Identity
  | verification spec => some spec.identity
  | moderation | logging => none

inductive DesiredStateMode where
  | patch
  | scopedAuthoritative
  | fullAuthoritative
  deriving DecidableEq

inductive ResourceScope where
  | all
  | keys (keys : List ResourceKey)
  | namePrefix (text : String)
  deriving DecidableEq

structure Scope where
  roles : Option ResourceScope
  channels : Option ResourceScope
  deriving DecidableEq

structure DesiredState where
  mode : DesiredStateMode
  scope : Option Scope
  roles : List RoleIntent
  channels : List ChannelIntent
  features : List FeatureIntent

inductive ValidationError where
  | duplicateKey (key : String)
  | danglingReference (key : String)
  | scopeWithoutScopedMode
  | scopedModeWithoutScope
  | referencedNotMutable (key : String)
  | absentRequiresOwnership (key : String)
  | matchByNameRequiresName (key : String)
  deriving DecidableEq

namespace DesiredState
variable (self : DesiredState)

def declaredKeys : List ResourceKey :=
  self.roles.map (fun role => role.identity.key) ++ self.channels.map (fun channel => channel.identity.key) ++
    self.features.filterMap fun feature => feature.identity.map Identity.key

/-- Every key that was already seen further left. -/
def repeatedKeys : List ResourceKey → List ResourceKey → List ResourceKey
  | _, [] => []
  | seen, key :: keys => if key ∈ seen then key :: repeatedKeys seen keys else repeatedKeys (key :: seen) keys

def checkKeyUniqueness : List ValidationError :=
  (repeatedKeys [] self.declaredKeys).map fun key => .duplicateKey key.value

def channelReferences (channel : ChannelIntent) : List ResourceKey :=
  channel.parent.toList ++ (channel.access.elim [] fun access => access.roles.keys) ++
    (channel.rawOverwrites.getD []).filterMap fun overwrite =>
      match overwrite.target with
      | .role key => some key
      | .member _ => none

def featureReferences : FeatureIntent → List ResourceKey
  | .verification spec => [spec.channel, spec.grantsRole]
  | .moderation | .logging => []

def checkReferenceIntegrity : List ValidationError :=
  let references := self.channels.flatMap channelReferences ++ self.features.flatMap featureReferences
  (references.filter fun key => key ∉ self.declaredKeys).map fun key => .danglingReference key.value

def checkModeScope : List ValidationError :=
  match self.mode, self.scope.isSome with
  | .scopedAuthoritative, false => [.scopedModeWithoutScope]
  | .scopedAuthoritative, true => []
  | _, true => [.scopeWithoutScopedMode]
  | _, false => []

def checkOneOwnershipState (identity : Identity) (mutated : Bool) : List ValidationError :=
  (if identity.ownership = .referenced ∧ mutated then [.referencedNotMutable identity.key.value] else []) ++
    if identity.state = .absent ∧ identity.ownership = .referenced then
      [.absentRequiresOwnership identity.key.value]
    else []

def checkOwnershipState : List ValidationError :=
  (self.roles.flatMap fun role =>
      checkOneOwnershipState role.identity (role.name.isSome || role.permissions.isSome)) ++
    self.channels.flatMap fun channel =>
      checkOneOwnershipState channel.identity
        (channel.name.isSome || channel.channelType.isSome || channel.parent.isSome || channel.access.isSome ||
          channel.rawOverwrites.isSome)

def checkOneMatchName (identity : Identity) (name : Option String) : List ValidationError :=
  if identity.matchBy = .byName ∧ name.isNone then [.matchByNameRequiresName identity.key.value] else []

def checkMatchName : List ValidationError :=
  (self.roles.flatMap fun role => checkOneMatchName role.identity role.name) ++
    self.channels.flatMap fun channel => checkOneMatchName channel.identity channel.name

def validate : Except (List ValidationError) Unit :=
  let errors := self.checkKeyUniqueness ++ self.checkReferenceIntegrity ++ self.checkModeScope ++
    self.checkOwnershipState ++ self.checkMatchName
  if errors = [] then .ok () else .error errors

end DesiredState

end Starring.Planning
