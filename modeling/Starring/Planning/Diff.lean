import Starring.Foundation.Text
import Starring.Planning.Normalize

/-! The comparison of a desired state with a guild. Roles and channels are found by
their name or by their id, and go through the same table of decisions. -/

namespace Starring.Planning
open Foundation

inductive ResolveResult (ρ : Type) where
  | existing (current : ρ)
  | missing
  | conflict (reason : String)
  deriving DecidableEq

/-- What roles and channels have in common. -/
structure Kind (ρ : Type) where
  noun : String
  id : ρ → UInt64
  name : ρ → String

def roleKind : Kind Role := { noun := "role", id := fun role => role.id.value, name := Role.name }
def channelKind : Kind Channel := { noun := "channel", id := fun channel => channel.id.value, name := Channel.name }

/-- A name must be that of one row only. -/
def ResolveResult.ofNamesakes {ρ : Type} (kind : Kind ρ) (name : String) : List ρ → ResolveResult ρ
  | [] => .missing
  | [row] => .existing row
  | _ => .conflict ("multiple " ++ kind.noun ++ "s named " ++ name)

def ResolveResult.ofFound {ρ : Type} : Option ρ → ResolveResult ρ
  | some row => .existing row
  | none => .missing

def resolveMatch {ρ : Type} (kind : Kind ρ) (rows : List ρ) (identity : Identity) (name : Option String) :
    ResolveResult ρ :=
  match identity.matchBy with
  | .byName =>
    match name with
    | none => .conflict "ByName requires a name"
    | some name => .ofNamesakes kind name (rows.filter fun row => kind.name row = name)
  | .byExplicitId id =>
    match parseU64 id with
    | none => .conflict ("invalid id " ++ id)
    | some raw => .ofFound (rows.find? fun row => kind.id row = raw)

/-- The trait by which the resources of a guild are looked up. -/
structure ResourceResolver where
  resolveRole : Identity → Option String → ResolveResult Role
  resolveChannel : Identity → Option String → ResolveResult Channel
  everyoneOverwriteTarget : OverwriteTarget

def inMemoryMatchResolver (state : GuildState) : ResourceResolver where
  resolveRole := resolveMatch roleKind state.roles
  resolveChannel := resolveMatch channelKind state.channels
  everyoneOverwriteTarget := .role ⟨state.guild.id.value⟩

inductive ChangeOp where
  | create
  | update
  | delete
  | noOp
  deriving DecidableEq

inductive DiffTarget where
  | role (key : ResourceKey)
  | channel (key : ResourceKey)
  | overwrite (channel : ResourceKey) (target : NormalizedTarget)
  deriving DecidableEq

inductive ChangedField where
  | name
  | permissions
  | channelType
  | parent
  | allow
  | deny
  deriving DecidableEq

structure DiffChange where
  op : ChangeOp
  target : DiffTarget
  changed : List ChangedField
  deriving DecidableEq

structure DiffConflict where
  target : DiffTarget
  reason : String
  deriving DecidableEq

structure DeferredItem where
  kind : String
  key : ResourceKey
  reason : String
  deriving DecidableEq

structure DiffResult where
  changes : List DiffChange
  conflicts : List DiffConflict
  deferred : List DeferredItem
  deriving DecidableEq

namespace DiffResult

def empty : DiffResult := { changes := [], conflicts := [], deferred := [] }

def append (first second : DiffResult) : DiffResult :=
  { changes := first.changes ++ second.changes, conflicts := first.conflicts ++ second.conflicts
    deferred := first.deferred ++ second.deferred }

/-- The results of the items one after another. -/
def concat {α : Type} (items : List α) (diffOne : α → DiffResult) : DiffResult :=
  items.foldr (fun item rest => (diffOne item).append rest) empty

def change (op : ChangeOp) (target : DiffTarget) (changed : List ChangedField) : DiffResult :=
  { empty with changes := [{ op, target, changed }] }

def noop (target : DiffTarget) : DiffResult := change .noOp target []

def pushConflict (target : DiffTarget) (reason : String) : DiffResult :=
  { empty with conflicts := [{ target, reason }] }

/-- An update with the changed fields, or nothing to do. -/
def updateOrNoop (target : DiffTarget) (changed : List ChangedField) : DiffResult :=
  if changed = [] then noop target else change .update target changed

end DiffResult

def Identity.isExplicitId (identity : Identity) : Bool :=
  match identity.matchBy with
  | .byName => false
  | .byExplicitId _ => true

/-- The decision about one role or channel. The details of a channel, its overwrites, follow the
decision where the channel exists and is owned, or is created. -/
def diffResource {ρ : Type} (kind : Kind ρ) (target : DiffTarget) (identity : Identity)
    (resolved : ResolveResult ρ) (changed : ρ → List ChangedField) (details : ρ → DiffResult)
    (createdDetails : DiffResult) : DiffResult :=
  match identity.state, resolved with
  | .present, .existing current =>
    if identity.ownership = .referenced then .noop target
    else (DiffResult.updateOrNoop target (changed current)).append (details current)
  | .present, .missing =>
    if identity.ownership = .referenced then .pushConflict target ("referenced " ++ kind.noun ++ " not found")
    else if identity.isExplicitId then .pushConflict target "explicit id not found"
    else (DiffResult.change .create target []).append createdDetails
  | .present, .conflict reason => .pushConflict target reason
  | .absent, .existing _ =>
    if identity.ownership = .referenced then .pushConflict target ("cannot delete referenced " ++ kind.noun)
    else .change .delete target []
  | .absent, .missing => .noop target
  | .absent, .conflict reason => .pushConflict target reason

/-- The field is specified, and differs from the current one. -/
def differs {α : Type} [DecidableEq α] (field : ChangedField) (wanted : Option α) (current : α) :
    List ChangedField :=
  match wanted with
  | some value => if value ≠ current then [field] else []
  | none => []

def roleChanged (role : NormalizedRole) (current : Role) : List ChangedField :=
  differs .name role.name current.name ++ differs .permissions role.permissions current.permissions

def diffRole (resolver : ResourceResolver) (role : NormalizedRole) : DiffResult :=
  diffResource roleKind (.role role.identity.key) role.identity (resolver.resolveRole role.identity role.name)
    (roleChanged role) (fun _ => .empty) .empty

def channelMetaChanged (channel : NormalizedChannel) (current : Channel) : List ChangedField :=
  differs .name channel.name current.name ++ differs .channelType channel.channelType current.channelType

/-- A map built from a list keeps the last of the roles with one key. -/
def roleByKey (roles : List NormalizedRole) (key : ResourceKey) : Option NormalizedRole :=
  roles.reverse.find? fun role => role.identity.key = key

def resolveOverwriteTarget (resolver : ResourceResolver) (roles : List NormalizedRole) :
    NormalizedTarget → Except String (Option OverwriteTarget)
  | .everyone => .ok (some resolver.everyoneOverwriteTarget)
  | .member id =>
    match parseU64 id with
    | some raw => .ok (some (.member ⟨raw⟩))
    | none => .error ("invalid member id " ++ id)
  | .role key =>
    match roleByKey roles key with
    | none => .error ("overwrite references undeclared role key " ++ key.value)
    | some role =>
      match resolver.resolveRole role.identity role.name with
      | .existing current => .ok (some (.role current.id))
      | .missing => .ok none
      | .conflict reason => .error reason

def diffOverwrite (resolver : ResourceResolver) (roles : List NormalizedRole) (channel : NormalizedChannel)
    (current : Channel) (overwrite : NormalizedOverwrite) : DiffResult :=
  let target := DiffTarget.overwrite channel.identity.key overwrite.target
  match resolveOverwriteTarget resolver roles overwrite.target with
  | .error reason => .pushConflict target reason
  | .ok resolved =>
    match resolved.bind fun wanted => current.overwrites.find? fun held => held.target = wanted with
    | some held =>
      .updateOrNoop target
        ((if overwrite.allow ≠ held.allow then [.allow] else []) ++
          if overwrite.deny ≠ held.deny then [.deny] else [])
    | none => .change .create target []

def diffOverwrites (resolver : ResourceResolver) (roles : List NormalizedRole) (channel : NormalizedChannel)
    (current : Channel) : DiffResult :=
  .concat channel.overwrites (diffOverwrite resolver roles channel current)

def diffChannel (resolver : ResourceResolver) (roles : List NormalizedRole) (channel : NormalizedChannel) :
    DiffResult :=
  diffResource channelKind (.channel channel.identity.key) channel.identity
    (resolver.resolveChannel channel.identity channel.name) (channelMetaChanged channel)
    (diffOverwrites resolver roles channel)
    (.concat channel.overwrites fun overwrite =>
      .change .create (.overwrite channel.identity.key overwrite.target) [])

def deferPanel (panel : NormalizedVerificationPanel) : DiffResult :=
  { DiffResult.empty with
    deferred := [{
      kind := "verification_panel", key := panel.identity.key, reason := "panel state not tracked in Phase 4" }] }

def diff (desired : NormalizedDesiredState) (resolver : ResourceResolver) : DiffResult :=
  (DiffResult.concat desired.roles (diffRole resolver)).append
    ((DiffResult.concat desired.channels (diffChannel resolver desired.roles)).append
      (DiffResult.concat desired.verificationPanels deferPanel))

end Starring.Planning
