import Starring.Domain.Identifiers

/-! The Discord side: the roles and channels of a guild with their permissions. -/

namespace Starring

structure Permissions where
  bits : UInt64
  deriving DecidableEq

namespace Permissions

def empty : Permissions := ⟨0⟩
def union (first second : Permissions) : Permissions := ⟨first.bits ||| second.bits⟩
def isEmpty (self : Permissions) : Bool := self.bits == 0
def intersects (self other : Permissions) : Bool := self.bits &&& other.bits != 0

def flag (position : UInt64) : Permissions := ⟨1 <<< position⟩

def kickMembers : Permissions := flag 1
def banMembers : Permissions := flag 2
def administrator : Permissions := flag 3
def manageChannels : Permissions := flag 4
def manageGuild : Permissions := flag 5
def addReactions : Permissions := flag 6
def viewChannel : Permissions := flag 10
def sendMessages : Permissions := flag 11
def manageMessages : Permissions := flag 13
def embedLinks : Permissions := flag 14
def attachFiles : Permissions := flag 15
def readMessageHistory : Permissions := flag 16
def mentionEveryone : Permissions := flag 17
def connect : Permissions := flag 20
def speak : Permissions := flag 21
def manageRoles : Permissions := flag 28
def moderateMembers : Permissions := flag 40

end Permissions

inductive ChannelType where
  | text
  | voice
  | category
  deriving DecidableEq

inductive OverwriteTarget where
  | role (id : RoleId)
  | member (id : UserId)
  deriving DecidableEq

structure Guild where
  id : GuildId
  name : String
  ownerId : UserId
  deriving DecidableEq

structure Role where
  id : RoleId
  name : String
  permissions : Permissions
  position : Int
  managed : Bool
  deriving DecidableEq

structure PermissionOverwrite where
  target : OverwriteTarget
  allow : Permissions
  deny : Permissions
  deriving DecidableEq

structure Channel where
  id : ChannelId
  name : String
  channelType : ChannelType
  parentId : Option ChannelId
  position : Int
  overwrites : List PermissionOverwrite
  deriving DecidableEq

structure Member where
  userId : UserId
  roles : List RoleId
  deriving DecidableEq

structure GuildState where
  guild : Guild
  roles : List Role
  channels : List Channel
  members : List Member
  deriving DecidableEq

end Starring
