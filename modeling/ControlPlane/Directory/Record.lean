import ControlPlane.Network.Record
import ControlPlane.Timestamp.Reader

/-!
Directories as the service keeps and describes them. A directory lies in two subnets of one cloud;
a connector reaches a directory elsewhere and keeps its own addresses apart from the name servers it
was given, all other types serve names at their own addresses.
-/

namespace ControlPlane

inductive DirectoryType where
  | simple
  | microsoft
  | connector
  deriving Repr, DecidableEq

namespace DirectoryType

def text : DirectoryType → String
  | simple => "SimpleAD"
  | microsoft => "MicrosoftAD"
  | connector => "ADConnector"

def all : List DirectoryType := [simple, microsoft, connector]

def codec : Codec DirectoryType :=
  .ofText text fun s => all.find? fun t => t.text == s

end DirectoryType

inductive DirectoryStage where
  | creating
  | active
  | deleted
  deriving Repr, DecidableEq

namespace DirectoryStage

def text : DirectoryStage → String
  | creating => "Creating"
  | active => "Active"
  | deleted => "Deleted"

def codec : Codec DirectoryStage :=
  .ofText text fun s => [creating, active, deleted].find? fun t => t.text == s

end DirectoryStage

structure Placement where
  vpc : String
  subnets : List String
  zones : List String
  deriving Repr, DecidableEq

structure Connection where
  vpc : String
  subnets : List String
  userName : String
  zones : List String
  addresses : List String
  deriving Repr, DecidableEq

structure Directory where
  id : String
  name : String
  shortName : Option String
  password : String
  description : Option String
  size : Option String
  edition : Option String
  aliasName : String
  accessUrl : String
  controllers : Nat
  dnsAddresses : List String
  launchTime : Timestamp
  stage : DirectoryStage
  stageTime : Timestamp
  ssoEnabled : Bool
  type : DirectoryType
  placement : Option Placement
  connection : Option Connection
  deriving Repr, DecidableEq

instance : Keyed Directory := ⟨Directory.id⟩

def Placement.record : Record Placement Placement :=
  (Record.start Placement.mk)
    |>.required "VpcId" .text (·.vpc)
    |>.required "SubnetIds" (.list .text) (·.subnets)
    |>.required "AvailabilityZones" (.list .text) (·.zones)

def Connection.record : Record Connection Connection :=
  (Record.start Connection.mk)
    |>.required "VpcId" .text (·.vpc)
    |>.required "SubnetIds" (.list .text) (·.subnets)
    |>.required "CustomerUserName" .text (·.userName)
    |>.required "AvailabilityZones" (.list .text) (·.zones)
    |>.required "ConnectIps" (.list .text) (·.addresses)

namespace Directory

/-- The password is never shown. -/
def record : Record Directory Directory :=
  (Record.start Directory.mk)
    |>.required "DirectoryId" .text (·.id)
    |>.required "Name" .text (·.name)
    |>.optional "ShortName" .text (·.shortName)
    |>.hidden ""
    |>.optional "Description" .text (·.description)
    |>.optional "Size" .text (·.size)
    |>.optional "Edition" .text (·.edition)
    |>.required "Alias" .text (·.aliasName)
    |>.required "AccessUrl" .text (·.accessUrl)
    |>.required "DesiredNumberOfDomainControllers" .word32 (·.controllers)
    |>.required "DnsIpAddrs" (.list .text) (·.dnsAddresses)
    |>.required "LaunchTime" Timestamp.codec (·.launchTime)
    |>.required "Stage" DirectoryStage.codec (·.stage)
    |>.required "StageLastUpdatedDateTime" Timestamp.codec (·.stageTime)
    |>.required "SsoEnabled" .flag (·.ssoEnabled)
    |>.required "Type" DirectoryType.codec (·.type)
    |>.optional "VpcSettings" Placement.record.codec (·.placement)
    |>.optional "ConnectSettings" Connection.record.codec (·.connection)

/-- A directory is called by its id until it gets an alias of its own. -/
def hasOwnAlias (d : Directory) : Bool := d.aliasName != d.id

def urlOf (name : String) : String := name ++ ".awsapps.com"

def withAlias (d : Directory) (name : String) : Directory :=
  { d with aliasName := name, accessUrl := urlOf name }

def occupied (d : Directory) : List String :=
  match d.connection with
  | some c => c.addresses
  | none => d.dnsAddresses

end Directory

structure DirectoryQuotas where
  simple : Nat
  microsoft : Nat
  connected : Nat
  deriving Repr, DecidableEq

namespace DirectoryQuotas

def standard : DirectoryQuotas := ⟨10, 20, 10⟩

def record : Record DirectoryQuotas DirectoryQuotas :=
  (Record.start DirectoryQuotas.mk)
    |>.defaulted "cloud_only_directories" .word64 standard.simple (·.simple)
    |>.defaulted "cloud_only_microsoft_ad" .word64 standard.microsoft (·.microsoft)
    |>.defaulted "connected_directories" .word64 standard.connected (·.connected)

def limit (q : DirectoryQuotas) : DirectoryType → Nat
  | .simple => q.simple
  | .microsoft => q.microsoft
  | .connector => q.connected

end DirectoryQuotas

/-- For one type, the limit, how many there are, and whether that is as many as there may be. -/
structure Usage where
  limit : Nat
  current : Nat
  reached : Bool
  deriving Repr, DecidableEq

structure DirectoryLimits where
  simple : Usage
  microsoft : Usage
  connected : Usage
  deriving Repr, DecidableEq

def Usage.membersOf {τ α : Type} (r : Record τ (Usage → α)) (name : String) (get : τ → Usage) :
    Record τ α :=
  (r.within id fun f limit current reached => f ⟨limit, current, reached⟩)
    |>.required (name ++ "Limit") .word64 (fun t => (get t).limit)
    |>.required (name ++ "CurrentCount") .word64 (fun t => (get t).current)
    |>.required (name ++ "LimitReached") .flag (fun t => (get t).reached)

def DirectoryLimits.record : Record DirectoryLimits DirectoryLimits :=
  let first := Usage.membersOf (Record.start DirectoryLimits.mk) "CloudOnlyDirectories" (·.simple)
  let second := Usage.membersOf first "CloudOnlyMicrosoftAD" (·.microsoft)
  Usage.membersOf second "ConnectedDirectories" (·.connected)

end ControlPlane
