import ControlPlane.Directory.Constraint
import ControlPlane.Directory.Fault
import ControlPlane.Directory.Input

/-!
A request for a directory, whatever its type. A draft exists once the settings block is there; it is
then checked for the form of its fields and after that for its tags, each in one batch. Nothing of
this looks at the service or at the network.
-/

namespace ControlPlane

structure DirectoryDraft where
  type : DirectoryType
  name : String
  shortName : Option String
  password : String
  description : Option String
  size : Option String
  edition : Option String
  vpc : String
  subnets : List String
  connect : Option ConnectSettings
  tags : List Tag
  deriving Repr, DecidableEq

def CreateDirectory.draft (input : CreateDirectory) : Except DirectoryFault DirectoryDraft :=
  match input.settings with
  | none => .error .vpcSettingsMissing
  | some settings => .ok
      { type := .simple
        name := input.name
        shortName := input.shortName
        password := input.password
        description := input.description
        size := some input.size
        edition := none
        vpc := settings.vpc
        subnets := settings.subnets
        connect := none
        tags := input.tags }

def CreateMicrosoftDirectory.draft (input : CreateMicrosoftDirectory) :
    Except DirectoryFault DirectoryDraft :=
  match input.settings with
  | none => .error .vpcSettingsMissing
  | some settings => .ok
      { type := .microsoft
        name := input.name
        shortName := input.shortName
        password := input.password
        description := input.description
        size := none
        edition := input.edition
        vpc := settings.vpc
        subnets := settings.subnets
        connect := none
        tags := input.tags }

def ConnectDirectory.draft (input : ConnectDirectory) : Except DirectoryFault DirectoryDraft :=
  match input.settings with
  | none => .error .connectSettingsMissing
  | some settings => .ok
      { type := .connector
        name := input.name
        shortName := input.shortName
        password := input.password
        description := input.description
        size := some input.size
        edition := none
        vpc := settings.vpc
        subnets := settings.subnets
        connect := some settings
        tags := input.tags }

namespace DirectoryDraft

open DirectoryConstraint

/-- A Microsoft directory comes in editions, all others in sizes. -/
def flavorChecks (d : DirectoryDraft) : List Check :=
  match d.type with
  | .microsoft => Check.ofOption "edition" d.edition (.memberOfIgnoringCase editions)
  | _ => Check.ofOption "size" d.size (.memberOfIgnoringCase sizes)

def subnetField (d : DirectoryDraft) : String :=
  match d.type with
  | .connector => "connectSettings.vpcSettings.subnetIds"
  | _ => "vpcSettings.subnetIds"

def connectChecks (settings : ConnectSettings) : List Check :=
  .of "connectSettings.customerUserName" settings.userName (.satisfies userNamePattern) ::
    settings.dnsAddresses.map fun a =>
      .of "connectSettings.customerDnsIps" a (.satisfies addressPattern)

/-- The format checks in the order in which their failures are reported. -/
def checks (d : DirectoryDraft) : List Check :=
  [.of "password" d.password (.satisfies passwordPattern)] ++ d.flavorChecks
    ++ [.of "name" d.name (.satisfies namePattern)]
    ++ Check.ofOption "description" d.description (.lengthAtMost 128)
    ++ Check.ofOption "shortName" d.shortName (.satisfies shortNamePattern)
    ++ d.subnets.map (fun id => .of d.subnetField id (.satisfies subnetIdPattern))
    ++ (d.connect.map connectChecks).getD []

def accept (d : DirectoryDraft) : Except DirectoryFault Unit := do
  (validate d.checks).mapError .validation
  (Tag.validate d.tags 0).mapError .validation

/-- The edition that is kept: a Microsoft directory has one even if the request names none. -/
def keptEdition (d : DirectoryDraft) : Option String :=
  match d.type with
  | .microsoft => some (d.edition.getD "Enterprise")
  | _ => none

end DirectoryDraft

end ControlPlane
