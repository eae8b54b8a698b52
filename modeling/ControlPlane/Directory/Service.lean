import ControlPlane.Directory.Draft
import ControlPlane.Network.Lookup

/-!
The directory service of one region. A directory is created in passes, each of which fails on its
own: the request's form, its place in the network, the quotas, and last the entry in the register,
which takes the first free host address of either subnet. Quotas are counted from the live
directories. Aliases, the ids that stand for missing ones included, are different for all
directories.
-/

namespace ControlPlane

structure DirectoryService where
  scope : Scope
  quotas : DirectoryQuotas
  directories : Registry Directory
  tags : TagStore

namespace DirectoryService

open DirectoryConstraint

def empty (scope : Scope) (quotas : DirectoryQuotas) : DirectoryService :=
  { scope := scope, quotas := quotas, directories := .empty, tags := .empty }

def maxTags : Nat := 50

def idDigits : Nat := 10

def directory (s : DirectoryService) (id : String) : Except DirectoryFault Directory :=
  match s.directories.get? id with
  | some d => .ok d
  | none => .error (.notFound id)

def count (s : DirectoryService) (type : DirectoryType) : Nat :=
  s.directories.count (·.type == type)

/-- The two subnets a directory will live in. They must lie in different zones and belong to the
cloud; they are looked up before and after the cloud. -/
def locate (vpc : String) (ids : List String) : ExceptT DirectoryFault Lookup (List Subnet) := do
  if ids.length ≠ 2 then throw .invalidSubnets
  let zones ← (Lookup.askZoneCount ids).orElseFail DirectoryFault.invalidSubnets
  if zones < 2 then throw .sameZone
  let _ ← (Lookup.askVpc vpc).orElseFail DirectoryFault.invalidVpc
  let subnets ← (Lookup.askSubnets ids).orElseFail DirectoryFault.invalidSubnets
  match subnets.find? fun n => n.vpc != vpc with
  | some stray => throw (.straySubnet stray.id vpc)
  | none => return subnets

def requireRoom (s : DirectoryService) (type : DirectoryType) : Except DirectoryFault Unit :=
  if s.quotas.limit type ≤ s.count type then .error (.directoryLimit (s.quotas.limit type))
  else .ok ()

def requireFewTags (tags : List Tag) : Except DirectoryFault Unit :=
  if tags.length > maxTags then .error .tagLimit else .ok ()

def usedAddresses (s : DirectoryService) : List String :=
  s.directories.records.flatMap Directory.occupied

/-- The first host address of each subnet that is not used. -/
def allocate (used : List String) : List Subnet → Except DirectoryFault (List String)
  | [] => .ok []
  | n :: rest =>
    match n.cidr.findHost fun a => !used.contains a.text with
    | none => .error (.noFreeAddress n.id)
    | some a => (allocate used rest).map (a.text :: ·)

def build (d : DirectoryDraft) (id : String) (now : Timestamp) (subnets : List Subnet)
    (addresses : List String) : Directory :=
  { id := id
    name := d.name
    shortName := d.shortName
    password := d.password
    description := d.description
    size := d.size
    edition := d.keptEdition
    aliasName := id
    accessUrl := Directory.urlOf id
    controllers := if d.type = .microsoft then 2 else 0
    dnsAddresses := match d.connect with
      | some c => c.dnsAddresses
      | none => addresses
    launchTime := now
    stage := .active
    stageTime := now
    ssoEnabled := false
    type := d.type
    placement := match d.connect with
      | some _ => none
      | none => some ⟨d.vpc, subnets.map (·.id), subnets.map (·.zone)⟩
    connection := d.connect.map fun c =>
      ⟨d.vpc, subnets.map (·.id), c.userName, subnets.map (·.zone), addresses⟩ }

def register (s : DirectoryService) (at_ : Moment) (d : DirectoryDraft) (subnets : List Subnet) :
    Except DirectoryFault (String × DirectoryService) := do
  let addresses ← allocate s.usedAddresses subnets
  let id := (Identifier.fresh s.directories "d" idDigits at_.draws).1
  return (id,
    { s with
      directories := s.directories.insert (build d id at_.now subnets addresses)
      tags := s.tags.tag id d.tags })

def create (s : DirectoryService) (at_ : Moment) (draft : Except DirectoryFault DirectoryDraft) :
    ExceptT DirectoryFault Lookup (String × DirectoryService) := do
  let d ← liftExcept draft
  liftExcept d.accept
  let subnets ← locate d.vpc d.subnets
  liftExcept (s.requireRoom d.type)
  liftExcept (requireFewTags d.tags)
  liftExcept (s.register at_ d subnets)
where
  liftExcept {α : Type} (r : Except DirectoryFault α) : ExceptT DirectoryFault Lookup α :=
    ExceptT.mk (pure r)

def deleteDirectory (s : DirectoryService) (id : String) :
    Except DirectoryFault (String × DirectoryService) := do
  (validate [directoryIdCheck id]).mapError .validation
  let d ← s.directory id
  return (d.id, { s with directories := s.directories.remove id, tags := s.tags.clear id })

def findAll (s : DirectoryService) : List String → Except DirectoryFault (List Directory)
  | [] => .ok []
  | id :: rest =>
    match s.directory id with
    | .error e => .error e
    | .ok d => (s.findAll rest).map (d :: ·)

def page {α : Type} (items : List α) (token : Option String) (limit : Nat) :
    Except DirectoryFault (Page α) :=
  (Page.ofList items token limit).mapError fun _ => .invalidNextToken

def describeDirectories (s : DirectoryService) (input : DescribeDirectories) :
    Except DirectoryFault (Page Directory) := do
  (validate (input.ids.map directoryIdCheck ++ limitChecks input.limit)).mapError .validation
  let chosen ← if input.ids = [] then .ok s.directories.records else s.findAll input.ids
  page chosen input.nextToken (input.limit.getD 100)

def usage (s : DirectoryService) (type : DirectoryType) : Usage :=
  { limit := s.quotas.limit type
    current := s.count type
    reached := s.quotas.limit type ≤ s.count type }

def limits (s : DirectoryService) : DirectoryLimits :=
  ⟨s.usage .simple, s.usage .microsoft, s.usage .connector⟩

def requireDirectory (s : DirectoryService) (id : String) : Except DirectoryFault Unit := do
  (validate [directoryIdCheck id]).mapError .validation
  let _ ← s.directory id

def addTags (s : DirectoryService) (input : AddTags) :
    Except DirectoryFault (Unit × DirectoryService) := do
  s.requireDirectory input.directory
  (Tag.validate input.tags 0).mapError .validation
  let existing := s.tags.tags input.directory
  if existing.length + Tag.addedCount existing input.tags > maxTags then throw .tagLimit
  return ((), { s with tags := s.tags.tag input.directory input.tags })

def removeTags (s : DirectoryService) (input : RemoveTags) :
    Except DirectoryFault (Unit × DirectoryService) := do
  s.requireDirectory input.directory
  return ((), { s with tags := s.tags.untag input.directory input.keys })

def listTags (s : DirectoryService) (input : ListDirectoryTags) :
    Except DirectoryFault (Page Tag) := do
  s.requireDirectory input.directory
  page (s.tags.tags input.directory) input.nextToken (input.limit.getD maxTags)

def createAlias (s : DirectoryService) (input : CreateAlias) :
    Except DirectoryFault (CreateAlias × DirectoryService) := do
  (validate (directoryIdCheck input.directory :: aliasChecks input.aliasName)).mapError .validation
  let d ← s.directory input.directory
  if d.hasOwnAlias then throw .aliasPresent
  if (s.directories.find? fun e => e.aliasName == input.aliasName).isSome then
    throw (.aliasTaken input.aliasName)
  return (input, { s with directories := s.directories.insert (d.withAlias input.aliasName) })

def acceptSwitch (input : SwitchSso) : Except DirectoryFault Unit :=
  (validate (Check.ofOption "ssoPassword" input.password (.lengthAtMost 128)
    ++ Check.ofOption "userName" input.userName (.satisfies userNamePattern)
    ++ [directoryIdCheck input.directory])).mapError .validation

def switchSso (s : DirectoryService) (d : Directory) (enabled : Bool) : DirectoryService :=
  { s with directories := s.directories.insert { d with ssoEnabled := enabled } }

def enableSso (s : DirectoryService) (input : SwitchSso) :
    Except DirectoryFault (Unit × DirectoryService) := do
  acceptSwitch input
  let d ← s.directory input.directory
  if !d.hasOwnAlias then throw (.aliasRequired input.directory)
  return ((), s.switchSso d true)

def disableSso (s : DirectoryService) (input : SwitchSso) :
    Except DirectoryFault (Unit × DirectoryService) := do
  acceptSwitch input
  let d ← s.directory input.directory
  return ((), s.switchSso d false)

end DirectoryService

end ControlPlane
