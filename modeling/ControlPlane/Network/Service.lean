import ControlPlane.Network.Fault
import ControlPlane.Network.Input
import ControlPlane.Operation
import ControlPlane.Scope

/-!
The network service of one region. A virtual private cloud has a block of its own; its subnets lie
inside that block and share no address with each other; its security groups have different names.
A cloud that still has subnets or groups cannot be deleted.
-/

namespace ControlPlane

structure NetworkService where
  scope : Scope
  vpcs : Registry Vpc
  subnets : Registry Subnet
  groups : Registry SecurityGroup
  tags : TagStore
  deriving Inhabited

namespace NetworkService

def empty (scope : Scope) : NetworkService :=
  { scope := scope, vpcs := .empty, subnets := .empty, groups := .empty, tags := .empty }

def idDigits : Nat := 17

/-- The addresses of a subnet that no host gets. -/
def reservedAddresses : Nat := 5

/-- A block must be written with a slash and start at its own address. -/
def readBlock (text : String) : Except NetworkFault Cidr :=
  if text.toList.contains '/' then
    match Cidr.parse? text with
    | some c => if c.address.value = c.network then .ok c else .error (.invalidCidr text)
    | none => .error (.invalidCidr text)
  else .error (.invalidCidr text)

def allowedSize (c : Cidr) : Bool := 16 ≤ c.prefixLength && c.prefixLength ≤ 28

def liesIn (inner outer : Cidr) : Bool :=
  outer.prefixLength ≤ inner.prefixLength && outer.contains inner.network

def intersect (a b : Cidr) : Bool := a.contains b.network || b.contains a.network

def vpc (s : NetworkService) (id : String) : Except NetworkFault Vpc :=
  match s.vpcs.get? id with
  | some v => .ok v
  | none => .error (.vpcNotFound id)

def subnet (s : NetworkService) (id : String) : Except NetworkFault Subnet :=
  match s.subnets.get? id with
  | some n => .ok n
  | none => .error (.subnetNotFound id)

def securityGroup (s : NetworkService) (id : String) : Except NetworkFault SecurityGroup :=
  match s.groups.get? id with
  | some g => .ok g
  | none => .error (.securityGroupNotFound id)

def findAll {α : Type} (find : String → Except NetworkFault α) :
    List String → Except NetworkFault (List α)
  | [] => .ok []
  | id :: rest =>
    match find id with
    | .error e => .error e
    | .ok a => (findAll find rest).map (a :: ·)

def chosen {α : Type} (find : String → Except NetworkFault α) (all : List α) (ids : List String) :
    Except NetworkFault (List α) :=
  if ids = [] then .ok all else findAll find ids

def withTags {α : Type} [Keyed α] (s : NetworkService) (a : α) : Tagged α :=
  ⟨a, s.tags.tags (Keyed.key a)⟩

def createVpc (s : NetworkService) (at_ : Moment) (cidr : String) :
    Except NetworkFault (Vpc × NetworkService) := do
  let block ← readBlock cidr
  if !allowedSize block then throw (.vpcRange cidr)
  let v : Vpc :=
    { id := (Identifier.fresh s.vpcs "vpc" idDigits at_.draws).1
      cidr := block
      state := "available"
      owner := s.scope.account
      isDefault := false
      createTime := at_.now }
  return (v, { s with vpcs := s.vpcs.insert v })

def describeVpcs (s : NetworkService) (ids : List String) :
    Except NetworkFault (List (Tagged Vpc)) :=
  (chosen s.vpc s.vpcs.records ids).map fun vs => vs.map s.withTags

def dependents (s : NetworkService) (id : String) : Nat :=
  s.subnets.count (·.vpc == id) + s.groups.count (·.vpc == id)

def deleteVpc (s : NetworkService) (id : String) : Except NetworkFault (Unit × NetworkService) := do
  let _ ← s.vpc id
  if s.dependents id > 0 then throw (.dependencyViolation id)
  return ((), { s with vpcs := s.vpcs.remove id, tags := s.tags.clear id })

def placeBlock (s : NetworkService) (v : Vpc) (input : CreateSubnet) :
    Except NetworkFault Cidr := do
  let block ← readBlock input.cidr
  if !(allowedSize block && liesIn block v.cidr) then throw (.subnetRange input.cidr)
  if (s.subnets.find? fun n => n.vpc == input.vpc && intersect n.cidr block).isSome then
    throw (.subnetConflict input.cidr)
  return block

/-- The zone asked for, or the first one of the region. -/
def chooseZone (scope : Scope) : Option String → Except NetworkFault String
  | some zone =>
    if scope.zones.contains zone then .ok zone else .error (.invalidZone zone scope.zones)
  | none => .ok (scope.region ++ "a")

def createSubnet (s : NetworkService) (at_ : Moment) (input : CreateSubnet) :
    Except NetworkFault (Subnet × NetworkService) := do
  let v ← s.vpc input.vpc
  let block ← s.placeBlock v input
  let zone ← chooseZone s.scope input.zone
  let n : Subnet :=
    { id := (Identifier.fresh s.subnets "subnet" idDigits at_.draws).1
      vpc := input.vpc
      cidr := block
      zone := zone
      availableAddresses := block.size - reservedAddresses
      state := "available"
      owner := s.scope.account }
  return (n, { s with subnets := s.subnets.insert n })

/-- A filter of a name that is not known holds of nothing. -/
def filterHolds (n : Subnet) (f : Filter) : Bool :=
  if f.name = "vpc-id" then f.values.contains n.vpc
  else if f.name = "availability-zone" then f.values.contains n.zone
  else false

def describeSubnets (s : NetworkService) (input : DescribeSubnets) :
    Except NetworkFault (List (Tagged Subnet)) :=
  (chosen s.subnet s.subnets.records input.ids).map fun ns =>
    (ns.filter fun n => input.filters.all (filterHolds n)).map s.withTags

def deleteSubnet (s : NetworkService) (id : String) :
    Except NetworkFault (Unit × NetworkService) := do
  let _ ← s.subnet id
  return ((), { s with subnets := s.subnets.remove id, tags := s.tags.clear id })

def createSecurityGroup (s : NetworkService) (at_ : Moment) (input : CreateSecurityGroup) :
    Except NetworkFault (SecurityGroup × NetworkService) := do
  let _ ← s.vpc input.vpc
  if (s.groups.find? fun g => g.vpc == input.vpc && g.name == input.name).isSome then
    throw (.duplicateSecurityGroup input.name input.vpc)
  let g : SecurityGroup :=
    { id := (Identifier.fresh s.groups "sg" idDigits at_.draws).1
      name := input.name
      description := input.description
      vpc := input.vpc
      owner := s.scope.account }
  return (g, { s with groups := s.groups.insert g })

def describeSecurityGroups (s : NetworkService) (ids : List String) :
    Except NetworkFault (List (Tagged SecurityGroup)) :=
  (chosen s.securityGroup s.groups.records ids).map fun gs => gs.map s.withTags

def deleteSecurityGroup (s : NetworkService) (id : String) :
    Except NetworkFault (Unit × NetworkService) := do
  let _ ← s.securityGroup id
  return ((), { s with groups := s.groups.remove id, tags := s.tags.clear id })

def isTaggable (s : NetworkService) (id : String) : Bool :=
  s.vpcs.contains id || s.subnets.contains id || s.groups.contains id

def changeTags (s : NetworkService) (resources : List String)
    (change : TagStore → String → TagStore) : Except NetworkFault (Unit × NetworkService) :=
  match resources.find? fun id => !s.isTaggable id with
  | some bad => .error (.invalidId bad)
  | none => .ok ((), { s with tags := resources.foldl change s.tags })

def createTags (s : NetworkService) (input : ResourceTags) :
    Except NetworkFault (Unit × NetworkService) :=
  s.changeTags input.resources fun store id => store.tag id input.tags

def deleteTags (s : NetworkService) (input : ResourceTags) :
    Except NetworkFault (Unit × NetworkService) :=
  s.changeTags input.resources fun store id =>
    if input.tags = [] then store.clear id else store.untag id (input.tags.map (·.key))

end NetworkService

end ControlPlane
