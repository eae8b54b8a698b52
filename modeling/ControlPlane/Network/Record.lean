import ControlPlane.Ipv4.Cidr
import ControlPlane.Registry
import ControlPlane.Tag.Store
import ControlPlane.Timestamp.Reader

/-!
The records of the network service: virtual private clouds, their subnets and their security
groups, each with its JSON form.
-/

namespace ControlPlane

def Cidr.codec : Codec Cidr := .ofText Cidr.text Cidr.parse?

structure Vpc where
  id : String
  cidr : Cidr
  state : String
  owner : String
  isDefault : Bool
  createTime : Timestamp
  deriving Repr, DecidableEq

structure Subnet where
  id : String
  vpc : String
  cidr : Cidr
  zone : String
  availableAddresses : Nat
  state : String
  owner : String
  deriving Repr, DecidableEq

structure SecurityGroup where
  id : String
  name : String
  description : String
  vpc : String
  owner : String
  deriving Repr, DecidableEq

instance : Keyed Vpc := ⟨Vpc.id⟩
instance : Keyed Subnet := ⟨Subnet.id⟩
instance : Keyed SecurityGroup := ⟨SecurityGroup.id⟩

def Vpc.record : Record Vpc Vpc :=
  (Record.start Vpc.mk)
    |>.required "VpcId" .text (·.id)
    |>.required "CidrBlock" Cidr.codec (·.cidr)
    |>.required "State" .text (·.state)
    |>.required "OwnerId" .text (·.owner)
    |>.required "IsDefault" .flag (·.isDefault)
    |>.required "CreateTime" Timestamp.codec (·.createTime)

def Subnet.record : Record Subnet Subnet :=
  (Record.start Subnet.mk)
    |>.required "SubnetId" .text (·.id)
    |>.required "VpcId" .text (·.vpc)
    |>.required "CidrBlock" Cidr.codec (·.cidr)
    |>.required "AvailabilityZone" .text (·.zone)
    |>.required "AvailableIpAddressCount" .word32 (·.availableAddresses)
    |>.required "State" .text (·.state)
    |>.required "OwnerId" .text (·.owner)

def SecurityGroup.record : Record SecurityGroup SecurityGroup :=
  (Record.start SecurityGroup.mk)
    |>.required "GroupId" .text (·.id)
    |>.required "GroupName" .text (·.name)
    |>.required "Description" .text (·.description)
    |>.required "VpcId" .text (·.vpc)
    |>.required "OwnerId" .text (·.owner)

structure Tagged (α : Type) where
  resource : α
  tags : List Tag

def Tagged.record {α : Type} (r : Record α α) : Record (Tagged α) (Tagged α) :=
  (r.within Tagged.resource Tagged.mk)
    |>.listOrEmpty "Tags" Tag.codec (·.tags)

end ControlPlane
