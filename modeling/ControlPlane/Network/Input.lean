import ControlPlane.Network.Record

/-!
What the operations of the network service are asked. Inputs that consist of one identifier or of a
list of identifiers have no type of their own.
-/

namespace ControlPlane

structure Filter where
  name : String
  values : List String
  deriving Repr, DecidableEq

def Filter.record : Record Filter Filter :=
  (Record.start Filter.mk)
    |>.required "Name" .text (·.name)
    |>.listOrEmpty "Values" .text (·.values)

structure CreateSubnet where
  vpc : String
  cidr : String
  zone : Option String
  deriving Repr, DecidableEq

def CreateSubnet.record : Record CreateSubnet CreateSubnet :=
  (Record.start CreateSubnet.mk)
    |>.required "VpcId" .text (·.vpc)
    |>.required "CidrBlock" .text (·.cidr)
    |>.nullable "AvailabilityZone" .text (·.zone)

structure DescribeSubnets where
  ids : List String
  filters : List Filter
  deriving Repr, DecidableEq

def DescribeSubnets.record : Record DescribeSubnets DescribeSubnets :=
  (Record.start DescribeSubnets.mk)
    |>.listOrEmpty "SubnetIds" .text (·.ids)
    |>.listOrEmpty "Filters" Filter.record.codec (·.filters)

structure CreateSecurityGroup where
  name : String
  description : String
  vpc : String
  deriving Repr, DecidableEq

def CreateSecurityGroup.record : Record CreateSecurityGroup CreateSecurityGroup :=
  (Record.start CreateSecurityGroup.mk)
    |>.required "GroupName" .text (·.name)
    |>.required "Description" .text (·.description)
    |>.required "VpcId" .text (·.vpc)

structure ResourceTags where
  resources : List String
  tags : List Tag
  deriving Repr, DecidableEq

def ResourceTags.createRecord : Record ResourceTags ResourceTags :=
  (Record.start ResourceTags.mk)
    |>.required "Resources" (.list .text) (·.resources)
    |>.required "Tags" (.list Tag.codec) (·.tags)

/-- When tags are taken away, no tags at all stand for all of them. -/
def ResourceTags.deleteRecord : Record ResourceTags ResourceTags :=
  (Record.start ResourceTags.mk)
    |>.required "Resources" (.list .text) (·.resources)
    |>.listOrEmpty "Tags" Tag.codec (·.tags)

end ControlPlane
