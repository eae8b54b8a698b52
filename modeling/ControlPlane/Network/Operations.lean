import ControlPlane.Network.Service

/-!
The operations of the network service by name.
-/

namespace ControlPlane.NetworkService

def acknowledgement : Codec Unit where
  encode _ := .obj [("Return", .bool true)]
  decode j := ((Codec.single "Return" .flag).decode j).map fun _ => ()

abbrev Op := Operation Id NetworkService NetworkFault

def createVpcOp : Op :=
  .writing (.single "CidrBlock" .text) (.single "Vpc" Vpc.record.codec) createVpc

def describeVpcsOp : Op :=
  .reading (.singleList "VpcIds" .text)
    (.single "Vpcs" (.list (Tagged.record Vpc.record).codec)) describeVpcs

def deleteVpcOp : Op :=
  .writing (.single "VpcId" .text) acknowledgement fun s _ id => s.deleteVpc id

def createSubnetOp : Op :=
  .writing CreateSubnet.record.codec (.single "Subnet" Subnet.record.codec) createSubnet

def describeSubnetsOp : Op :=
  .reading DescribeSubnets.record.codec
    (.single "Subnets" (.list (Tagged.record Subnet.record).codec)) describeSubnets

def deleteSubnetOp : Op :=
  .writing (.single "SubnetId" .text) acknowledgement fun s _ id => s.deleteSubnet id

def createSecurityGroupOp : Op :=
  .writing CreateSecurityGroup.record.codec (.single "GroupId" .text) fun s at_ input =>
    (s.createSecurityGroup at_ input).map fun (g, s') => (g.id, s')

def describeSecurityGroupsOp : Op :=
  .reading (.singleList "GroupIds" .text)
    (.single "SecurityGroups" (.list (Tagged.record SecurityGroup.record).codec))
    describeSecurityGroups

def deleteSecurityGroupOp : Op :=
  .writing (.single "GroupId" .text) acknowledgement fun s _ id => s.deleteSecurityGroup id

def createTagsOp : Op :=
  .writing ResourceTags.createRecord.codec acknowledgement fun s _ input => s.createTags input

def deleteTagsOp : Op :=
  .writing ResourceTags.deleteRecord.codec acknowledgement fun s _ input => s.deleteTags input

def operations : Catalog Id NetworkService NetworkFault
  | "CreateVpc" => some createVpcOp
  | "DescribeVpcs" => some describeVpcsOp
  | "DeleteVpc" => some deleteVpcOp
  | "CreateSubnet" => some createSubnetOp
  | "DescribeSubnets" => some describeSubnetsOp
  | "DeleteSubnet" => some deleteSubnetOp
  | "CreateSecurityGroup" => some createSecurityGroupOp
  | "DescribeSecurityGroups" => some describeSecurityGroupsOp
  | "DeleteSecurityGroup" => some deleteSecurityGroupOp
  | "CreateTags" => some createTagsOp
  | "DeleteTags" => some deleteTagsOp
  | _ => none

end ControlPlane.NetworkService
