import ControlPlane.Fault

/-!
What can go wrong in the network service. The three failures to find something are the only ones
that other services see.
-/

namespace ControlPlane

inductive NetworkFault where
  | vpcNotFound (id : String)
  | subnetNotFound (id : String)
  | securityGroupNotFound (id : String)
  | duplicateSecurityGroup (name vpc : String)
  | invalidCidr (cidr : String)
  | invalidZone (zone : String) (valid : List String)
  | vpcRange (cidr : String)
  | subnetRange (cidr : String)
  | subnetConflict (cidr : String)
  | dependencyViolation (vpc : String)
  | invalidId (id : String)
  deriving Repr, DecidableEq

namespace NetworkFault

def message : NetworkFault → String
  | vpcNotFound id => "The vpc ID '" ++ id ++ "' does not exist"
  | subnetNotFound id => "The subnet ID '" ++ id ++ "' does not exist"
  | securityGroupNotFound id => "The security group '" ++ id ++ "' does not exist"
  | duplicateSecurityGroup name vpc =>
    "The security group '" ++ name ++ "' already exists for VPC '" ++ vpc ++ "'"
  | invalidCidr cidr =>
    "Value (" ++ cidr ++ ") for parameter cidrBlock is invalid. This is not a valid CIDR block."
  | invalidZone zone valid =>
    "Value (" ++ zone ++ ") for parameter availabilityZone is invalid. Subnets can currently only "
      ++ "be created in the following availability zones: " ++ String.intercalate ", " valid ++ "."
  | vpcRange cidr | subnetRange cidr => "The CIDR '" ++ cidr ++ "' is invalid."
  | subnetConflict cidr => "The CIDR '" ++ cidr ++ "' conflicts with another subnet"
  | dependencyViolation vpc =>
    "The vpc '" ++ vpc ++ "' has dependencies and cannot be deleted."
  | invalidId id => "The ID '" ++ id ++ "' is not valid"

def code : NetworkFault → String
  | vpcNotFound _ => "InvalidVpcID.NotFound"
  | subnetNotFound _ => "InvalidSubnetID.NotFound"
  | securityGroupNotFound _ => "InvalidGroup.NotFound"
  | duplicateSecurityGroup _ _ => "InvalidGroup.Duplicate"
  | invalidCidr _ | invalidZone _ _ => "InvalidParameterValue"
  | vpcRange _ => "InvalidVpc.Range"
  | subnetRange _ => "InvalidSubnet.Range"
  | subnetConflict _ => "InvalidSubnet.Conflict"
  | dependencyViolation _ => "DependencyViolation"
  | invalidId _ => "InvalidID"

end NetworkFault

instance : Fault NetworkFault where
  code := NetworkFault.code
  message := NetworkFault.message
  status _ := ServiceError.badRequest

end ControlPlane
