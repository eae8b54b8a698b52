import ControlPlane.Fault
import ControlPlane.Page

/-!
What can go wrong in the name resolver service. Whatever the network says of something that is not
there is told in this service's own words.
-/

namespace ControlPlane

inductive ResolverFault where
  | validation (e : ValidationError)
  | invalidFilter (name : String)
  | unknownSubnet (id : String)
  | unknownVpc (id : String)
  | unknownGroup (id : String)
  | malformedGroup (id : String)
  | tooManyGroups
  | outOfSubnet (ip subnet : String)
  | noFreeAddress (subnet : String)
  | addressInUse (ip subnet : String)
  | tooFewAddresses
  | lastAddresses
  | subnetRequired
  | addressNotFound (label endpoint : String)
  | limitExceeded (account quota : String)
  | endpointExists (requestId : String)
  | endpointNotFound (id : String)
  | endpointInUse (rules : List String)
  | systemRule
  | invalidTarget (ip : String)
  | inboundEndpoint
  | ruleExists (requestId : String)
  | ruleNotFound (id : String)
  | ruleInUse
  | alreadyAssociated (rule vpc : String)
  | notAssociated (rule vpc : String)
  | associationNotFound (id : String)
  | invalidNextToken
  deriving Repr, DecidableEq

namespace ResolverFault

def message : ResolverFault → String
  | validation e => e.message
  | invalidFilter name => "The filter '" ++ name ++ "' is invalid"
  | unknownSubnet id => "The subnet ID '" ++ id ++ "' does not exist"
  | unknownVpc id => "The vpc ID '" ++ id ++ "' does not exist"
  | unknownGroup id => "The security group '" ++ id ++ "' does not exist"
  | malformedGroup id =>
    "Malformed security group ID: Invalid id: '" ++ id ++ "' (expecting 'sg-...')"
  | tooManyGroups => "Maximum of 10 security groups are allowed"
  | outOfSubnet ip subnet =>
    "IP address '" ++ ip ++ "' is either not in subnet '" ++ subnet
      ++ "' CIDR range or is reserved"
  | noFreeAddress subnet => "Subnet '" ++ subnet ++ "' has no free IP addresses"
  | addressInUse ip subnet =>
    "The IP address '" ++ ip ++ "' in subnet '" ++ subnet ++ "' is already in use"
  | tooFewAddresses => "Resolver endpoint needs to have at least 2 IP addresses"
  | lastAddresses => "The resolver endpoint needs to have at least 2 IP addresses"
  | subnetRequired => "[RSLVR-00503] Need to specify SubnetId."
  | addressNotFound label endpoint =>
    "The IP address '" ++ label ++ "' does not exist for resolver endpoint '" ++ endpoint ++ "'"
  | limitExceeded account quota => "Account '" ++ account ++ "' has exceeded '" ++ quota ++ "'"
  | endpointExists requestId =>
    "Resolver endpoint with creator request ID '" ++ requestId ++ "' already exists"
  | endpointNotFound id => "Resolver endpoint with ID '" ++ id ++ "' does not exist"
  | endpointInUse rules =>
    "Cannot delete resolver endpoint unless its related resolver rules are deleted. "
      ++ "The following rules still use this resolver endpoint: " ++ String.intercalate ", " rules
  | systemRule => "Cannot specify TargetIps or ResolverEndpointId for SYSTEM rules"
  | invalidTarget ip => "Invalid IP address '" ++ ip ++ "' in TargetIps"
  | inboundEndpoint => "Cannot associate rules with resolver endpoint of INBOUND direction"
  | ruleExists requestId =>
    "Resolver rule with creator request ID '" ++ requestId ++ "' already exists"
  | ruleNotFound id => "Resolver rule with ID '" ++ id ++ "' does not exist"
  | ruleInUse => "Please disassociate this resolver rule from VPC first before deleting"
  | alreadyAssociated rule vpc =>
    "The resolver rule '" ++ rule ++ "' is already associated with the VPC '" ++ vpc ++ "'"
  | notAssociated rule vpc =>
    "Resolver Rule Association between Resolver Rule '" ++ rule ++ "' and VPC '" ++ vpc
      ++ "' does not exist"
  | associationNotFound id => "ResolverRuleAssociation '" ++ id ++ "' does not Exist"
  | invalidNextToken => InvalidNextToken.message

def code : ResolverFault → String
  | validation _ => "ValidationException"
  | invalidFilter _ | unknownSubnet _ | unknownVpc _ | malformedGroup _ | tooManyGroups
  | invalidTarget _ => "InvalidParameterException"
  | outOfSubnet _ _ | noFreeAddress _ | tooFewAddresses | lastAddresses | subnetRequired
  | endpointInUse _ | systemRule | inboundEndpoint | alreadyAssociated _ _ =>
    "InvalidRequestException"
  | addressInUse _ _ | endpointExists _ | ruleExists _ => "ResourceExistsException"
  | limitExceeded _ _ => "LimitExceededException"
  | ruleInUse => "ResourceInUseException"
  | unknownGroup _ | addressNotFound _ _ | endpointNotFound _ | ruleNotFound _
  | notAssociated _ _ | associationNotFound _ => "ResourceNotFoundException"
  | invalidNextToken => "InvalidNextTokenException"

end ResolverFault

instance : Fault ResolverFault where
  code := ResolverFault.code
  message := ResolverFault.message
  status _ := ServiceError.badRequest

end ControlPlane
