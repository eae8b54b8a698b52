import ControlPlane.Fault
import ControlPlane.Page

/-!
What can go wrong in the directory service. Whatever the network says of a cloud or a subnet that
is not there is told in this service's own words.
-/

namespace ControlPlane

inductive DirectoryFault where
  | validation (e : ValidationError)
  | vpcSettingsMissing
  | connectSettingsMissing
  | invalidSubnets
  | sameZone
  | invalidVpc
  | straySubnet (subnet vpc : String)
  | noFreeAddress (subnet : String)
  | directoryLimit (limit : Nat)
  | tagLimit
  | notFound (id : String)
  | aliasPresent
  | aliasTaken (name : String)
  | aliasRequired (id : String)
  | invalidNextToken
  deriving Repr, DecidableEq

namespace DirectoryFault

def message : DirectoryFault → String
  | validation e => e.message
  | vpcSettingsMissing => "VpcSettings must be specified."
  | connectSettingsMissing => "ConnectSettings must be specified."
  | invalidSubnets =>
    "Invalid subnet ID(s). They must correspond to two subnets in different Availability Zones."
  | sameZone =>
    "Invalid subnet ID(s). The two subnets must be in different Availability Zones."
  | invalidVpc => "Invalid VPC ID."
  | straySubnet subnet vpc =>
    "Invalid subnet ID(s). Subnet " ++ subnet ++ " does not belong to VPC " ++ vpc ++ "."
  | noFreeAddress subnet => "Insufficient free addresses in subnet " ++ subnet ++ "."
  | directoryLimit limit =>
    "Directory limit exceeded. A maximum of " ++ toString limit ++ " directories may be created"
  | tagLimit => "Tag Limit is exceeding"
  | notFound id => "Directory " ++ id ++ " does not exist"
  | aliasPresent =>
    "The directory in the request already has an alias. "
      ++ "That alias must be deleted before a new alias can be created."
  | aliasTaken name => "Alias '" ++ name ++ "' already exists."
  | aliasRequired id => "An alias is required before enabling SSO. DomainId=" ++ id
  | invalidNextToken => InvalidNextToken.message

def code : DirectoryFault → String
  | validation _ => "ValidationException"
  | vpcSettingsMissing | connectSettingsMissing | invalidSubnets | aliasPresent =>
    "InvalidParameterException"
  | sameZone | invalidVpc | straySubnet _ _ | noFreeAddress _ | aliasRequired _ =>
    "ClientException"
  | directoryLimit _ => "DirectoryLimitExceededException"
  | tagLimit => "TagLimitExceededException"
  | notFound _ => "EntityDoesNotExistException"
  | aliasTaken _ => "EntityAlreadyExistsException"
  | invalidNextToken => "InvalidNextTokenException"

end DirectoryFault

instance : Fault DirectoryFault where
  code := DirectoryFault.code
  message := DirectoryFault.message
  status _ := ServiceError.badRequest

end ControlPlane
