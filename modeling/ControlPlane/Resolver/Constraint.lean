import ControlPlane.Resolver.Input
import ControlPlane.Validation.Rule

/-!
The constraints of the name resolver service. The documented pattern of names looks ahead; what it
accepts is stated directly.
-/

namespace ControlPlane.ResolverConstraint

def directions : List String := [inbound, outbound]

def ruleTypes : List String := ["FORWARD", "SYSTEM", "RECURSIVE"]

def maxAddresses : Nat := 10

def greatestPort : Nat := 65535

def isNameChar (c : Char) : Bool := c.isAlphanum || "-_' ".toList.contains c

/-- Letters, digits, hyphens, underscores, apostrophes and blanks, but not digits alone. -/
def isAllowedName (value : String) : Bool :=
  let cs := value.toList
  !cs.isEmpty && !cs.all Char.isDigit && cs.all isNameChar

def namePattern : Pattern where
  source := "^(?!^[0-9]+$)([a-zA-Z0-9-_' ']+)$"
  accepts := isAllowedName

def nameChecks (name : Option String) : List Check :=
  Check.ofOption "name" name (.lengthAtMost 64)
    ++ Check.ofOption "name" name (.satisfies namePattern)

def idCheck (field id : String) : Check := .of field id (.lengthAtMost 64)

def maxResultsChecks (n : Option Nat) : List Check :=
  Check.ofOption "maxResults" n (.valueAtLeast 1)
    ++ Check.ofOption "maxResults" n (.valueAtMost 100)

def endpointChecks (input : CreateEndpoint) : List Check :=
  [.of "creatorRequestId" input.requestId (.lengthAtMost 255),
    .of "direction" input.direction (.memberOf directions),
    .ofJson "ipAddresses" AddressRequest.record.codec input.addresses (.itemsAtMost maxAddresses)]
    ++ nameChecks input.name
    ++ input.groups.map (fun id => .of "securityGroupIds" id (.lengthAtMost 64))
    ++ input.addresses.map (fun a => .of "ipAddresses.subnetId" a.subnet (.lengthAtMost 32))

def ruleChecks (input : CreateRule) : List Check :=
  [.of "creatorRequestId" input.requestId (.lengthAtMost 255)]
    ++ nameChecks input.name
    ++ [.of "ruleType" input.type (.memberOf ruleTypes),
      .of "domainName" input.domain (.lengthAtLeast 1),
      .of "domainName" input.domain (.lengthAtMost 256)]
    ++ input.targets.map (fun t => .of "targetIps.port" t.port (.valueAtMost greatestPort))
    ++ Check.ofOption "resolverEndpointId" input.endpoint (.lengthAtMost 64)

def associationChecks (input : AssociateRule) : List Check :=
  idCheck "resolverRuleId" input.rule :: nameChecks input.name ++ [idCheck "vPCId" input.vpc]

end ControlPlane.ResolverConstraint
