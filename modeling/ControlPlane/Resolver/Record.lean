import ControlPlane.Network.Record
import ControlPlane.Timestamp.Reader

/-!
What the name resolver service keeps: endpoints with the addresses they hold in their subnets, rules
that forward a domain, and associations of rules with clouds.
-/

namespace ControlPlane

def inbound : String := "INBOUND"
def outbound : String := "OUTBOUND"

structure EndpointAddress where
  id : String
  subnet : String
  ip : String
  status : String
  statusMessage : String
  creationTime : Timestamp
  modificationTime : Timestamp
  deriving Repr, DecidableEq

def EndpointAddress.record : Record EndpointAddress EndpointAddress :=
  (Record.start EndpointAddress.mk)
    |>.required "IpId" .text (·.id)
    |>.required "SubnetId" .text (·.subnet)
    |>.required "Ip" .text (·.ip)
    |>.required "Status" .text (·.status)
    |>.required "StatusMessage" .text (·.statusMessage)
    |>.required "CreationTime" Timestamp.codec (·.creationTime)
    |>.required "ModificationTime" Timestamp.codec (·.modificationTime)

structure Endpoint where
  id : String
  requestId : String
  arn : String
  name : Option String
  groups : List String
  direction : String
  addressCount : Nat
  vpc : String
  status : String
  statusMessage : String
  creationTime : Timestamp
  modificationTime : Timestamp
  addresses : List EndpointAddress
  deriving Repr, DecidableEq

/-- The addresses are not shown with the endpoint; they have a listing of their own. -/
def Endpoint.record : Record Endpoint Endpoint :=
  (Record.start Endpoint.mk)
    |>.required "Id" .text (·.id)
    |>.required "CreatorRequestId" .text (·.requestId)
    |>.required "Arn" .text (·.arn)
    |>.optional "Name" .text (·.name)
    |>.required "SecurityGroupIds" (.list .text) (·.groups)
    |>.required "Direction" .text (·.direction)
    |>.required "IpAddressCount" .word64 (·.addressCount)
    |>.required "HostVPCId" .text (·.vpc)
    |>.required "Status" .text (·.status)
    |>.required "StatusMessage" .text (·.statusMessage)
    |>.required "CreationTime" Timestamp.codec (·.creationTime)
    |>.required "ModificationTime" Timestamp.codec (·.modificationTime)
    |>.hidden []

structure TargetAddress where
  ip : String
  port : Nat
  deriving Repr, DecidableEq

def TargetAddress.record : Record TargetAddress TargetAddress :=
  (Record.start TargetAddress.mk)
    |>.required "Ip" .text (·.ip)
    |>.defaulted "Port" .word32 53 (·.port)

structure ForwardingRule where
  id : String
  requestId : String
  arn : String
  domain : String
  status : String
  statusMessage : String
  type : String
  name : Option String
  targets : List TargetAddress
  endpoint : Option String
  owner : String
  shareStatus : String
  creationTime : Timestamp
  modificationTime : Timestamp
  deriving Repr, DecidableEq

def ForwardingRule.record : Record ForwardingRule ForwardingRule :=
  (Record.start ForwardingRule.mk)
    |>.required "Id" .text (·.id)
    |>.required "CreatorRequestId" .text (·.requestId)
    |>.required "Arn" .text (·.arn)
    |>.required "DomainName" .text (·.domain)
    |>.required "Status" .text (·.status)
    |>.required "StatusMessage" .text (·.statusMessage)
    |>.required "RuleType" .text (·.type)
    |>.optional "Name" .text (·.name)
    |>.listUnlessEmpty "TargetIps" TargetAddress.record.codec (·.targets)
    |>.optional "ResolverEndpointId" .text (·.endpoint)
    |>.required "OwnerId" .text (·.owner)
    |>.required "ShareStatus" .text (·.shareStatus)
    |>.required "CreationTime" Timestamp.codec (·.creationTime)
    |>.required "ModificationTime" Timestamp.codec (·.modificationTime)

structure RuleAssociation where
  id : String
  rule : String
  name : Option String
  vpc : String
  status : String
  statusMessage : String
  deriving Repr, DecidableEq

def RuleAssociation.record : Record RuleAssociation RuleAssociation :=
  (Record.start RuleAssociation.mk)
    |>.required "Id" .text (·.id)
    |>.required "ResolverRuleId" .text (·.rule)
    |>.optional "Name" .text (·.name)
    |>.required "VPCId" .text (·.vpc)
    |>.required "Status" .text (·.status)
    |>.required "StatusMessage" .text (·.statusMessage)

instance : Keyed Endpoint := ⟨Endpoint.id⟩
instance : Keyed ForwardingRule := ⟨ForwardingRule.id⟩
instance : Keyed RuleAssociation := ⟨RuleAssociation.id⟩

structure ResolverQuotas where
  endpoints : Nat
  rules : Nat
  associations : Nat
  tagsPerResource : Nat
  deriving Repr, DecidableEq

namespace ResolverQuotas

def standard : ResolverQuotas := ⟨4, 1000, 2000, 200⟩

def record : Record ResolverQuotas ResolverQuotas :=
  (Record.start ResolverQuotas.mk)
    |>.defaulted "endpoints" .word64 standard.endpoints (·.endpoints)
    |>.defaulted "rules" .word64 standard.rules (·.rules)
    |>.defaulted "rule_associations" .word64 standard.associations (·.associations)
    |>.defaulted "tags_per_resource" .word64 standard.tagsPerResource (·.tagsPerResource)

end ResolverQuotas

end ControlPlane
