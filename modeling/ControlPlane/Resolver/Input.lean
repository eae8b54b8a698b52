import ControlPlane.Network.Input
import ControlPlane.Page
import ControlPlane.Resolver.Record

/-!
What the operations of the name resolver service are asked, and the pages that its listings answer.
-/

namespace ControlPlane

/-- A wish for an address in a subnet, any free one if none is named. -/
structure AddressRequest where
  subnet : String
  ip : Option String
  deriving Repr, DecidableEq

def AddressRequest.record : Record AddressRequest AddressRequest :=
  (Record.start AddressRequest.mk)
    |>.required "SubnetId" .text (·.subnet)
    |>.optional "Ip" .text (·.ip)

structure CreateEndpoint where
  requestId : String
  name : Option String
  groups : List String
  direction : String
  addresses : List AddressRequest
  tags : List Tag
  deriving Repr, DecidableEq

def CreateEndpoint.record : Record CreateEndpoint CreateEndpoint :=
  (Record.start CreateEndpoint.mk)
    |>.required "CreatorRequestId" .text (·.requestId)
    |>.optional "Name" .text (·.name)
    |>.listOrEmpty "SecurityGroupIds" .text (·.groups)
    |>.required "Direction" .text (·.direction)
    |>.listOrEmpty "IpAddresses" AddressRequest.record.codec (·.addresses)
    |>.listOrEmpty "Tags" Tag.codec (·.tags)

structure UpdateEndpoint where
  endpoint : String
  name : Option String
  deriving Repr, DecidableEq

def UpdateEndpoint.record : Record UpdateEndpoint UpdateEndpoint :=
  (Record.start UpdateEndpoint.mk)
    |>.required "ResolverEndpointId" .text (·.endpoint)
    |>.optional "Name" .text (·.name)

/-- One address of an endpoint, by its id or by its subnet and address. -/
structure AddressUpdate where
  id : Option String
  subnet : Option String
  ip : Option String
  deriving Repr, DecidableEq

def AddressUpdate.record : Record AddressUpdate AddressUpdate :=
  (Record.start AddressUpdate.mk)
    |>.optional "IpId" .text (·.id)
    |>.optional "SubnetId" .text (·.subnet)
    |>.optional "Ip" .text (·.ip)

structure ChangeAddress where
  endpoint : String
  address : AddressUpdate
  deriving Repr, DecidableEq

def ChangeAddress.record : Record ChangeAddress ChangeAddress :=
  (Record.start ChangeAddress.mk)
    |>.required "ResolverEndpointId" .text (·.endpoint)
    |>.required "IpAddress" AddressUpdate.record.codec (·.address)

structure CreateRule where
  requestId : String
  name : Option String
  type : String
  domain : String
  targets : List TargetAddress
  endpoint : Option String
  tags : List Tag
  deriving Repr, DecidableEq

def CreateRule.record : Record CreateRule CreateRule :=
  (Record.start CreateRule.mk)
    |>.required "CreatorRequestId" .text (·.requestId)
    |>.optional "Name" .text (·.name)
    |>.required "RuleType" .text (·.type)
    |>.required "DomainName" .text (·.domain)
    |>.listOrEmpty "TargetIps" TargetAddress.record.codec (·.targets)
    |>.optional "ResolverEndpointId" .text (·.endpoint)
    |>.listOrEmpty "Tags" Tag.codec (·.tags)

structure AssociateRule where
  rule : String
  name : Option String
  vpc : String
  deriving Repr, DecidableEq

def AssociateRule.record : Record AssociateRule AssociateRule :=
  (Record.start AssociateRule.mk)
    |>.required "ResolverRuleId" .text (·.rule)
    |>.optional "Name" .text (·.name)
    |>.required "VPCId" .text (·.vpc)

structure DisassociateRule where
  vpc : String
  rule : String
  deriving Repr, DecidableEq

def DisassociateRule.record : Record DisassociateRule DisassociateRule :=
  (Record.start DisassociateRule.mk)
    |>.required "VPCId" .text (·.vpc)
    |>.required "ResolverRuleId" .text (·.rule)

structure ListRecords where
  maxResults : Option Nat
  nextToken : Option String
  filters : List Filter
  deriving Repr, DecidableEq

def ListRecords.record : Record ListRecords ListRecords :=
  (Record.start ListRecords.mk)
    |>.optional "MaxResults" .word32 (·.maxResults)
    |>.optional "NextToken" .text (·.nextToken)
    |>.listOrEmpty "Filters" Filter.record.codec (·.filters)

structure ListAddresses where
  endpoint : String
  maxResults : Option Nat
  nextToken : Option String
  deriving Repr, DecidableEq

def ListAddresses.record : Record ListAddresses ListAddresses :=
  (Record.start ListAddresses.mk)
    |>.required "ResolverEndpointId" .text (·.endpoint)
    |>.optional "MaxResults" .word32 (·.maxResults)
    |>.optional "NextToken" .text (·.nextToken)

structure TagByArn where
  arn : String
  tags : List Tag
  deriving Repr, DecidableEq

def TagByArn.record : Record TagByArn TagByArn :=
  (Record.start TagByArn.mk)
    |>.required "ResourceArn" .text (·.arn)
    |>.required "Tags" (.list Tag.codec) (·.tags)

structure UntagByArn where
  arn : String
  keys : List String
  deriving Repr, DecidableEq

def UntagByArn.record : Record UntagByArn UntagByArn :=
  (Record.start UntagByArn.mk)
    |>.required "ResourceArn" .text (·.arn)
    |>.required "TagKeys" (.list .text) (·.keys)

structure ListTagsByArn where
  arn : String
  maxResults : Option Nat
  nextToken : Option String
  deriving Repr, DecidableEq

def ListTagsByArn.record : Record ListTagsByArn ListTagsByArn :=
  (Record.start ListTagsByArn.mk)
    |>.required "ResourceArn" .text (·.arn)
    |>.optional "MaxResults" .word32 (·.maxResults)
    |>.optional "NextToken" .text (·.nextToken)

structure Listing (α : Type) where
  page : Page α
  maxResults : Nat
  deriving Repr

def Listing.record {α : Type} (name : String) (c : Codec α) : Record (Listing α) (Listing α) :=
  (Record.start fun next maxResults items => (⟨⟨items, next⟩, maxResults⟩ : Listing α))
    |>.optional "NextToken" .text (·.page.next)
    |>.required "MaxResults" .word32 (·.maxResults)
    |>.required name (.list c) (·.page.items)

end ControlPlane
