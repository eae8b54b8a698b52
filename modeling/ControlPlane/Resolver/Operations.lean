import ControlPlane.Resolver.Service

/-!
The operations of the name resolver service by name.
-/

namespace ControlPlane.ResolverService

abbrev Op := Operation Lookup ResolverService ResolverFault

def endpointAnswer : Codec Endpoint := .single "ResolverEndpoint" Endpoint.record.codec

def ruleAnswer : Codec ForwardingRule := .single "ResolverRule" ForwardingRule.record.codec

def associationAnswer : Codec RuleAssociation :=
  .single "ResolverRuleAssociation" RuleAssociation.record.codec

def createEndpointOp : Op where
  Input := CreateEndpoint
  Output := Endpoint
  input := CreateEndpoint.record.codec
  output := endpointAnswer
  run s at_ input := (s.createEndpoint at_ input).run

def getEndpointOp : Op :=
  .reading (.single "ResolverEndpointId" .text) endpointAnswer endpoint

def updateEndpointOp : Op :=
  .writing UpdateEndpoint.record.codec endpointAnswer updateEndpoint

def deleteEndpointOp : Op :=
  .writing (.single "ResolverEndpointId" .text) endpointAnswer fun s _ id => s.deleteEndpoint id

def listEndpointsOp : Op :=
  .reading ListRecords.record.codec
    (Listing.record "ResolverEndpoints" Endpoint.record.codec).codec listEndpoints

def listAddressesOp : Op :=
  .reading ListAddresses.record.codec
    (Listing.record "IpAddresses" EndpointAddress.record.codec).codec listAddresses

def associateAddressOp : Op where
  Input := ChangeAddress
  Output := Endpoint
  input := ChangeAddress.record.codec
  output := endpointAnswer
  run s at_ input := (s.associateAddress at_ input).run

def disassociateAddressOp : Op :=
  .writing ChangeAddress.record.codec endpointAnswer disassociateAddress

def createRuleOp : Op :=
  .writing CreateRule.record.codec ruleAnswer createRule

def getRuleOp : Op :=
  .reading (.single "ResolverRuleId" .text) ruleAnswer rule

def deleteRuleOp : Op :=
  .writing (.single "ResolverRuleId" .text) ruleAnswer fun s _ id => s.deleteRule id

def listRulesOp : Op :=
  .reading ListRecords.record.codec
    (Listing.record "ResolverRules" ForwardingRule.record.codec).codec listRules

def associateRuleOp : Op where
  Input := AssociateRule
  Output := RuleAssociation
  input := AssociateRule.record.codec
  output := associationAnswer
  run s at_ input := (s.associateRule at_ input).run

def disassociateRuleOp : Op :=
  .writing DisassociateRule.record.codec associationAnswer fun s _ input =>
    s.disassociateRule input

def getAssociationOp : Op :=
  .reading (.single "ResolverRuleAssociationId" .text) associationAnswer association

def listAssociationsOp : Op :=
  .reading ListRecords.record.codec
    (Listing.record "ResolverRuleAssociations" RuleAssociation.record.codec).codec
    listAssociations

def tagResourceOp : Op :=
  .writing TagByArn.record.codec .nothing fun s _ input => s.tagResource input

def untagResourceOp : Op :=
  .writing UntagByArn.record.codec .nothing fun s _ input => s.untagResource input

def listTagsOp : Op :=
  .reading ListTagsByArn.record.codec (Page.record "Tags" Tag.codec).codec listTags

def operations : Catalog Lookup ResolverService ResolverFault
  | "CreateResolverEndpoint" => some createEndpointOp
  | "GetResolverEndpoint" => some getEndpointOp
  | "UpdateResolverEndpoint" => some updateEndpointOp
  | "DeleteResolverEndpoint" => some deleteEndpointOp
  | "ListResolverEndpoints" => some listEndpointsOp
  | "ListResolverEndpointIpAddresses" => some listAddressesOp
  | "AssociateResolverEndpointIpAddress" => some associateAddressOp
  | "DisassociateResolverEndpointIpAddress" => some disassociateAddressOp
  | "CreateResolverRule" => some createRuleOp
  | "GetResolverRule" => some getRuleOp
  | "DeleteResolverRule" => some deleteRuleOp
  | "ListResolverRules" => some listRulesOp
  | "AssociateResolverRule" => some associateRuleOp
  | "DisassociateResolverRule" => some disassociateRuleOp
  | "GetResolverRuleAssociation" => some getAssociationOp
  | "ListResolverRuleAssociations" => some listAssociationsOp
  | "TagResource" => some tagResourceOp
  | "UntagResource" => some untagResourceOp
  | "ListTagsForResource" => some listTagsOp
  | _ => none

end ControlPlane.ResolverService
