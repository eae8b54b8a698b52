import ControlPlane.Network.Lookup
import ControlPlane.Resolver.Constraint
import ControlPlane.Resolver.Filtering
import ControlPlane.Text.Ascii

/-!
The name resolver service of one region. An endpoint holds two to ten addresses in subnets of the
network, each free at the time it was taken; a rule may forward through an outbound endpoint, and
is tied to clouds by associations. What others still depend on cannot be deleted. Tags are kept by
resource name.
-/

namespace ControlPlane

structure ResolverService where
  scope : Scope
  quotas : ResolverQuotas
  endpoints : Registry Endpoint
  rules : Registry ForwardingRule
  associations : Registry RuleAssociation
  tags : TagStore

namespace ResolverService

open ResolverConstraint

def empty (scope : Scope) (quotas : ResolverQuotas) : ResolverService :=
  { scope := scope, quotas := quotas, endpoints := .empty, rules := .empty,
    associations := .empty, tags := .empty }

def idDigits : Nat := 17
def minAddresses : Nat := 2
def maxGroups : Nat := 10
def defaultMaxResults : Nat := 10

def limitFault (s : ResolverService) (quota : String) : ResolverFault :=
  .limitExceeded s.scope.account quota

def arn (s : ResolverService) (resource : String) : String :=
  s.scope.arn "route53resolver" resource

def lift {α : Type} (r : Except ResolverFault α) : ExceptT ResolverFault Lookup α :=
  ExceptT.mk (pure r)

def runChecks (cs : List Check) : Except ResolverFault Unit :=
  (validate cs).mapError .validation

def acceptTags (s : ResolverService) (tags : List Tag) : Except ResolverFault Unit :=
  (Tag.validate tags s.quotas.tagsPerResource).mapError .validation

def endpoint (s : ResolverService) (id : String) : Except ResolverFault Endpoint := do
  runChecks [idCheck "resolverEndpointId" id]
  match s.endpoints.get? id with
  | some e => return e
  | none => throw (.endpointNotFound id)

def rule (s : ResolverService) (id : String) : Except ResolverFault ForwardingRule := do
  runChecks [idCheck "resolverRuleId" id]
  match s.rules.get? id with
  | some r => return r
  | none => throw (.ruleNotFound id)

def association (s : ResolverService) (id : String) : Except ResolverFault RuleAssociation := do
  runChecks [idCheck "resolverRuleAssociationId" id]
  match s.associations.get? id with
  | some a => return a
  | none => throw (.associationNotFound id)

def heldAddresses (s : ResolverService) : List (String × String) :=
  (s.endpoints.records.flatMap (·.addresses)).map fun a => (a.subnet, a.ip)

/-- The address that a request gets in a subnet: the one it names, which must be a host address of
the subnet, or the first host address that is not taken. -/
def chooseAddress (taken : List (String × String)) (n : Subnet) :
    Option String → Except ResolverFault String
  | some ip =>
    match Ipv4.parse? ip with
    | some a => if n.cidr.isHost a then .ok ip else .error (.outOfSubnet ip n.id)
    | none => .error (.outOfSubnet ip n.id)
  | none =>
    match n.cidr.findHost fun a => !taken.contains (n.id, a.text) with
    | some a => .ok a.text
    | none => .error (.noFreeAddress n.id)

def settle (taken : List (String × String)) (n : Subnet) (ip : Option String) :
    Except ResolverFault String := do
  let chosen ← chooseAddress taken n ip
  if taken.contains (n.id, chosen) then throw (.addressInUse chosen n.id)
  return chosen

/-- One request after the other; an address that one request gets is taken for the next. -/
def assign (taken : List (String × String)) :
    List AddressRequest → ExceptT ResolverFault Lookup (List (Subnet × String))
  | [] => return []
  | request :: rest => do
    let n ← (Lookup.askSubnet request.subnet).orElseFail
      (ResolverFault.unknownSubnet request.subnet)
    let ip ← lift (settle taken n request.ip)
    let others ← assign ((n.id, ip) :: taken) rest
    return (n, ip) :: others

def attach (id : String) (now : Timestamp) (subnet ip : String) : EndpointAddress :=
  { id := id
    subnet := subnet
    ip := ip
    status := "ATTACHED"
    statusMessage := "This IP address is operational."
    creationTime := now
    modificationTime := now }

def attachAll (now : Timestamp) :
    List (Subnet × String) → List Nat → List EndpointAddress × List Nat
  | [], draws => ([], draws)
  | (n, ip) :: rest, draws =>
    let (id, draws) := Identifier.next "rni" idDigits draws
    let (others, draws) := attachAll now rest draws
    (attach id now n.id ip :: others, draws)

def withAddresses (e : Endpoint) (now : Timestamp) (addresses : List EndpointAddress) : Endpoint :=
  { e with
    addresses := addresses, addressCount := addresses.length, modificationTime := now }

/-! ### Endpoints -/

def acceptGroup (id : String) : ExceptT ResolverFault Lookup Unit := do
  if !Text.startsWith "sg-" id then throw (.malformedGroup id)
  let _ ← (Lookup.askSecurityGroup id).orElseFail (ResolverFault.unknownGroup id)

def acceptEachGroup : List String → ExceptT ResolverFault Lookup Unit
  | [] => return ()
  | id :: rest => do
    acceptGroup id
    acceptEachGroup rest

def acceptGroups (ids : List String) : ExceptT ResolverFault Lookup Unit := do
  if ids.length > maxGroups then throw .tooManyGroups
  acceptEachGroup ids

def acceptEndpoint (s : ResolverService) (input : CreateEndpoint) : Except ResolverFault Unit := do
  runChecks (endpointChecks input)
  s.acceptTags input.tags

def endpointKind (direction : String) : String :=
  if direction = inbound then "rslvr-in" else "rslvr-out"

def registerEndpoint (s : ResolverService) (at_ : Moment) (input : CreateEndpoint)
    (assigned : List (Subnet × String)) : Endpoint × ResolverService :=
  let (addresses, draws) := attachAll at_.now assigned at_.draws
  let id := (Identifier.fresh s.endpoints (endpointKind input.direction) idDigits draws).1
  let e : Endpoint :=
    { id := id
      requestId := input.requestId
      arn := s.arn ("resolver-endpoint/" ++ id)
      name := input.name
      groups := input.groups
      direction := input.direction
      addressCount := addresses.length
      vpc := (assigned.head?.map fun p => p.1.vpc).getD ""
      status := "OPERATIONAL"
      statusMessage := "This Resolver Endpoint is operational."
      creationTime := at_.now
      modificationTime := at_.now
      addresses := addresses }
  (e, { s with endpoints := s.endpoints.insert e, tags := s.tags.tag e.arn input.tags })

def createEndpoint (s : ResolverService) (at_ : Moment) (input : CreateEndpoint) :
    ExceptT ResolverFault Lookup (Endpoint × ResolverService) := do
  lift (s.acceptEndpoint input)
  if s.quotas.endpoints ≤ s.endpoints.size then throw (s.limitFault "max-endpoints")
  if input.addresses.length < minAddresses then throw .tooFewAddresses
  let assigned ← assign s.heldAddresses input.addresses
  acceptGroups input.groups
  if (s.endpoints.find? fun e => e.requestId == input.requestId).isSome then
    throw (.endpointExists input.requestId)
  return s.registerEndpoint at_ input assigned

def replaceEndpoint (s : ResolverService) (e : Endpoint) : Endpoint × ResolverService :=
  (e, { s with endpoints := s.endpoints.insert e })

def updateEndpoint (s : ResolverService) (at_ : Moment) (input : UpdateEndpoint) :
    Except ResolverFault (Endpoint × ResolverService) := do
  runChecks (idCheck "resolverEndpointId" input.endpoint :: nameChecks input.name)
  let e ← s.endpoint input.endpoint
  return s.replaceEndpoint
    { e with name := input.name.orElse fun _ => e.name, modificationTime := at_.now }

def rulesOf (s : ResolverService) (id : String) : List ForwardingRule :=
  s.rules.list fun r => r.endpoint == some id

/-- The answer shows the endpoint as it was, on its way out. -/
def deleteEndpoint (s : ResolverService) (id : String) :
    Except ResolverFault (Endpoint × ResolverService) := do
  let e ← s.endpoint id
  let users := s.rulesOf id
  if users ≠ [] then throw (.endpointInUse (users.map (·.id)))
  return ({ e with status := "DELETING", statusMessage := "Deleting the Resolver Endpoint" },
    { s with endpoints := s.endpoints.remove id, tags := s.tags.clear e.arn })

def associateAddress (s : ResolverService) (at_ : Moment) (input : ChangeAddress) :
    ExceptT ResolverFault Lookup (Endpoint × ResolverService) := do
  let e ← lift (s.endpoint input.endpoint)
  match input.address.subnet with
  | none => throw .subnetRequired
  | some subnet =>
    if maxAddresses ≤ e.addresses.length then
      throw (s.limitFault "max-ip-addresses-per-endpoint")
    let assigned ← assign s.heldAddresses [⟨subnet, input.address.ip⟩]
    let new := (attachAll at_.now assigned at_.draws).1
    return s.replaceEndpoint (withAddresses e at_.now (e.addresses ++ new))

/-- Whether an address is the one meant: by its id if there is one, or else by its text and, if
given, its subnet. -/
def isMeant (wanted : AddressUpdate) (a : EndpointAddress) : Bool :=
  match wanted.id, wanted.ip with
  | some id, _ => a.id == id
  | none, some ip => a.ip == ip && wanted.subnet.all fun n => a.subnet == n
  | none, none => false

def disassociateAddress (s : ResolverService) (at_ : Moment) (input : ChangeAddress) :
    Except ResolverFault (Endpoint × ResolverService) := do
  let e ← s.endpoint input.endpoint
  match e.addresses.findIdx? (isMeant input.address) with
  | none =>
    throw (.addressNotFound ((input.address.id.orElse fun _ => input.address.ip).getD "") e.id)
  | some i =>
    if e.addresses.length ≤ minAddresses then throw .lastAddresses
    return s.replaceEndpoint (withAddresses e at_.now (e.addresses.eraseIdx i))

/-! ### Rules -/

def acceptRule (s : ResolverService) (input : CreateRule) : Except ResolverFault Unit := do
  runChecks (ruleChecks input)
  s.acceptTags input.tags

def requireOutbound (s : ResolverService) : Option String → Except ResolverFault Unit
  | none => return ()
  | some id => do
    let e ← s.endpoint id
    if e.direction ≠ outbound then throw .inboundEndpoint

def buildRule (s : ResolverService) (at_ : Moment) (input : CreateRule) (id : String) :
    ForwardingRule :=
  { id := id
    requestId := input.requestId
    arn := s.arn ("resolver-rule/" ++ id)
    domain := input.domain
    status := "COMPLETE"
    statusMessage := "Successfully created Resolver Rule"
    type := input.type
    name := input.name
    targets := input.targets
    endpoint := input.endpoint
    owner := s.scope.account
    shareStatus := "NOT_SHARED"
    creationTime := at_.now
    modificationTime := at_.now }

def createRule (s : ResolverService) (at_ : Moment) (input : CreateRule) :
    Except ResolverFault (ForwardingRule × ResolverService) := do
  s.acceptRule input
  if s.quotas.rules ≤ s.rules.size then throw (s.limitFault "max-rules")
  if input.type = "SYSTEM" ∧ (input.targets ≠ [] ∨ input.endpoint ≠ none) then throw .systemRule
  match input.targets.find? fun t => (Ipv4.parse? t.ip).isNone with
  | some bad => throw (.invalidTarget bad.ip)
  | none =>
    s.requireOutbound input.endpoint
    if (s.rules.find? fun r => r.requestId == input.requestId).isSome then
      throw (.ruleExists input.requestId)
    let r := s.buildRule at_ input (Identifier.fresh s.rules "rslvr-rr" idDigits at_.draws).1
    return (r, { s with rules := s.rules.insert r, tags := s.tags.tag r.arn input.tags })

def deleteRule (s : ResolverService) (id : String) :
    Except ResolverFault (ForwardingRule × ResolverService) := do
  let r ← s.rule id
  if (s.associations.find? fun a => a.rule == id).isSome then throw .ruleInUse
  return ({ r with status := "DELETING", statusMessage := "Deleting Resolver Rule" },
    { s with rules := s.rules.remove id, tags := s.tags.clear r.arn })

/-! ### Associations -/

def findAssociation (s : ResolverService) (rule vpc : String) : Option RuleAssociation :=
  s.associations.find? fun a => a.rule == rule && a.vpc == vpc

def associateRule (s : ResolverService) (at_ : Moment) (input : AssociateRule) :
    ExceptT ResolverFault Lookup (RuleAssociation × ResolverService) := do
  lift (runChecks (associationChecks input))
  let _ ← lift (s.rule input.rule)
  let _ ← (Lookup.askVpc input.vpc).orElseFail (ResolverFault.unknownVpc input.vpc)
  if (s.findAssociation input.rule input.vpc).isSome then
    throw (.alreadyAssociated input.rule input.vpc)
  if s.quotas.associations ≤ s.associations.size then
    throw (s.limitFault "max-rule-association")
  let a : RuleAssociation :=
    { id := (Identifier.fresh s.associations "rslvr-rrassoc" idDigits at_.draws).1
      rule := input.rule
      name := input.name
      vpc := input.vpc
      status := "COMPLETE"
      statusMessage := "" }
  return (a, { s with associations := s.associations.insert a })

def disassociateRule (s : ResolverService) (input : DisassociateRule) :
    Except ResolverFault (RuleAssociation × ResolverService) := do
  runChecks [idCheck "vPCId" input.vpc, idCheck "resolverRuleId" input.rule]
  let _ ← s.rule input.rule
  match s.findAssociation input.rule input.vpc with
  | none => throw (.notAssociated input.rule input.vpc)
  | some a =>
    return ({ a with status := "DELETING", statusMessage := "Deleting Association" },
      { s with associations := s.associations.remove a.id })

def page {α : Type} (items : List α) (token : Option String) (limit : Nat) :
    Except ResolverFault (Page α) :=
  (Page.ofList items token limit).mapError fun _ => .invalidNextToken

def listing {α : Type} (items : List α) (token : Option String) (maxResults : Option Nat) :
    Except ResolverFault (Listing α) :=
  let limit := maxResults.getD defaultMaxResults
  (page items token limit).map fun p => ⟨p, limit⟩

def listFiltered {α : Type} (r : Record α α) (allowed : List String) (records : List α)
    (input : ListRecords) : Except ResolverFault (Listing α) := do
  runChecks (maxResultsChecks input.maxResults)
  let matching ← Filtering.select r allowed input.filters records
  listing matching input.nextToken input.maxResults

def listEndpoints (s : ResolverService) (input : ListRecords) :
    Except ResolverFault (Listing Endpoint) :=
  listFiltered Endpoint.record Filtering.endpointNames s.endpoints.records input

def listRules (s : ResolverService) (input : ListRecords) :
    Except ResolverFault (Listing ForwardingRule) :=
  listFiltered ForwardingRule.record Filtering.ruleNames s.rules.records input

def listAssociations (s : ResolverService) (input : ListRecords) :
    Except ResolverFault (Listing RuleAssociation) :=
  listFiltered RuleAssociation.record Filtering.associationNames s.associations.records input

def listAddresses (s : ResolverService) (input : ListAddresses) :
    Except ResolverFault (Listing EndpointAddress) := do
  runChecks (maxResultsChecks input.maxResults)
  let e ← s.endpoint input.endpoint
  listing e.addresses input.nextToken input.maxResults

def requireResource (s : ResolverService) (arn : String) : Except ResolverFault Unit :=
  if (s.endpoints.find? fun e => e.arn == arn).isSome
      || (s.rules.find? fun r => r.arn == arn).isSome then .ok ()
  else .error (.endpointNotFound arn)

def tagResource (s : ResolverService) (input : TagByArn) :
    Except ResolverFault (Unit × ResolverService) := do
  s.requireResource input.arn
  s.acceptTags input.tags
  let existing := s.tags.tags input.arn
  if existing.length + Tag.addedCount existing input.tags > s.quotas.tagsPerResource then
    throw (s.limitFault "max-tags-per-resource")
  return ((), { s with tags := s.tags.tag input.arn input.tags })

def untagResource (s : ResolverService) (input : UntagByArn) :
    Except ResolverFault (Unit × ResolverService) := do
  s.requireResource input.arn
  return ((), { s with tags := s.tags.untag input.arn input.keys })

def listTags (s : ResolverService) (input : ListTagsByArn) :
    Except ResolverFault (Page Tag) := do
  runChecks (maxResultsChecks input.maxResults)
  s.requireResource input.arn
  let tags := s.tags.tags input.arn
  page tags input.nextToken (input.maxResults.getD tags.length)

end ResolverService

end ControlPlane
