import ControlPlane.Region

/-!
Typed calls into a region. A call writes its input as a bag of parameters, has the bag served like
any other request, and reads the answer back.
-/

namespace ControlPlane

namespace Region

def call {m : Type → Type} {σ ε : Type} (r : Region) (at_ : Moment) (service : ServiceName)
    (action : String) (op : Operation m σ ε) (input : op.Input) :
    Except ServiceError op.Output × Region :=
  match r.serve at_ service action (op.input.encode input) with
  | .error e => (.error e, r)
  | .ok (j, r') =>
    match op.output.decode j with
    | .ok output => (.ok output, r')
    | .error _ => (.error (.internalFailure ("Undecodable " ++ action ++ " response")), r')

def createVpc (r : Region) (at_ : Moment) (cidr : String) : Except ServiceError Vpc × Region :=
  r.call at_ .network "CreateVpc" NetworkService.createVpcOp cidr

def createSubnet (r : Region) (at_ : Moment) (vpc cidr zone : String) :
    Except ServiceError Subnet × Region :=
  r.call at_ .network "CreateSubnet" NetworkService.createSubnetOp
    (⟨vpc, cidr, some zone⟩ : CreateSubnet)

/-- The group's description is its name. -/
def createSecurityGroup (r : Region) (at_ : Moment) (vpc name : String) :
    Except ServiceError String × Region :=
  r.call at_ .network "CreateSecurityGroup" NetworkService.createSecurityGroupOp
    (⟨name, name, vpc⟩ : CreateSecurityGroup)

def describeSubnets (r : Region) (at_ : Moment) (ids : List String) :
    Except ServiceError (List (Tagged Subnet)) × Region :=
  r.call at_ .network "DescribeSubnets" NetworkService.describeSubnetsOp
    (⟨ids, []⟩ : DescribeSubnets)

def createDirectory (r : Region) (at_ : Moment) (input : CreateDirectory) :
    Except ServiceError String × Region :=
  r.call at_ .directory "CreateDirectory" DirectoryService.createDirectoryOp input

def createMicrosoftDirectory (r : Region) (at_ : Moment) (input : CreateMicrosoftDirectory) :
    Except ServiceError String × Region :=
  r.call at_ .directory "CreateMicrosoftAD" DirectoryService.createMicrosoftOp input

def connectDirectory (r : Region) (at_ : Moment) (input : ConnectDirectory) :
    Except ServiceError String × Region :=
  r.call at_ .directory "ConnectDirectory" DirectoryService.connectDirectoryOp input

def deleteDirectory (r : Region) (at_ : Moment) (id : String) :
    Except ServiceError String × Region :=
  r.call at_ .directory "DeleteDirectory" DirectoryService.deleteDirectoryOp id

def describeDirectories (r : Region) (at_ : Moment) (input : DescribeDirectories) :
    Except ServiceError (Page Directory) × Region :=
  r.call at_ .directory "DescribeDirectories" DirectoryService.describeDirectoriesOp input

def directoryLimits (r : Region) (at_ : Moment) : Except ServiceError DirectoryLimits × Region :=
  r.call at_ .directory "GetDirectoryLimits" DirectoryService.limitsOp ()

def createAlias (r : Region) (at_ : Moment) (directory name : String) :
    Except ServiceError CreateAlias × Region :=
  r.call at_ .directory "CreateAlias" DirectoryService.createAliasOp
    (⟨directory, name⟩ : CreateAlias)

def createEndpoint (r : Region) (at_ : Moment) (input : CreateEndpoint) :
    Except ServiceError Endpoint × Region :=
  r.call at_ .resolver "CreateResolverEndpoint" ResolverService.createEndpointOp input

def getEndpoint (r : Region) (at_ : Moment) (id : String) : Except ServiceError Endpoint × Region :=
  r.call at_ .resolver "GetResolverEndpoint" ResolverService.getEndpointOp id

def deleteEndpoint (r : Region) (at_ : Moment) (id : String) :
    Except ServiceError Endpoint × Region :=
  r.call at_ .resolver "DeleteResolverEndpoint" ResolverService.deleteEndpointOp id

def createRule (r : Region) (at_ : Moment) (input : CreateRule) :
    Except ServiceError ForwardingRule × Region :=
  r.call at_ .resolver "CreateResolverRule" ResolverService.createRuleOp input

def associateRule (r : Region) (at_ : Moment) (rule vpc : String) :
    Except ServiceError RuleAssociation × Region :=
  r.call at_ .resolver "AssociateResolverRule" ResolverService.associateRuleOp
    (⟨rule, none, vpc⟩ : AssociateRule)

def listTags (r : Region) (at_ : Moment) (arn : String) :
    Except ServiceError (List Tag) × Region :=
  let (answer, r') := r.call at_ .resolver "ListTagsForResource" ResolverService.listTagsOp
    (⟨arn, none, none⟩ : ListTagsByArn)
  (answer.map fun p => Page.items p, r')

def createStream (r : Region) (at_ : Moment) (input : CreateStream) :
    Except ServiceError String × Region :=
  r.call at_ .delivery "CreateDeliveryStream" DeliveryService.createStreamOp input

def describeStream (r : Region) (at_ : Moment) (name : String) :
    Except ServiceError DeliveryStream × Region :=
  r.call at_ .delivery "DescribeDeliveryStream" DeliveryService.describeStreamOp name

def deleteStream (r : Region) (at_ : Moment) (name : String) : Except ServiceError Unit × Region :=
  r.call at_ .delivery "DeleteDeliveryStream" DeliveryService.deleteStreamOp name

def listStreams (r : Region) (at_ : Moment) (input : ListStreams) :
    Except ServiceError StreamNames × Region :=
  r.call at_ .delivery "ListDeliveryStreams" DeliveryService.listStreamsOp input

def putProfile (r : Region) (at_ : Moment) (input : PutProfile) :
    Except ServiceError ProfileArns × Region :=
  r.call at_ .signing "PutSigningProfile" SigningService.putProfileOp input

def getProfile (r : Region) (at_ : Moment) (name : String) :
    Except ServiceError TaggedProfile × Region :=
  r.call at_ .signing "GetSigningProfile" SigningService.getProfileOp name

def cancelProfile (r : Region) (at_ : Moment) (name : String) : Except ServiceError Unit × Region :=
  r.call at_ .signing "CancelSigningProfile" SigningService.cancelProfileOp name

def listPlatforms (r : Region) (at_ : Moment) :
    Except ServiceError (List SigningPlatform) × Region :=
  let (answer, r') := r.call at_ .signing "ListSigningPlatforms" SigningService.listPlatformsOp
    (⟨none, none, none, none, none⟩ : ListPlatforms)
  (answer.map fun p => Page.items p, r')

end Region

end ControlPlane
