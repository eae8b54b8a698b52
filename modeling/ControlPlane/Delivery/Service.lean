import ControlPlane.Delivery.Fault
import ControlPlane.Delivery.Input
import ControlPlane.Operation
import ControlPlane.Scope
import ControlPlane.Tag.Store

/-!
The delivery stream service of one region. Streams are known by their names and listed in the order
of the names; a listing goes on after the last name, or the last tag key, of the page before. Tags
are kept by resource name.
-/

namespace ControlPlane

structure DeliveryService where
  scope : Scope
  quotas : DeliveryQuotas
  streams : Registry DeliveryStream
  tags : TagStore

namespace DeliveryService

def empty (scope : Scope) (quotas : DeliveryQuotas) : DeliveryService :=
  { scope := scope, quotas := quotas, streams := .empty, tags := .empty }

def streamTypes : List String := [directPut, streamAsSource]

def defaultLimit : Nat := 10
def greatestLimit : Nat := 10000
def greatestTagLimit : Nat := 50

def namePattern : Pattern := .ofRegex "[a-zA-Z0-9_.-]+" (.plus (Pattern.alphanumericOr "_.-"))

def runChecks (cs : List Check) : Except DeliveryFault Unit :=
  (validate cs).mapError .validation

def limitChecks (limit : Option Nat) (greatest : Nat) : List Check :=
  Check.ofOption "limit" limit (.valueAtLeast 1)
    ++ Check.ofOption "limit" limit (.valueAtMost greatest)

def arn (s : DeliveryService) (name : String) : String :=
  s.scope.arn "firehose" ("deliverystream/" ++ name)

def stream (s : DeliveryService) (name : String) : Except DeliveryFault DeliveryStream :=
  match s.streams.get? name with
  | some t => .ok t
  | none => .error (.notFound name s.scope.account)

def typeOf (input : CreateStream) : String := input.type.getD directPut

def streamChecks (input : CreateStream) : List Check :=
  [.of "deliveryStreamName" input.name (.lengthAtMost 64),
    .of "deliveryStreamName" input.name (.lengthAtLeast 1),
    .of "deliveryStreamName" input.name (.satisfies namePattern),
    .of "deliveryStreamType" (typeOf input) (.memberOf streamTypes)]

/-- A source goes with the type that reads from one, and with no other. -/
def chooseSource (type : String) (now : Timestamp) :
    Option SourceConfiguration → Except DeliveryFault (Option StreamSource)
  | some c =>
    if type = streamAsSource then .ok (some ⟨c.stream, c.role, now⟩)
    else .error .sourceNotApplicable
  | none => if type = streamAsSource then .error .sourceRequired else .ok none

def destinationId (position : Nat) : String :=
  "destinationId-" ++ Text.decimalPadded 12 position

def chooseDestination : List (DestinationFamily × Json) → Except DeliveryFault Destination
  | [(family, configuration)] => .ok ⟨destinationId 1, family, configuration⟩
  | _ => .error .oneDestination

def createStream (s : DeliveryService) (at_ : Moment) (input : CreateStream) :
    Except DeliveryFault (DeliveryStream × DeliveryService) := do
  runChecks (streamChecks input)
  if s.streams.contains input.name then throw (.nameTaken input.name s.scope.account)
  if s.quotas.streams ≤ s.streams.size then
    throw (.streamLimit s.quotas.streams (s.streams.records.map (·.name)))
  let source ← chooseSource (typeOf input) at_.now input.source
  let destination ← chooseDestination input.destinations
  (Tag.validate input.tags s.quotas.tagsPerStream).mapError .validation
  let t : DeliveryStream :=
    { name := input.name
      arn := s.arn input.name
      status := "ACTIVE"
      type := typeOf input
      version := "1"
      createTime := at_.now
      source := source
      destinations := [destination]
      hasMoreDestinations := false }
  return (t, { s with streams := s.streams.insert t, tags := s.tags.tag t.arn input.tags })

def deleteStream (s : DeliveryService) (name : String) :
    Except DeliveryFault (Unit × DeliveryService) := do
  let t ← s.stream name
  return ((), { s with streams := s.streams.remove name, tags := s.tags.clear t.arn })

def sortedNames (s : DeliveryService) (type : Option String) : List String :=
  ((s.streams.list fun t => type.all fun wanted => t.type == wanted).map (·.name)).mergeSort
    fun a b => a ≤ b

def listStreams (s : DeliveryService) (input : ListStreams) : Except DeliveryFault StreamNames := do
  runChecks (limitChecks input.limit greatestLimit
    ++ Check.ofOption "deliveryStreamType" input.type (.memberOf streamTypes))
  let names := (s.sortedNames input.type).filter fun n => input.after.all fun start => start < n
  let limit := input.limit.getD defaultLimit
  return ⟨names.take limit, limit < names.length⟩

def tagStream (s : DeliveryService) (input : TagStream) :
    Except DeliveryFault (Unit × DeliveryService) := do
  let t ← s.stream input.name
  (Tag.validate input.tags s.quotas.tagsPerStream).mapError .validation
  let existing := s.tags.tags t.arn
  if existing.length + Tag.addedCount existing input.tags > s.quotas.tagsPerStream then
    throw (.tagLimit s.quotas.tagsPerStream)
  return ((), { s with tags := s.tags.tag t.arn input.tags })

def untagStream (s : DeliveryService) (input : UntagStream) :
    Except DeliveryFault (Unit × DeliveryService) := do
  let t ← s.stream input.name
  return ((), { s with tags := s.tags.untag t.arn input.keys })

/-- The tags after the one that has the key; all of them if none has. -/
def tagsAfter (tags : List Tag) : Option String → List Tag
  | none => tags
  | some key =>
    match tags.findIdx? fun t => t.key == key with
    | some i => tags.drop (i + 1)
    | none => tags

def listTags (s : DeliveryService) (input : ListStreamTags) : Except DeliveryFault StreamTags := do
  runChecks (limitChecks input.limit greatestTagLimit)
  let t ← s.stream input.name
  let remaining := tagsAfter (s.tags.tags t.arn) input.after
  let limit := input.limit.getD s.quotas.tagsPerStream
  return ⟨remaining.take limit, limit < remaining.length⟩

end DeliveryService

end ControlPlane
