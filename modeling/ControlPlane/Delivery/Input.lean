import ControlPlane.Delivery.Record

/-!
What the operations of the delivery stream service are asked, and what its listings answer.
-/

namespace ControlPlane

structure SourceConfiguration where
  stream : String
  role : String
  deriving Repr, DecidableEq

def SourceConfiguration.record : Record SourceConfiguration SourceConfiguration :=
  (Record.start SourceConfiguration.mk)
    |>.required "KinesisStreamARN" .text (·.stream)
    |>.required "RoleARN" .text (·.role)

/-- Configurations of destinations are kept as they are given. -/
structure CreateStream where
  name : String
  type : Option String
  source : Option SourceConfiguration
  s3 : Option Json
  extendedS3 : Option Json
  redshift : Option Json
  elasticsearch : Option Json
  splunk : Option Json
  httpEndpoint : Option Json
  tags : List Tag

namespace CreateStream

def record : Record CreateStream CreateStream :=
  (Record.start CreateStream.mk)
    |>.required "DeliveryStreamName" .text (·.name)
    |>.optional "DeliveryStreamType" .text (·.type)
    |>.optional "KinesisStreamSourceConfiguration" SourceConfiguration.record.codec (·.source)
    |>.optional "S3DestinationConfiguration" .json (·.s3)
    |>.optional "ExtendedS3DestinationConfiguration" .json (·.extendedS3)
    |>.optional "RedshiftDestinationConfiguration" .json (·.redshift)
    |>.optional "ElasticsearchDestinationConfiguration" .json (·.elasticsearch)
    |>.optional "SplunkDestinationConfiguration" .json (·.splunk)
    |>.optional "HttpEndpointDestinationConfiguration" .json (·.httpEndpoint)
    |>.listOrEmpty "Tags" Tag.codec (·.tags)

def configuration (input : CreateStream) : DestinationFamily → Option Json
  | .s3 => input.s3
  | .extendedS3 => input.extendedS3
  | .redshift => input.redshift
  | .elasticsearch => input.elasticsearch
  | .splunk => input.splunk
  | .httpEndpoint => input.httpEndpoint

def destinations (input : CreateStream) : List (DestinationFamily × Json) :=
  DestinationFamily.all.filterMap fun f => (input.configuration f).map fun j => (f, j)

end CreateStream

structure ListStreams where
  limit : Option Nat
  type : Option String
  after : Option String
  deriving Repr, DecidableEq

def ListStreams.record : Record ListStreams ListStreams :=
  (Record.start ListStreams.mk)
    |>.optional "Limit" .word32 (·.limit)
    |>.optional "DeliveryStreamType" .text (·.type)
    |>.optional "ExclusiveStartDeliveryStreamName" .text (·.after)

structure StreamNames where
  names : List String
  hasMore : Bool
  deriving Repr, DecidableEq

def StreamNames.record : Record StreamNames StreamNames :=
  (Record.start StreamNames.mk)
    |>.required "DeliveryStreamNames" (.list .text) (·.names)
    |>.required "HasMoreDeliveryStreams" .flag (·.hasMore)

structure TagStream where
  name : String
  tags : List Tag
  deriving Repr, DecidableEq

def TagStream.record : Record TagStream TagStream :=
  (Record.start TagStream.mk)
    |>.required "DeliveryStreamName" .text (·.name)
    |>.required "Tags" (.list Tag.codec) (·.tags)

structure UntagStream where
  name : String
  keys : List String
  deriving Repr, DecidableEq

def UntagStream.record : Record UntagStream UntagStream :=
  (Record.start UntagStream.mk)
    |>.required "DeliveryStreamName" .text (·.name)
    |>.required "TagKeys" (.list .text) (·.keys)

structure ListStreamTags where
  name : String
  after : Option String
  limit : Option Nat
  deriving Repr, DecidableEq

def ListStreamTags.record : Record ListStreamTags ListStreamTags :=
  (Record.start ListStreamTags.mk)
    |>.required "DeliveryStreamName" .text (·.name)
    |>.optional "ExclusiveStartTagKey" .text (·.after)
    |>.optional "Limit" .word32 (·.limit)

structure StreamTags where
  tags : List Tag
  hasMore : Bool
  deriving Repr, DecidableEq

def StreamTags.record : Record StreamTags StreamTags :=
  (Record.start StreamTags.mk)
    |>.required "Tags" (.list Tag.codec) (·.tags)
    |>.required "HasMoreTags" .flag (·.hasMore)

end ControlPlane
