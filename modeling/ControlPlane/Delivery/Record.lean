import ControlPlane.Registry
import ControlPlane.Tag.Basic
import ControlPlane.Timestamp.Reader

/-!
Delivery streams. A stream has one destination, described under the name of its family with the
configuration that was submitted, and a source if it reads from another stream.
-/

namespace ControlPlane

def directPut : String := "DirectPut"
def streamAsSource : String := "KinesisStreamAsSource"

inductive DestinationFamily where
  | s3
  | extendedS3
  | redshift
  | elasticsearch
  | splunk
  | httpEndpoint
  deriving Repr, DecidableEq

namespace DestinationFamily

def all : List DestinationFamily :=
  [s3, extendedS3, redshift, elasticsearch, splunk, httpEndpoint]

def stem : DestinationFamily → String
  | s3 => "S3"
  | extendedS3 => "ExtendedS3"
  | redshift => "Redshift"
  | elasticsearch => "Elasticsearch"
  | splunk => "Splunk"
  | httpEndpoint => "HttpEndpoint"

def configurationName (f : DestinationFamily) : String := f.stem ++ "DestinationConfiguration"

def descriptionName (f : DestinationFamily) : String := f.stem ++ "DestinationDescription"

end DestinationFamily

structure Destination where
  id : String
  family : DestinationFamily
  configuration : Json

namespace Destination

def ofFamily? (members : List (String × Json)) (f : DestinationFamily) :
    Option (DestinationFamily × Json) :=
  (Json.member? f.descriptionName members).map fun j => (f, j)

def codec : Codec Destination where
  encode d := .obj [("DestinationId", .str d.id), (d.family.descriptionName, d.configuration)]
  decode
    | .obj members =>
      match Json.member? "DestinationId" members,
          DestinationFamily.all.findSome? (ofFamily? members) with
      | some (.str id), some (family, configuration) => .ok ⟨id, family, configuration⟩
      | none, _ => .error (.missingField "DestinationId")
      | _, _ => .error .malformed
    | _ => .error .malformed

end Destination

structure StreamSource where
  stream : String
  role : String
  startTime : Timestamp
  deriving Repr, DecidableEq

def StreamSource.record : Record StreamSource StreamSource :=
  (Record.start StreamSource.mk)
    |>.required "KinesisStreamARN" .text (·.stream)
    |>.required "RoleARN" .text (·.role)
    |>.required "DeliveryStartTimestamp" Timestamp.codec (·.startTime)

structure DeliveryStream where
  name : String
  arn : String
  status : String
  type : String
  version : String
  createTime : Timestamp
  source : Option StreamSource
  destinations : List Destination
  hasMoreDestinations : Bool

instance : Keyed DeliveryStream := ⟨DeliveryStream.name⟩

def DeliveryStream.record : Record DeliveryStream DeliveryStream :=
  (Record.start DeliveryStream.mk)
    |>.required "DeliveryStreamName" .text (·.name)
    |>.required "DeliveryStreamARN" .text (·.arn)
    |>.required "DeliveryStreamStatus" .text (·.status)
    |>.required "DeliveryStreamType" .text (·.type)
    |>.required "VersionId" .text (·.version)
    |>.required "CreateTimestamp" Timestamp.codec (·.createTime)
    |>.optional "Source" (.single "KinesisStreamSourceDescription" StreamSource.record.codec)
      (·.source)
    |>.required "Destinations" (.list Destination.codec) (·.destinations)
    |>.required "HasMoreDestinations" .flag (·.hasMoreDestinations)

structure DeliveryQuotas where
  streams : Nat
  tagsPerStream : Nat
  deriving Repr, DecidableEq

namespace DeliveryQuotas

def standard : DeliveryQuotas := ⟨50, 50⟩

def record : Record DeliveryQuotas DeliveryQuotas :=
  (Record.start DeliveryQuotas.mk)
    |>.defaulted "delivery_streams" .word64 standard.streams (·.streams)
    |>.defaulted "tags_per_stream" .word64 standard.tagsPerStream (·.tagsPerStream)

end DeliveryQuotas

end ControlPlane
