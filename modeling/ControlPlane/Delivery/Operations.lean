import ControlPlane.Delivery.Service

/-!
The operations of the delivery stream service by name.
-/

namespace ControlPlane.DeliveryService

abbrev Op := Operation Id DeliveryService DeliveryFault

def createStreamOp : Op :=
  .writing CreateStream.record.codec (.single "DeliveryStreamARN" .text) fun s at_ input =>
    (s.createStream at_ input).map fun (t, s') => (t.arn, s')

def deleteStreamOp : Op :=
  .writing (.single "DeliveryStreamName" .text) .nothing fun s _ name => s.deleteStream name

def describeStreamOp : Op :=
  .reading (.single "DeliveryStreamName" .text)
    (.single "DeliveryStreamDescription" DeliveryStream.record.codec) stream

def listStreamsOp : Op :=
  .reading ListStreams.record.codec StreamNames.record.codec listStreams

def tagStreamOp : Op :=
  .writing TagStream.record.codec .nothing fun s _ input => s.tagStream input

def untagStreamOp : Op :=
  .writing UntagStream.record.codec .nothing fun s _ input => s.untagStream input

def listTagsOp : Op :=
  .reading ListStreamTags.record.codec StreamTags.record.codec listTags

def operations : Catalog Id DeliveryService DeliveryFault
  | "CreateDeliveryStream" => some createStreamOp
  | "DeleteDeliveryStream" => some deleteStreamOp
  | "DescribeDeliveryStream" => some describeStreamOp
  | "ListDeliveryStreams" => some listStreamsOp
  | "TagDeliveryStream" => some tagStreamOp
  | "UntagDeliveryStream" => some untagStreamOp
  | "ListTagsForDeliveryStream" => some listTagsOp
  | _ => none

end ControlPlane.DeliveryService
