import ControlPlane.Delivery.Operations
import ControlPlane.Proofs.Json.Common

/-!
What the delivery stream service is asked and what it answers comes back. A configuration of a
destination is any value but null, which would say that there is none.
-/

namespace ControlPlane

open Record

instance : SourceConfiguration.record.codec.Lawful :=
  Record.lawful (by decide)
    (fun _ => ReadsBack.start SourceConfiguration.mk |>.required |>.required) fun _ => rfl

instance : CreateStream.record.codec.Stable := by
  refine Record.stable (by decide) <| .listOrEmpty <| .optional <| .optional <| .optional <|
    .optional <| .optional <| .optional <| .optional <| .optional <| .required <| .start ?_
  intro _ _ _ _ _ _ _ s3 _ extendedS3 _ redshift _ elasticsearch _ splunk _ httpEndpoint _ _
  exact ReadsBack.start CreateStream.mk |>.required |>.optional |>.optional |>.member s3
    |>.member extendedS3 |>.member redshift |>.member elasticsearch |>.member splunk
    |>.member httpEndpoint |>.listOrEmpty

instance : ListStreams.record.codec.Stable := by
  refine Record.stable (by decide) <| .optional <| .optional <| .optional <| .start ?_
  intro _ limit _ _ _ _
  exact ReadsBack.start ListStreams.mk |>.member limit |>.optional |>.optional

instance : StreamNames.record.codec.Lawful :=
  Record.lawful (by decide) (fun _ => ReadsBack.start StreamNames.mk |>.required |>.required)
    fun _ => rfl

instance : Destination.codec.Lawful where
  returns := by
    intro ⟨id, family, configuration⟩
    cases family <;> rfl
  present _ := nofun

instance : StreamSource.record.codec.Lawful :=
  Record.lawful (by decide)
    (fun _ => ReadsBack.start StreamSource.mk |>.required |>.required |>.required) fun _ => rfl

instance : DeliveryStream.record.codec.Lawful :=
  Record.lawful (by decide)
    (fun _ => ReadsBack.start DeliveryStream.mk |>.required |>.required |>.required |>.required
      |>.required |>.required |>.optional |>.required |>.required)
    fun _ => rfl

end ControlPlane
