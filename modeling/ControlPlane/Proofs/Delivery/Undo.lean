import ControlPlane.Proofs.Delivery.Note
import ControlPlane.Proofs.Delivery.Tags

/-!
To delete a delivery stream that has just been created gives back the service as it was.
-/

namespace ControlPlane.DeliveryService

variable {s s' : DeliveryService} {at_ : Moment}

theorem deleteStream_of_createStream {input : CreateStream} {t : DeliveryStream} (hl : Labelled s)
    (h : s.createStream at_ input = .ok (t, s')) : s'.deleteStream input.name = .ok ((), s) := by
  obtain ⟨-, free, -, source, destination, -, -, -, rfl, rfl⟩ := createStream_eq_ok_iff.mp h
  have new : s.streams.contains (s.newStream at_ input source destination).name = false := free
  have records : (s.streams.insert (s.newStream at_ input source destination)).remove input.name =
      s.streams := Registry.remove_insert new
  have tags : s.tags.clear (s.newStream at_ input source destination).arn = s.tags :=
    hl.owned.clear_eq (hl.not_owns free)
  refine deleteStream_eq_ok_iff.mpr ⟨_, Registry.get?_insert _ _, ?_⟩
  simp only [records, TagStore.clear_tag, tags]

theorem exists_undo {kind : ResourceKind} (kept : kind.service = .delivery)
    {creation deletion : String} (creates : creation ∈ kind.creations)
    (deletes : deletion ∈ kind.deletions) (hl : Labelled s) {bag answer : Json}
    (served : (operations.serve s at_ creation bag).run = .ok (answer, s')) :
    ∃ undo gone, kind.deletionBag? bag answer = some undo ∧
      ∀ later, operations.serve s' later deletion undo = pure (.ok (gone, s)) := by
  obtain ⟨op, input, output, hop, decoded, ran, rfl⟩ := Catalog.exists_of_serve served
  cases kind with
  | stream =>
    rw [List.mem_singleton.mp creates] at hop
    rw [List.mem_singleton.mp deletes]
    cases hop
    obtain ⟨⟨t, _⟩, created, same⟩ := map_eq_ok_iff.mp ran
    cases same
    have told : ResourceKind.stream.createdId bag (createStreamOp.output.encode t.arn) =
        some (CreateStream.name input) := ResourceKind.asked_eq decoded CreateStream.name
    exact ⟨_, _, ResourceKind.named_of_createdId told "DeliveryStreamName", fun later =>
      Catalog.serve_writing rfl rfl (deleteStream_of_createStream hl created)⟩
  | _ => cases kept

end ControlPlane.DeliveryService
