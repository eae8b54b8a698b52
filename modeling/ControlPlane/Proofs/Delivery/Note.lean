import ControlPlane.Proofs.Delivery.Change
import ControlPlane.Proofs.Region.Note

/-!
What a request to the delivery stream service tells is what becomes of the names of its streams.
-/

namespace ControlPlane.DeliveryService

open ResourceKind (asked_eq eq_apply_of_created eq_apply_of_deleted)

variable {s s' : DeliveryService} {at_ : Moment}

def Noted (s s' : DeliveryService) (notes : ResourceKind → Note) : Prop :=
  s'.streams.keys = (notes .stream).apply s.streams.keys

theorem noted_of_run {name : String} {op : Op} {bag : Json} {input : op.Input} {output : op.Output}
    (hop : operations name = some op) (hd : op.input.decodeBag bag = .ok input)
    (h : (op.run s at_ input).run = .ok (output, s')) :
    Noted s s' fun kind => kind.note name bag (op.output.encode output) := by
  simp only [operations] at hop
  split at hop <;> cases hop
  case h_1 =>
    obtain ⟨⟨t, _⟩, created, same⟩ := map_eq_ok_iff.mp h
    cases same
    obtain ⟨-, free, -, source, destination, -, -, -, rfl, rfl⟩ := createStream_eq_ok_iff.mp created
    have told := asked_eq hd CreateStream.name
    exact eq_apply_of_created (Registry.keys_insert_of_not_contains free) (by decide) told
  case h_2 =>
    obtain ⟨t, -, rfl⟩ := deleteStream_eq_ok_iff.mp h
    have told := asked_eq hd id
    exact eq_apply_of_deleted (Registry.keys_remove _ _) (by decide) (by decide) told
  case h_3 => exact state_of_look h ▸ rfl
  case h_4 => exact state_of_look h ▸ rfl
  case h_5 =>
    obtain ⟨t, -, -, -, rfl⟩ := tagStream_eq_ok_iff.mp h
    rfl
  case h_6 =>
    obtain ⟨t, -, rfl⟩ := untagStream_eq_ok_iff.mp h
    rfl
  case h_7 => exact state_of_look h ▸ rfl

end ControlPlane.DeliveryService
