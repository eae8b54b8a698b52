import ControlPlane.Proofs.Region.Note
import ControlPlane.Proofs.Signing.Change

/-!
What a request to the code signing service tells is what becomes of the names of its profiles.
-/

namespace ControlPlane.SigningService

open ResourceKind (asked_eq eq_apply_of_created)

variable {s s' : SigningService} {at_ : Moment}

def Noted (s s' : SigningService) (notes : ResourceKind → Note) : Prop :=
  s'.profiles.keys = (notes .profile).apply s.profiles.keys

theorem keys_insert_profile (s : SigningService) (p : SigningProfile) :
    (s.profiles.insert p).keys =
      if p.name ∈ s.profiles.keys then s.profiles.keys else s.profiles.keys ++ [p.name] := by
  rw [Registry.keys_insert]
  simp only [Registry.contains_iff]
  rfl

theorem noted_of_run {name : String} {op : Op} {bag : Json} {input : op.Input} {output : op.Output}
    (hop : operations name = some op) (hd : op.input.decodeBag bag = .ok input)
    (h : (op.run s at_ input).run = .ok (output, s')) :
    Noted s s' fun kind => kind.note name bag (op.output.encode output) := by
  simp only [operations] at hop
  split at hop <;> cases hop
  case h_1 =>
    obtain ⟨⟨p, _⟩, put, same⟩ := map_eq_ok_iff.mp h
    cases same
    obtain ⟨-, -, rfl, rfl⟩ := putProfile_eq_ok_iff.mp put
    have told := asked_eq hd PutProfile.name
    exact eq_apply_of_created (keys_insert_profile s _) (by decide) told
  case h_2 => exact state_of_look h ▸ rfl
  case h_3 =>
    obtain ⟨p, found, rfl⟩ := cancelProfile_eq_ok_iff.mp h
    have same : p.name = input := Registry.key_of_get? found
    subst same
    exact Registry.keys_insert_of_get? found
  case h_4 => exact state_of_look h ▸ rfl
  case h_5 => exact state_of_look h ▸ rfl
  case h_6 =>
    obtain ⟨arn, -, -, rfl⟩ := tagResource_eq_ok_iff.mp h
    rfl
  case h_7 =>
    obtain ⟨arn, -, rfl⟩ := untagResource_eq_ok_iff.mp h
    rfl
  case h_8 => exact state_of_look h ▸ rfl

end ControlPlane.SigningService
