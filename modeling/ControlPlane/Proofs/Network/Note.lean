import ControlPlane.Proofs.Network.Change
import ControlPlane.Proofs.Region.Note

/-!
What a request to the network service tells is what becomes of its ids.
-/

namespace ControlPlane.NetworkService

open ResourceKind (asked_eq eq_apply_of_deleted)

variable {s s' : NetworkService} {at_ : Moment}

structure Noted (s s' : NetworkService) (notes : ResourceKind → Note) : Prop where
  vpcs : s'.vpcs.keys = (notes .vpc).apply s.vpcs.keys
  subnets : s'.subnets.keys = (notes .subnet).apply s.subnets.keys
  groups : s'.groups.keys = (notes .securityGroup).apply s.groups.keys

theorem noted_of_changeTags {ids : List String} {change : TagStore → String → TagStore} {u : Unit}
    {notes : ResourceKind → Note} (h : s.changeTags ids change = .ok (u, s'))
    (same : Noted s s notes) : Noted s s' notes := by
  obtain ⟨-, rfl⟩ := changeTags_eq_ok_iff.mp h
  exact ⟨same.vpcs, same.subnets, same.groups⟩

theorem noted_of_run {name : String} {op : Op} {bag : Json} {input : op.Input} {output : op.Output}
    (hop : operations name = some op) (hd : op.input.decodeBag bag = .ok input)
    (h : (op.run s at_ input).run = .ok (output, s')) :
    Noted s s' fun kind => kind.note name bag (op.output.encode output) := by
  simp only [operations] at hop
  split at hop <;> cases hop
  case h_1 =>
    obtain ⟨block, -, -, rfl, rfl⟩ := createVpc_eq_ok_iff.mp h
    have free := Identifier.contains_fresh s.vpcs "vpc" idDigits at_.draws
    exact ⟨Registry.keys_insert_of_not_contains free, rfl, rfl⟩
  case h_2 => exact state_of_look h ▸ ⟨rfl, rfl, rfl⟩
  case h_3 =>
    obtain ⟨-, -, rfl⟩ := deleteVpc_eq_ok_iff.mp h
    have told := asked_eq hd id
    exact ⟨eq_apply_of_deleted (Registry.keys_remove _ _) (by decide) (by decide) told, rfl, rfl⟩
  case h_4 =>
    obtain ⟨v, block, zone, -, -, -, rfl, rfl⟩ := createSubnet_eq_ok_iff.mp h
    have free := Identifier.contains_fresh s.subnets "subnet" idDigits at_.draws
    exact ⟨rfl, Registry.keys_insert_of_not_contains free, rfl⟩
  case h_5 => exact state_of_look h ▸ ⟨rfl, rfl, rfl⟩
  case h_6 =>
    obtain ⟨-, rfl⟩ := deleteSubnet_eq_ok_iff.mp h
    have told := asked_eq hd id
    exact ⟨rfl, eq_apply_of_deleted (Registry.keys_remove _ _) (by decide) (by decide) told, rfl⟩
  case h_7 =>
    obtain ⟨⟨g, _⟩, created, same⟩ := map_eq_ok_iff.mp h
    cases same
    obtain ⟨-, -, rfl, rfl⟩ := createSecurityGroup_eq_ok_iff.mp created
    have free := Identifier.contains_fresh s.groups "sg" idDigits at_.draws
    exact ⟨rfl, rfl, Registry.keys_insert_of_not_contains free⟩
  case h_8 => exact state_of_look h ▸ ⟨rfl, rfl, rfl⟩
  case h_9 =>
    obtain ⟨-, rfl⟩ := deleteSecurityGroup_eq_ok_iff.mp h
    have told := asked_eq hd id
    exact ⟨rfl, rfl, eq_apply_of_deleted (Registry.keys_remove _ _) (by decide) (by decide) told⟩
  case h_10 => exact noted_of_changeTags h ⟨rfl, rfl, rfl⟩
  case h_11 => exact noted_of_changeTags h ⟨rfl, rfl, rfl⟩

end ControlPlane.NetworkService
