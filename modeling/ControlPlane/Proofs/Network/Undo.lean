import ControlPlane.Proofs.Network.Note
import ControlPlane.Proofs.Network.Tags

/-!
To delete what has just been created in the network service gives back the network as it was: what
is new has nothing that depends on it, and no tags were kept under its id before it came.
-/

namespace ControlPlane.NetworkService

variable {s s' : NetworkService} {at_ : Moment} {id : String}

theorem Consistent.dependents_eq_zero (hc : Consistent s) (free : s.vpcs.contains id = false) :
    s.dependents id = 0 := by
  have absent := Registry.contains_eq_false_iff.mp free
  have subnets : s.subnets.count (·.vpc == id) = 0 := by
    rw [Registry.count, List.countP_eq_zero]
    intro n hn same
    obtain ⟨v, hv, known⟩ := hc.subnet_vpc n hn
    exact absent v hv (known.trans (beq_iff_eq.mp same))
  have groups : s.groups.count (·.vpc == id) = 0 := by
    rw [Registry.count, List.countP_eq_zero]
    intro g hg same
    obtain ⟨v, hv, known⟩ := hc.group_vpc g hg
    exact absent v hv (known.trans (beq_iff_eq.mp same))
  rw [dependents, subnets, groups]

theorem deleteVpc_of_createVpc {cidr : String} {v : Vpc} (hc : Consistent s) (hl : Labelled s)
    (h : s.createVpc at_ cidr = .ok (v, s')) : s'.deleteVpc v.id = .ok ((), s) := by
  obtain ⟨block, -, -, rfl, rfl⟩ := createVpc_eq_ok_iff.mp h
  have free : s.vpcs.contains (s.newVpc at_ block).id = false := Identifier.contains_fresh _ _ _ _
  have kind := (Identifier.isNumbered_fresh s.vpcs "vpc" idDigits at_.draws).isOfKind
  have records : (s.vpcs.insert _).remove (s.newVpc at_ block).id = s.vpcs :=
    Registry.remove_insert free
  have tags := hl.owned.clear_eq (hl.not_isTaggable_of_vpc free kind)
  refine deleteVpc_eq_ok_iff.mpr ⟨⟨_, Registry.get?_insert _ _⟩, hc.dependents_eq_zero free, ?_⟩
  simp only [records, tags]

theorem deleteSubnet_of_createSubnet {input : CreateSubnet} {n : Subnet} (hl : Labelled s)
    (h : s.createSubnet at_ input = .ok (n, s')) : s'.deleteSubnet n.id = .ok ((), s) := by
  obtain ⟨v, block, zone, -, -, -, rfl, rfl⟩ := createSubnet_eq_ok_iff.mp h
  have free : s.subnets.contains (s.newSubnet at_ input.vpc block zone).id = false :=
    Identifier.contains_fresh _ _ _ _
  have kind := (Identifier.isNumbered_fresh s.subnets "subnet" idDigits at_.draws).isOfKind
  have records :
      (s.subnets.insert _).remove (s.newSubnet at_ input.vpc block zone).id = s.subnets :=
    Registry.remove_insert free
  have tags := hl.owned.clear_eq (hl.not_isTaggable_of_subnet free kind)
  refine deleteSubnet_eq_ok_iff.mpr ⟨⟨_, Registry.get?_insert _ _⟩, ?_⟩
  simp only [records, tags]

theorem deleteSecurityGroup_of_create {input : CreateSecurityGroup} {g : SecurityGroup}
    (hl : Labelled s) (h : s.createSecurityGroup at_ input = .ok (g, s')) :
    s'.deleteSecurityGroup g.id = .ok ((), s) := by
  obtain ⟨-, -, rfl, rfl⟩ := createSecurityGroup_eq_ok_iff.mp h
  have free : s.groups.contains (s.newGroup at_ input).id = false :=
    Identifier.contains_fresh _ _ _ _
  have kind := (Identifier.isNumbered_fresh s.groups "sg" idDigits at_.draws).isOfKind
  have records : (s.groups.insert _).remove (s.newGroup at_ input).id = s.groups :=
    Registry.remove_insert free
  have tags := hl.owned.clear_eq (hl.not_isTaggable_of_group free kind)
  refine deleteSecurityGroup_eq_ok_iff.mpr ⟨⟨_, Registry.get?_insert _ _⟩, ?_⟩
  simp only [records, tags]

theorem exists_undo {kind : ResourceKind} (kept : kind.service = .network)
    {creation deletion : String} (creates : creation ∈ kind.creations)
    (deletes : deletion ∈ kind.deletions) (hc : Consistent s) (hl : Labelled s) {bag answer : Json}
    (served : (operations.serve s at_ creation bag).run = .ok (answer, s')) :
    ∃ undo gone, kind.deletionBag? bag answer = some undo ∧
      ∀ later, operations.serve s' later deletion undo = pure (.ok (gone, s)) := by
  obtain ⟨op, input, output, hop, -, ran, rfl⟩ := Catalog.exists_of_serve served
  cases kind with
  | vpc =>
    rw [List.mem_singleton.mp creates] at hop
    rw [List.mem_singleton.mp deletes]
    cases hop
    exact ⟨_, _, rfl, fun later => Catalog.serve_writing rfl rfl (deleteVpc_of_createVpc hc hl ran)⟩
  | subnet =>
    rw [List.mem_singleton.mp creates] at hop
    rw [List.mem_singleton.mp deletes]
    cases hop
    have undone := deleteSubnet_of_createSubnet hl ran
    exact ⟨_, _, rfl, fun later => Catalog.serve_writing rfl rfl undone⟩
  | securityGroup =>
    rw [List.mem_singleton.mp creates] at hop
    rw [List.mem_singleton.mp deletes]
    cases hop
    obtain ⟨⟨g, _⟩, created, same⟩ := map_eq_ok_iff.mp ran
    cases same
    exact ⟨_, _, rfl, fun later =>
      Catalog.serve_writing rfl rfl (deleteSecurityGroup_of_create hl created)⟩
  | _ => cases kept

end ControlPlane.NetworkService
