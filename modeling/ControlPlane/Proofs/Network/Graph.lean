import ControlPlane.Proofs.Ipv4.Block
import ControlPlane.Proofs.Network.Change
import Mathlib.Data.List.Induction

/-!
The graph of a network: clouds, their subnets and their security groups. Main statement: in every
network that requests lead to, references are alive, subnets lie in their clouds and apart from each
other, and groups of one cloud have different names.
-/

namespace ControlPlane.NetworkService

variable {s s' : NetworkService}

/-- What the records of a network have to do with each other. -/
structure Consistent (s : NetworkService) : Prop where
  subnet_vpc : ∀ n ∈ s.subnets.records, ∃ v ∈ s.vpcs.records, v.id = n.vpc
  group_vpc : ∀ g ∈ s.groups.records, ∃ v ∈ s.vpcs.records, v.id = g.vpc
  vpc_block : ∀ v ∈ s.vpcs.records, Placeable v.cidr
  subnet_block : ∀ n ∈ s.subnets.records, Placeable n.cidr
  inside : ∀ n ∈ s.subnets.records, ∀ v ∈ s.vpcs.records, v.id = n.vpc →
    n.cidr.addresses ⊆ v.cidr.addresses
  apart : ∀ m ∈ s.subnets.records, ∀ n ∈ s.subnets.records, m.vpc = n.vpc → m ≠ n →
    m.cidr.addresses.Disjoint n.cidr.addresses
  zone : ∀ n ∈ s.subnets.records, n.zone ∈ s.scope.zones
  available : ∀ n ∈ s.subnets.records, n.availableAddresses = n.cidr.hosts.length
  group_name : ∀ g ∈ s.groups.records, ∀ h ∈ s.groups.records, g.vpc = h.vpc → g.name = h.name →
    g = h

theorem consistent_empty (scope : Scope) : Consistent (empty scope) := by
  constructor <;> intro a ha <;> cases ha

theorem Consistent.insertVpc (hc : Consistent s) {v : Vpc}
    (free : s.vpcs.contains v.id = false) (placeable : Placeable v.cidr) :
    Consistent { s with vpcs := s.vpcs.insert v } := by
  have mem : ∀ w, w ∈ (s.vpcs.insert v).records ↔ w ∈ s.vpcs.records ∨ w = v := fun w =>
    Registry.mem_insert_iff free
  have old : ∀ w ∈ s.vpcs.records, w ∈ (s.vpcs.insert v).records := fun w hw =>
    (mem w).mpr (Or.inl hw)
  refine { hc with subnet_vpc := ?_, group_vpc := ?_, vpc_block := ?_, inside := ?_ }
  · intro n hn
    obtain ⟨w, hw, hid⟩ := hc.subnet_vpc n hn
    exact ⟨w, old w hw, hid⟩
  · intro g hg
    obtain ⟨w, hw, hid⟩ := hc.group_vpc g hg
    exact ⟨w, old w hw, hid⟩
  · intro w hw
    rcases (mem w).mp hw with hw | rfl
    · exact hc.vpc_block w hw
    · exact placeable
  · intro n hn w hw hid
    rcases (mem w).mp hw with hw | rfl
    · exact hc.inside n hn w hw hid
    · -- a subnet's cloud was there before, so it is not the one that has just come
      obtain ⟨u, hu, hun⟩ := hc.subnet_vpc n hn
      exact absurd (hun.trans hid.symm) (Registry.contains_eq_false_iff.mp free u hu)

theorem eq_zero_of_dependents {id : String} (h : s.dependents id = 0) :
    (∀ n ∈ s.subnets.records, n.vpc ≠ id) ∧ ∀ g ∈ s.groups.records, g.vpc ≠ id := by
  simpa [dependents, Registry.count] using h

theorem Consistent.removeVpc (hc : Consistent s) {id : String} (unused : s.dependents id = 0)
    (tags : TagStore) : Consistent { s with vpcs := s.vpcs.remove id, tags := tags } := by
  obtain ⟨subnets, groups⟩ := eq_zero_of_dependents unused
  have mem : ∀ w, w ∈ (s.vpcs.remove id).records ↔ w ∈ s.vpcs.records ∧ w.id ≠ id := fun w =>
    Registry.mem_remove_iff
  refine { hc with subnet_vpc := ?_, group_vpc := ?_, vpc_block := ?_, inside := ?_ }
  · intro n hn
    obtain ⟨w, hw, hid⟩ := hc.subnet_vpc n hn
    exact ⟨w, (mem w).mpr ⟨hw, hid ▸ subnets n hn⟩, hid⟩
  · intro g hg
    obtain ⟨w, hw, hid⟩ := hc.group_vpc g hg
    exact ⟨w, (mem w).mpr ⟨hw, hid ▸ groups g hg⟩, hid⟩
  · intro w hw
    exact hc.vpc_block w ((mem w).mp hw).1
  · intro n hn w hw
    exact hc.inside n hn w ((mem w).mp hw).1

theorem Consistent.insertSubnet (hc : Consistent s) {n : Subnet} {v : Vpc}
    (cloud : s.vpcs.get? n.vpc = some v) (free : s.subnets.contains n.id = false)
    (placeable : Placeable n.cidr) (inside : liesIn n.cidr v.cidr = true)
    (apart : ∀ m ∈ s.subnets.records, m.vpc = n.vpc → intersect m.cidr n.cidr = false)
    (zone : n.zone ∈ s.scope.zones)
    (available : n.availableAddresses = n.cidr.size - reservedAddresses) :
    Consistent { s with subnets := s.subnets.insert n } := by
  obtain ⟨hv, hid⟩ := Registry.get?_eq_some_iff.mp cloud
  have mem : ∀ m, m ∈ (s.subnets.insert n).records ↔ m ∈ s.subnets.records ∨ m = n := fun m =>
    Registry.mem_insert_iff free
  refine { hc with
    subnet_vpc := ?_, subnet_block := ?_, inside := ?_, apart := ?_, zone := ?_, available := ?_ }
  · intro m hm
    rcases (mem m).mp hm with hm | rfl
    · exact hc.subnet_vpc m hm
    · exact ⟨v, hv, hid⟩
  · intro m hm
    rcases (mem m).mp hm with hm | rfl
    · exact hc.subnet_block m hm
    · exact placeable
  · intro m hm w hw hwm
    rcases (mem m).mp hm with hm | rfl
    · exact hc.inside m hm w hw hwm
    · rw [Registry.eq_of_key_eq hw hv (hwm.trans hid.symm)]
      exact liesIn_iff.mp inside
  · intro m hm k hk hvpc hne
    rcases (mem m).mp hm with hm' | rfl <;> rcases (mem k).mp hk with hk' | rfl
    · exact hc.apart m hm' k hk' hvpc hne
    · exact disjoint_of_not_intersect (apart m hm' hvpc)
    · exact List.disjoint_symm (disjoint_of_not_intersect (apart k hk' hvpc.symm))
    · exact absurd rfl hne
  · intro m hm
    rcases (mem m).mp hm with hm | rfl
    · exact hc.zone m hm
    · exact zone
  · intro m hm
    rcases (mem m).mp hm with hm | rfl
    · exact hc.available m hm
    · rw [available, Cidr.length_hosts]

theorem Consistent.removeSubnet (hc : Consistent s) (id : String) (tags : TagStore) :
    Consistent { s with subnets := s.subnets.remove id, tags := tags } := by
  have old : ∀ m ∈ (s.subnets.remove id).records, m ∈ s.subnets.records := fun m hm =>
    (Registry.mem_remove_iff.mp hm).1
  exact { hc with
    subnet_vpc := fun m hm => hc.subnet_vpc m (old m hm)
    subnet_block := fun m hm => hc.subnet_block m (old m hm)
    inside := fun m hm => hc.inside m (old m hm)
    apart := fun m hm k hk => hc.apart m (old m hm) k (old k hk)
    zone := fun m hm => hc.zone m (old m hm)
    available := fun m hm => hc.available m (old m hm) }

theorem Consistent.insertGroup (hc : Consistent s) {g : SecurityGroup} {v : Vpc}
    (cloud : s.vpcs.get? g.vpc = some v) (free : s.groups.contains g.id = false)
    (named : ∀ h ∈ s.groups.records, h.vpc = g.vpc → h.name ≠ g.name) :
    Consistent { s with groups := s.groups.insert g } := by
  obtain ⟨hv, hid⟩ := Registry.get?_eq_some_iff.mp cloud
  have mem : ∀ h, h ∈ (s.groups.insert g).records ↔ h ∈ s.groups.records ∨ h = g := fun h =>
    Registry.mem_insert_iff free
  refine { hc with group_vpc := ?_, group_name := ?_ }
  · intro h hh
    rcases (mem h).mp hh with hh | rfl
    · exact hc.group_vpc h hh
    · exact ⟨v, hv, hid⟩
  · intro h hh k hk hvpc hname
    rcases (mem h).mp hh with hh' | rfl <;> rcases (mem k).mp hk with hk' | rfl
    · exact hc.group_name h hh' k hk' hvpc hname
    · exact absurd hname (named h hh' hvpc)
    · exact absurd hname.symm (named k hk' hvpc.symm)
    · rfl

theorem Consistent.removeGroup (hc : Consistent s) (id : String) (tags : TagStore) :
    Consistent { s with groups := s.groups.remove id, tags := tags } := by
  have old : ∀ g ∈ (s.groups.remove id).records, g ∈ s.groups.records := fun g hg =>
    (Registry.mem_remove_iff.mp hg).1
  exact { hc with
    group_vpc := fun g hg => hc.group_vpc g (old g hg)
    group_name := fun g hg h hh => hc.group_name g (old g hg) h (old h hh) }

theorem Change.consistent (h : Change s s') (hc : Consistent s) : Consistent s' := by
  cases h with
  | looked => exact hc
  | vpcCreated v free numbered placeable => exact hc.insertVpc free placeable
  | vpcDeleted id live unused => exact hc.removeVpc unused _
  | subnetCreated n v cloud free numbered placeable inside apart zone available =>
    exact hc.insertSubnet cloud free placeable inside apart zone available
  | subnetDeleted id live => exact hc.removeSubnet id _
  | groupCreated g v cloud free numbered named => exact hc.insertGroup cloud free named
  | groupDeleted id live => exact hc.removeGroup id _
  | tagged ids tags live => exact { hc with }
  | untagged ids keys live => exact { hc with }
  | cleared ids live => exact { hc with }

theorem Change.scope_eq (h : Change s s') : s'.scope = s.scope := by
  cases h <;> rfl

theorem run_concat (scope : Scope) (qs : List Request) (q : Request) :
    run scope (qs ++ [q]) = (run scope qs).after q := by
  rw [run, run, List.foldl_append, List.foldl_cons, List.foldl_nil]

/-- Every network that requests lead to is consistent, and stays in the scope it was made for. -/
theorem network_run_consistent (scope : Scope) (qs : List Request) :
    (run scope qs).scope = scope ∧ Consistent (run scope qs) := by
  induction qs using List.reverseRecOn with
  | nil => exact ⟨rfl, consistent_empty scope⟩
  | append_singleton qs q ih =>
    have change := change_after (run scope qs) q
    rw [run_concat]
    exact ⟨change.scope_eq.trans ih.1, change.consistent ih.2⟩

end ControlPlane.NetworkService
