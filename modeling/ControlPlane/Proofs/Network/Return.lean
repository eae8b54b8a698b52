import ControlPlane.Network.Operations
import ControlPlane.Proofs.Ipv4.Block
import ControlPlane.Proofs.Json.Common
import ControlPlane.Proofs.Network.Graph

/-!
What the network service is asked and what it answers comes back. A count of addresses is a word,
so a subnet comes back if it does not claim more addresses than there are.
-/

namespace ControlPlane

open Record

instance : Filter.record.codec.Lawful :=
  Record.lawful (by decide) (fun _ => ReadsBack.start Filter.mk |>.required |>.listOrEmpty)
    fun _ => rfl

instance : CreateSubnet.record.codec.Lawful :=
  Record.lawful (by decide)
    (fun _ => ReadsBack.start CreateSubnet.mk |>.required |>.required |>.nullable) fun _ => rfl

instance : DescribeSubnets.record.codec.Lawful :=
  Record.lawful (by decide)
    (fun _ => ReadsBack.start DescribeSubnets.mk |>.listOrEmpty |>.listOrEmpty) fun _ => rfl

instance : CreateSecurityGroup.record.codec.Lawful :=
  Record.lawful (by decide)
    (fun _ => ReadsBack.start CreateSecurityGroup.mk |>.required |>.required |>.required)
    fun _ => rfl

instance : Vpc.record.codec.Lawful :=
  Record.lawful (by decide)
    (fun _ => ReadsBack.start Vpc.mk |>.required |>.required |>.required |>.required |>.required
      |>.required)
    fun _ => rfl

theorem Subnet.readsBack {n : Subnet} (h : n.availableAddresses ≤ Text.greatestWord32) :
    Subnet.record.ReadsBack n n :=
  ReadsBack.start Subnet.mk |>.required |>.required |>.required |>.required
    |>.requiredOf (Codec.returns_upTo h) |>.required |>.required

theorem Subnet.returns {n : Subnet} (h : n.availableAddresses ≤ Text.greatestWord32) :
    Subnet.record.codec.Returns n n :=
  Record.returns (by decide) (Subnet.readsBack h) rfl

namespace NetworkService

variable {s s' : NetworkService}

theorem Consistent.available_le (hc : Consistent s) {n : Subnet} (live : n ∈ s.subnets.records) :
    n.availableAddresses ≤ Text.greatestWord32 := by
  have size := n.cidr.size_le
  rw [hc.available n live, Cidr.length_hosts, reservedAddresses, Text.greatestWord32]
  omega

theorem returns_createSubnet {at_ : Moment} {input : CreateSubnet} {n : Subnet}
    (h : s.createSubnet at_ input = .ok (n, s')) : createSubnetOp.output.Returns n n := by
  obtain ⟨v, block, zone, -, -, -, rfl, -⟩ := createSubnet_eq_ok_iff.mp h
  have size := block.size_le
  refine Codec.returns_single (Subnet.returns ?_)
  change block.size - reservedAddresses ≤ _
  rw [reservedAddresses, Text.greatestWord32]
  omega

theorem exists_of_findAll {α : Type} {find : String → Except NetworkFault α} {ids : List String}
    {as : List α} (h : findAll find ids = .ok as) : ∀ a ∈ as, ∃ id, find id = .ok a := by
  induction ids generalizing as with
  | nil =>
    cases h
    exact fun a ha => absurd ha List.not_mem_nil
  | cons id rest ih =>
    rw [findAll] at h
    cases first : find id with
    | error e =>
      rw [first] at h
      cases h
    | ok b =>
      rw [first] at h
      obtain ⟨others, found, rfl⟩ := map_eq_ok_iff.mp h
      intro a ha
      rcases List.mem_cons.mp ha with rfl | ha
      · exact ⟨id, first⟩
      · exact ih found a ha

theorem mem_of_chosen {ids : List String} {ns : List Subnet}
    (h : chosen s.subnet s.subnets.records ids = .ok ns) : ∀ n ∈ ns, n ∈ s.subnets.records := by
  intro n hn
  rw [chosen] at h
  split at h
  · cases h
    exact hn
  · obtain ⟨id, found⟩ := exists_of_findAll h n hn
    exact Registry.mem_of_get? (subnet_eq_ok_iff.mp found)

theorem returns_describeSubnets (hc : Consistent s) {input : DescribeSubnets}
    {answer : List (Tagged Subnet)} (h : s.describeSubnets input = .ok answer) :
    describeSubnetsOp.output.Returns answer answer := by
  obtain ⟨ns, found, rfl⟩ := map_eq_ok_iff.mp h
  refine Codec.returns_single (Codec.returns_list_self fun t ht => ?_)
  obtain ⟨n, hn, rfl⟩ := List.mem_map.mp ht
  have live := mem_of_chosen found n (List.mem_filter.mp hn).1
  exact Tagged.returns (Subnet.readsBack (hc.available_le live)) (by decide) _

end NetworkService

end ControlPlane
