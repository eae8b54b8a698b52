import ControlPlane.Proofs.Network.Graph

/-!
Which subnets can be created. The tests on a block compare lengths of prefixes and look where blocks
start; what they decide is whether one set of addresses lies in another and whether two have an
address in common. Main statement: a request for a subnet succeeds if and only if its block can be
placed in its cloud as such a set, and then the subnet is that block.
-/

namespace ControlPlane.NetworkService

variable {s s' : NetworkService} {at_ : Moment} {input : CreateSubnet} {v : Vpc} {block : Cidr}
  {n : Subnet}

/-- A request for a subnet whose text is that of a block for which its cloud has a place. -/
structure HasPlace (s : NetworkService) (input : CreateSubnet) (v : Vpc) (block : Cidr) : Prop where
  cloud : s.vpcs.get? input.vpc = some v
  slash : '/' ∈ input.cidr.toList
  read : Cidr.parse? input.cidr = some block
  placeable : Placeable block
  inside : block.addresses ⊆ v.cidr.addresses
  apart : ∀ n ∈ s.subnets.records, n.vpc = input.vpc → n.cidr.addresses.Disjoint block.addresses
  zone : ∀ zone, input.zone = some zone → zone ∈ s.scope.zones

theorem not_intersect_iff {a b : Cidr} :
    intersect a b = false ↔ a.addresses.Disjoint b.addresses := by
  refine ⟨disjoint_of_not_intersect, ?_⟩
  intro disjoint
  rw [← Bool.not_eq_true, intersect_iff]
  exact fun ⟨_, ha, hb⟩ => disjoint ha hb

theorem exists_chooseZone_iff {scope : Scope} {wanted : Option String} :
    (∃ zone, chooseZone scope wanted = .ok zone) ↔
      ∀ zone, wanted = some zone → zone ∈ scope.zones := by
  simp only [chooseZone_eq_ok_iff]
  cases wanted with
  | none => simp
  | some zone => simp [eq_comm]

theorem eq_getD_of_chooseZone {scope : Scope} {wanted : Option String} {zone : String}
    (h : chooseZone scope wanted = .ok zone) : some zone = wanted.or scope.zones.head? := by
  rcases chooseZone_eq_ok_iff.mp h with ⟨rfl, -⟩ | ⟨rfl, rfl⟩
  · rfl
  · rfl

theorem placeBlock_iff_sets :
    s.placeBlock v input = .ok block ↔
      ('/' ∈ input.cidr.toList ∧ Cidr.parse? input.cidr = some block) ∧ Placeable block ∧
        block.addresses ⊆ v.cidr.addresses ∧
        ∀ n ∈ s.subnets.records, n.vpc = input.vpc →
          n.cidr.addresses.Disjoint block.addresses := by
  rw [placeBlock_eq_ok_iff, readBlock_eq_ok_iff, liesIn_iff, placeable_iff]
  simp only [not_intersect_iff]
  tauto

theorem createSubnet_ok_iff_hasPlace :
    (∃ n s', s.createSubnet at_ input = .ok (n, s')) ↔ ∃ v block, HasPlace s input v block := by
  simp only [createSubnet_eq_ok_iff, placeBlock_iff_sets]
  refine ⟨?_, ?_⟩
  · intro ⟨_, _, v, block, zone, cloud, ⟨⟨slash, read⟩, placeable, inside, apart⟩, chosen, _⟩
    exact ⟨v, block, cloud, slash, read, placeable, inside, apart,
      exists_chooseZone_iff.mp ⟨zone, chosen⟩⟩
  · intro ⟨v, block, place⟩
    obtain ⟨zone, chosen⟩ := exists_chooseZone_iff.mpr place.zone
    exact ⟨_, _, v, block, zone, place.cloud,
      ⟨⟨place.slash, place.read⟩, place.placeable, place.inside, place.apart⟩, chosen, rfl, rfl⟩

/-- The addresses of a block are counted in words of thirty-two bits: no step of the count leaves
them, and the reserved addresses can be taken away. -/
structure CountedInWord (c : Cidr) (available : Nat) : Prop where
  shift : c.prefixLength ≤ 32 ∧ 32 - c.prefixLength < 32
  word : 2 ^ (32 - c.prefixLength) < 2 ^ 32
  reserved : reservedAddresses ≤ 2 ^ (32 - c.prefixLength)
  balance : available + reservedAddresses = 2 ^ (32 - c.prefixLength)

theorem Placeable.countedInWord (h : Placeable block) :
    CountedInWord block (block.size - reservedAddresses) := by
  have least := h.least
  have greatest := h.greatest
  have exponent : 32 - block.prefixLength < 32 := by omega
  have word : 2 ^ (32 - block.prefixLength) < 2 ^ 32 := Nat.pow_lt_pow_right (by decide) exponent
  have enough : 2 ^ 4 ≤ 2 ^ (32 - block.prefixLength) :=
    Nat.pow_le_pow_right (by decide) (by omega)
  have reserved : reservedAddresses ≤ 2 ^ (32 - block.prefixLength) :=
    Nat.le_trans (by decide) enough
  exact ⟨⟨block.le, exponent⟩, word, reserved, Nat.sub_add_cancel reserved⟩

/-- What a subnet that was created for a request is, and where it stands. -/
structure PlacedAs (s : NetworkService) (input : CreateSubnet) (n : Subnet) (s' : NetworkService) :
    Prop where
  vpc : n.vpc = input.vpc
  block : Cidr.parse? input.cidr = some n.cidr
  zone : some n.zone = input.zone.or s.scope.zones.head?
  counted : CountedInWord n.cidr n.availableAddresses
  stands : s'.subnets.records = s.subnets.records ++ [n]

theorem placedAs_of_createSubnet (h : s.createSubnet at_ input = .ok (n, s')) :
    PlacedAs s input n s' := by
  obtain ⟨v, block, zone, -, placed, chosen, rfl, rfl⟩ := createSubnet_eq_ok_iff.mp h
  obtain ⟨⟨-, read⟩, placeable, -⟩ := placeBlock_iff_sets.mp placed
  have free : s.subnets.contains (s.newSubnet at_ input.vpc block zone).id = false :=
    Identifier.contains_fresh ..
  exact ⟨rfl, read, eq_getD_of_chooseZone chosen, placeable.countedInWord,
    Registry.records_insert_of_not_contains free⟩

/-- A request for a subnet succeeds if and only if the text is that of a block which starts at its
own address, has an allowed size, lies in the block of its cloud and has no address in common with
any of its subnets, and the zone, if there is one, is of the region. The subnet is then that block,
in that zone or the first one. -/
theorem subnet_created_iff_placeable (s : NetworkService) (at_ : Moment) (input : CreateSubnet) :
    ((∃ n s', s.createSubnet at_ input = .ok (n, s')) ↔ ∃ v block, HasPlace s input v block) ∧
      ∀ n s', s.createSubnet at_ input = .ok (n, s') → PlacedAs s input n s' :=
  ⟨createSubnet_ok_iff_hasPlace, fun _ _ => placedAs_of_createSubnet⟩

end ControlPlane.NetworkService
