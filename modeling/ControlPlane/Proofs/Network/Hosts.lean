import ControlPlane.Proofs.Network.Placement
import Mathlib.Algebra.Group.Int.Defs

/-!
The host addresses of a block in three views: as a list, as a test of one address, and as a number.
The test is also given as it is computed on words of thirty-two bits, where a mask cuts the network
out of an address and a difference below zero has no value. Main statement: the views agree for
every block, from the whole address space to a single address, the test in words always has a value,
and a subnet that is created tells the number.
-/

namespace ControlPlane

def Ipv4.word (a : Ipv4) : BitVec 32 := BitVec.ofNat 32 a.value

theorem Ipv4.toNat_word (a : Ipv4) : a.word.toNat = a.value := by
  rw [word, BitVec.toNat_ofNat, Nat.mod_eq_of_lt a.lt]

namespace Cidr

def mask (c : Cidr) : BitVec 32 := BitVec.ofNat 32 (netmask c.prefixLength)

def networkWord (c : Cidr) : BitVec 32 := c.address.word &&& c.mask

def broadcastWord (c : Cidr) : BitVec 32 := c.address.word ||| ~~~c.mask

/-- The difference of two words, if it is not below zero. -/
def difference? (a b : BitVec 32) : Option (BitVec 32) := if b ≤ a then some (a - b) else none

/-- The test for a host address on words. -/
def isHostWord? (c : Cidr) (a : BitVec 32) : Option Bool :=
  if a &&& c.mask = c.networkWord then
    (difference? a c.networkWord).map fun offset => 3 < offset && a != c.broadcastWord
  else some false

theorem netmask_add_size (c : Cidr) : netmask c.prefixLength + c.size = 2 ^ 32 :=
  Nat.sub_add_cancel c.size_le

theorem toNat_mask (c : Cidr) : c.mask.toNat = netmask c.prefixLength := by
  have whole := c.netmask_add_size
  have positive := c.size_pos
  rw [mask, BitVec.toNat_ofNat, Nat.mod_eq_of_lt (by omega)]

theorem mask_eq_shiftLeft (c : Cidr) : c.mask = BitVec.allOnes 32 <<< (32 - c.prefixLength) := by
  have whole := c.netmask_add_size
  have positive := c.size_pos
  have shifted : (2 ^ 32 - 1) * c.size = 2 ^ 32 * (c.size - 1) + netmask c.prefixLength := by
    rw [Nat.sub_mul, Nat.mul_sub]
    have bound : 2 ^ 32 ≤ 2 ^ 32 * c.size := Nat.le_mul_of_pos_right _ positive
    omega
  rw [← BitVec.toNat_inj, toNat_mask, BitVec.toNat_shiftLeft, BitVec.toNat_allOnes,
    Nat.shiftLeft_eq, ← size, shifted, Nat.mul_add_mod, Nat.mod_eq_of_lt (by omega)]

theorem toNat_and_mask (c : Cidr) (a : Ipv4) :
    (a.word &&& c.mask).toNat = a.value / c.size * c.size := by
  have below : a.value / c.size * c.size < 2 ^ 32 :=
    Nat.lt_of_le_of_lt (Nat.div_mul_le_self _ _) a.lt
  rw [mask_eq_shiftLeft, ← BitVec.shiftLeft_ushiftRight, BitVec.toNat_shiftLeft,
    BitVec.toNat_ushiftRight, a.toNat_word, Nat.shiftRight_eq_div_pow, Nat.shiftLeft_eq, ← size,
    Nat.mod_eq_of_lt below]

theorem toNat_networkWord (c : Cidr) : c.networkWord.toNat = c.network :=
  c.toNat_and_mask c.address

theorem toNat_broadcastWord (c : Cidr) : c.broadcastWord.toNat = c.broadcast := by
  have whole := c.netmask_add_size
  have bound := c.network_add_size_le
  have positive := c.size_pos
  have apart : c.networkWord &&& ~~~c.mask = 0 := by
    rw [networkWord, BitVec.and_assoc, BitVec.and_not_self]
    exact BitVec.and_zero
  have parts : c.broadcastWord = c.networkWord + ~~~c.mask := by
    rw [BitVec.add_eq_or_of_and_eq_zero _ _ apart, broadcastWord, networkWord]
    ext i
    simp only [BitVec.getElem_or, BitVec.getElem_and, BitVec.getElem_not]
    cases c.mask[i] <;> simp
  rw [parts, BitVec.toNat_add, toNat_networkWord, BitVec.toNat_not, toNat_mask, broadcast]
  omega

theorem and_mask_eq_networkWord_iff {c : Cidr} {a : Ipv4} :
    a.word &&& c.mask = c.networkWord ↔ c.contains a.value = true := by
  have positive := c.size_pos
  rw [← BitVec.toNat_inj, toNat_and_mask, toNat_networkWord, contains_iff, network,
    Nat.mul_left_inj positive.ne', Nat.div_eq_iff positive]
  omega

theorem isHostWord?_word (c : Cidr) (a : Ipv4) : c.isHostWord? a.word = some (c.isHost a) := by
  rw [isHostWord?, isHost]
  by_cases inside : c.contains a.value = true
  · have start : c.networkWord ≤ a.word := by
      rw [BitVec.le_def, toNat_networkWord, a.toNat_word]
      exact (contains_iff.mp inside).1
    have offset : (a.word - c.networkWord).toNat = a.value - c.network := by
      rw [BitVec.toNat_sub_of_le start, a.toNat_word, toNat_networkWord]
    have last : a.word = c.broadcastWord ↔ a.value = c.broadcast := by
      rw [← BitVec.toNat_inj, a.toNat_word, toNat_broadcastWord]
    have later : 3 < a.word - c.networkWord ↔ 3 < a.value - c.network := by
      rw [BitVec.lt_def, offset]
      rfl
    rw [if_pos (and_mask_eq_networkWord_iff.mpr inside), difference?, if_pos start, Option.map_some,
      inside, Bool.true_and]
    simp only [later, bne, beq_eq_decide, last]
  · rw [if_neg (mt and_mask_eq_networkWord_iff.mp inside), Bool.eq_false_iff.mpr inside,
      Bool.false_and, Bool.false_and]

/-- The hosts of a block as a list, as a test and as a number. -/
structure HostsAgree (c : Cidr) : Prop where
  ascending : c.hosts.Pairwise fun a b => a.value < b.value
  distinct : c.hosts.Nodup
  tested : ∀ a, a ∈ c.hosts ↔ c.isHost a = true
  -- in natural numbers, for the fifth address of a small block may lie beyond the last word
  between : ∀ a, a ∈ c.hosts ↔ c.network + 4 ≤ a.value ∧ a.value + 1 ≤ c.broadcast
  count : (c.hosts.length : Int) = max 0 ((2 : Int) ^ (32 - c.prefixLength) - 5)
  inWords : ∀ a : Ipv4, c.isHostWord? a.word = some (c.isHost a)

theorem mem_hosts_iff_between {c : Cidr} {a : Ipv4} :
    a ∈ c.hosts ↔ c.network + 4 ≤ a.value ∧ a.value + 1 ≤ c.broadcast := by
  have positive := c.size_pos
  rw [mem_hosts_iff, isHost_iff, broadcast]
  omega

theorem hostsAgree (c : Cidr) : HostsAgree c where
  ascending := c.hosts_ascending
  distinct := c.nodup_hosts
  tested := fun _ => mem_hosts_iff
  between := fun _ => mem_hosts_iff_between
  count := by
    have same : (c.size : Int) = 2 ^ (32 - c.prefixLength) := by
      rw [size]
      push_cast
      rfl
    rw [length_hosts, NetworkService.reservedAddresses, ← same]
    omega
  inWords := c.isHostWord?_word

example : (⟨⟨0, by decide⟩, 0, by decide⟩ : Cidr).isHostWord? (-2) = some true ∧
    (⟨⟨2 ^ 32 - 1, by decide⟩, 31, by decide⟩ : Cidr).isHostWord? (-1) = some false := by decide

end Cidr

namespace NetworkService

variable {s s' : NetworkService} {at_ : Moment} {input : CreateSubnet} {n : Subnet}

/-- The number that a subnet tells is that of its hosts, and there are some. -/
structure TellsHosts (n : Subnet) : Prop where
  count : n.availableAddresses = n.cidr.hosts.length
  least : 11 ≤ n.availableAddresses

theorem tellsHosts_of_placeable (placeable : Placeable n.cidr)
    (told : n.availableAddresses = n.cidr.hosts.length) : TellsHosts n where
  count := told
  least := by
    have greatest := placeable.greatest
    have enough : 2 ^ 4 ≤ n.cidr.size := Nat.pow_le_pow_right (by decide) (by omega)
    rw [told, Cidr.length_hosts, reservedAddresses]
    omega

theorem tellsHosts_of_createSubnet (h : s.createSubnet at_ input = .ok (n, s')) : TellsHosts n := by
  obtain ⟨v, block, zone, -, placed, -, rfl, -⟩ := createSubnet_eq_ok_iff.mp h
  exact tellsHosts_of_placeable (placeBlock_iff_sets.mp placed).2.1 (Cidr.length_hosts _).symm

theorem Consistent.tellsHosts (hc : Consistent s) (hn : n ∈ s.subnets.records) : TellsHosts n :=
  tellsHosts_of_placeable (hc.subnet_block n hn) (hc.available n hn)

/-- The views of the hosts of a block agree for every block, and every subnet that is created, in
whatever network, tells their number, as does every subnet that stands after any requests. -/
theorem host_views_agree :
    (∀ c : Cidr, c.HostsAgree) ∧
      (∀ (s : NetworkService) at_ input n s',
        s.createSubnet at_ input = .ok (n, s') → TellsHosts n) ∧
      ∀ scope qs, ∀ n ∈ (run scope qs).subnets.records, TellsHosts n :=
  ⟨Cidr.hostsAgree, fun _ _ _ _ _ => tellsHosts_of_createSubnet,
    fun scope qs _ => (network_run_consistent scope qs).2.tellsHosts⟩

end NetworkService

end ControlPlane
