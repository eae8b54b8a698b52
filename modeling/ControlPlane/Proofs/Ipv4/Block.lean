import ControlPlane.Network.Service
import Mathlib.Data.List.Basic

/-!
Blocks as sets of addresses. A block starts at a multiple of its size and sizes divide each other,
so of two blocks one lies inside the other or they have no address in common: to compare blocks it
is enough to look where one of them starts. The host addresses of a block are all but the first
four and the last.
-/

namespace ControlPlane

namespace Cidr

theorem size_dvd_network (c : Cidr) : c.size ∣ c.network := Nat.dvd_mul_left _ _

theorem size_dvd_size {a b : Cidr} (h : a.prefixLength ≤ b.prefixLength) : b.size ∣ a.size :=
  Nat.pow_dvd_pow 2 (by omega)

theorem prefixLength_le_of_size_le {a b : Cidr} (h : b.size ≤ a.size) :
    a.prefixLength ≤ b.prefixLength := by
  have ha := a.le
  have hb := b.le
  have exponents := (Nat.pow_le_pow_iff_right (a := 2) (by decide)).mp h
  omega

theorem mem_addresses_iff {c : Cidr} {a : Ipv4} :
    a ∈ c.addresses ↔ c.network ≤ a.value ∧ a.value < c.network + c.size := by
  have bound := c.network_add_size_le
  simp only [addresses, List.mem_map, List.mem_range]
  refine ⟨?_, ?_⟩
  · intro h
    obtain ⟨i, hi, same⟩ := h
    rw [← same, Ipv4.value_ofNat (by omega)]
    omega
  · intro h
    refine ⟨a.value - c.network, by omega, Ipv4.ext ?_⟩
    rw [Ipv4.value_ofNat (by omega)]
    omega

def first (c : Cidr) : Ipv4 := Ipv4.ofNat c.network

theorem value_first (c : Cidr) : c.first.value = c.network := by
  have bound := c.network_add_size_le
  have positive := c.size_pos
  exact Ipv4.value_ofNat (by omega)

theorem first_mem_addresses (c : Cidr) : c.first ∈ c.addresses := by
  have positive := c.size_pos
  rw [mem_addresses_iff, value_first]
  omega

theorem subset_of_common {inner outer : Cidr} (h : outer.prefixLength ≤ inner.prefixLength)
    {a : Ipv4} (hi : a ∈ inner.addresses) (ho : a ∈ outer.addresses) :
    inner.addresses ⊆ outer.addresses := by
  rw [mem_addresses_iff] at hi ho
  have sizes := size_dvd_size h
  have start : inner.size ∣ outer.network := Nat.dvd_trans sizes outer.size_dvd_network
  have stop : inner.size ∣ outer.network + outer.size := Nat.dvd_add start sizes
  -- All ends are multiples of the smaller size, so none falls strictly inside the smaller block.
  have lower : outer.network ≤ inner.network :=
    Nat.le_of_lt_add_of_dvd (by omega) start inner.size_dvd_network
  have upper : inner.network + inner.size ≤ outer.network + outer.size :=
    Nat.le_of_lt_add_of_dvd (by omega) (Nat.dvd_add inner.size_dvd_network (Nat.dvd_refl _)) stop
  intro b hb
  rw [mem_addresses_iff] at hb ⊢
  omega

theorem size_le_of_subset {inner outer : Cidr} (h : inner.addresses ⊆ outer.addresses) :
    inner.size ≤ outer.size := by
  have positive := inner.size_pos
  have bound := inner.network_add_size_le
  have low := h inner.first_mem_addresses
  have last : Ipv4.ofNat (inner.network + (inner.size - 1)) ∈ inner.addresses := by
    rw [mem_addresses_iff, Ipv4.value_ofNat (by omega)]
    omega
  have high := h last
  rw [mem_addresses_iff, value_first] at low
  rw [mem_addresses_iff, Ipv4.value_ofNat (by omega)] at high
  omega

end Cidr

namespace NetworkService

open Cidr

theorem contains_network_iff {outer inner : Cidr} :
    outer.contains inner.network = true ↔ inner.first ∈ outer.addresses := by
  rw [contains_iff, mem_addresses_iff, value_first]

theorem liesIn_iff {inner outer : Cidr} :
    liesIn inner outer = true ↔ inner.addresses ⊆ outer.addresses := by
  rw [liesIn, Bool.and_eq_true, decide_eq_true_eq, contains_network_iff]
  refine ⟨?_, ?_⟩
  · intro ⟨hp, hf⟩
    exact subset_of_common hp inner.first_mem_addresses hf
  · intro h
    exact ⟨prefixLength_le_of_size_le (size_le_of_subset h), h inner.first_mem_addresses⟩

theorem intersect_iff {a b : Cidr} :
    intersect a b = true ↔ ∃ x, x ∈ a.addresses ∧ x ∈ b.addresses := by
  rw [intersect, Bool.or_eq_true, contains_network_iff, contains_network_iff]
  refine ⟨?_, ?_⟩
  · intro h
    rcases h with h | h
    · exact ⟨b.first, h, b.first_mem_addresses⟩
    · exact ⟨a.first, a.first_mem_addresses, h⟩
  · intro ⟨x, ha, hb⟩
    rcases Nat.le_total a.prefixLength b.prefixLength with hp | hp
    · exact Or.inl (subset_of_common hp hb ha b.first_mem_addresses)
    · exact Or.inr (subset_of_common hp ha hb a.first_mem_addresses)

theorem disjoint_of_not_intersect {a b : Cidr} (h : intersect a b = false) :
    a.addresses.Disjoint b.addresses := by
  intro x ha hb
  rw [intersect_iff.mpr ⟨x, ha, hb⟩] at h
  cases h

end NetworkService

namespace Cidr

theorem isHost_iff {c : Cidr} {a : Ipv4} :
    c.isHost a = true ↔ c.network + 4 ≤ a.value ∧ a.value + 1 < c.network + c.size := by
  have positive := c.size_pos
  simp only [isHost, Bool.and_eq_true, contains_iff, decide_eq_true_eq, bne_iff_ne, broadcast]
  omega

theorem mem_hosts_iff {c : Cidr} {a : Ipv4} : a ∈ c.hosts ↔ c.isHost a = true := by
  rw [hosts, List.mem_filter, mem_addresses_iff]
  refine ⟨?_, ?_⟩
  · exact fun h => h.2
  · intro h
    have range := isHost_iff.mp h
    exact ⟨by omega, h⟩

theorem mem_addresses_of_mem_hosts {c : Cidr} {a : Ipv4} (h : a ∈ c.hosts) : a ∈ c.addresses :=
  (List.mem_filter.mp h).1

theorem isHost_offset {c : Cidr} {i : Nat} (h : i < c.size) :
    c.isHost (Ipv4.ofNat (c.network + i)) = decide (4 ≤ i ∧ i + 1 < c.size) := by
  have bound := c.network_add_size_le
  rw [Bool.eq_iff_iff, isHost_iff, Ipv4.value_ofNat (by omega), decide_eq_true_eq]
  omega

theorem filter_range_inner (n : Nat) :
    (List.range n).filter (fun i => decide (4 ≤ i ∧ i + 1 < n)) =
      (List.range (n - 5)).map (4 + ·) := by
  rcases Nat.lt_or_ge n 5 with hn | hn
  · rw [show n - 5 = 0 by omega, List.range_zero, List.map_nil, List.filter_eq_nil_iff]
    intro i hi
    have := List.mem_range.mp hi
    rw [decide_eq_true_eq]
    omega
  · obtain ⟨k, rfl⟩ : ∃ k, n = 4 + k + 1 := ⟨n - 5, by omega⟩
    have low : (List.range 4).filter (fun i => decide (4 ≤ i ∧ i + 1 < 4 + k + 1)) = [] := by
      rw [List.filter_eq_nil_iff]
      intro i hi
      have := List.mem_range.mp hi
      rw [decide_eq_true_eq]
      omega
    have middle : ((List.range k).map (4 + ·)).filter
        (fun i => decide (4 ≤ i ∧ i + 1 < 4 + k + 1)) = (List.range k).map (4 + ·) := by
      rw [List.filter_eq_self]
      intro i hi
      obtain ⟨j, hj, rfl⟩ := List.mem_map.mp hi
      have := List.mem_range.mp hj
      rw [decide_eq_true_eq]
      omega
    rw [List.range_succ, List.range_add, List.filter_append, List.filter_append, low, middle,
      show 4 + k + 1 - 5 = k by omega]
    simp

theorem hosts_eq (c : Cidr) :
    c.hosts = (List.range (c.size - 5)).map fun i => Ipv4.ofNat (c.network + 4 + i) := by
  have inner : (List.range c.size).filter
      (c.isHost ∘ fun i => Ipv4.ofNat (c.network + i)) =
        (List.range c.size).filter fun i => decide (4 ≤ i ∧ i + 1 < c.size) := by
    apply List.filter_congr
    intro i hi
    exact isHost_offset (List.mem_range.mp hi)
  rw [hosts, addresses, List.filter_map, inner, filter_range_inner, List.map_map]
  apply List.map_congr_left
  intro i _
  simp only [Function.comp_apply, Nat.add_assoc]

theorem hosts_ascending (c : Cidr) : c.hosts.Pairwise fun a b => a.value < b.value := by
  have bound := c.network_add_size_le
  rw [hosts_eq, List.pairwise_map]
  apply List.pairwise_lt_range.imp_of_mem
  intro i j hi hj lt
  rw [List.mem_range] at hi hj
  rw [Ipv4.value_ofNat (by omega), Ipv4.value_ofNat (by omega)]
  omega

theorem nodup_hosts (c : Cidr) : c.hosts.Nodup := by
  apply c.hosts_ascending.imp
  intro a b lt same
  rw [same] at lt
  exact Nat.lt_irrefl _ lt

theorem le_of_findHost {c : Cidr} {p : Ipv4 → Bool} {a b : Ipv4} (found : c.findHost p = some a)
    (host : b ∈ c.hosts) (holds : p b = true) : a.value ≤ b.value := by
  rw [findHost_eq] at found
  obtain ⟨-, before, after, split, skipped⟩ := List.find?_eq_some_iff_append.mp found
  have ascending := c.hosts_ascending
  rw [split] at ascending host
  rcases List.mem_append.mp host with early | late
  · have wanting := skipped b early
    rw [holds] at wanting
    cases wanting
  · rcases List.mem_cons.mp late with rfl | late
    · exact Nat.le_refl _
    · have rest := (List.pairwise_append.mp ascending).2.1
      exact Nat.le_of_lt (List.rel_of_pairwise_cons rest late)

theorem findHost_eq_none_iff {c : Cidr} {p : Ipv4 → Bool} :
    c.findHost p = none ↔ ∀ a ∈ c.hosts, p a = false := by
  rw [findHost_eq, List.find?_eq_none]
  simp only [Bool.not_eq_true]

theorem findHost_eq_some_iff {c : Cidr} {p : Ipv4 → Bool} {a : Ipv4} :
    c.findHost p = some a ↔
      a ∈ c.hosts ∧ p a = true ∧ ∀ b ∈ c.hosts, p b = true → a.value ≤ b.value := by
  refine ⟨?_, ?_⟩
  · intro found
    have first := found
    rw [findHost_eq] at first
    exact ⟨List.mem_of_find?_eq_some first, List.find?_some first, fun _ => le_of_findHost found⟩
  · intro ⟨host, holds, least⟩
    cases found : c.findHost p with
    | none =>
      have wanting := findHost_eq_none_iff.mp found a host
      rw [holds] at wanting
      cases wanting
    | some b =>
      have first := found
      rw [findHost_eq] at first
      have upper := le_of_findHost found host holds
      have lower := least b (List.mem_of_find?_eq_some first) (List.find?_some first)
      exact congrArg some (Ipv4.ext (Nat.le_antisymm upper lower))

theorem length_hosts (c : Cidr) : c.hosts.length = c.size - NetworkService.reservedAddresses := by
  rw [hosts_eq, List.length_map, List.length_range, NetworkService.reservedAddresses]

end Cidr

end ControlPlane
