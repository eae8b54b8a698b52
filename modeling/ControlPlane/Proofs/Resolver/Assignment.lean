import ControlPlane.Proofs.Ipv4.Block
import ControlPlane.Proofs.Ipv4.Written
import ControlPlane.Proofs.Success
import ControlPlane.Resolver.Service

/-!
How addresses are given out. Each request is settled against the addresses that live endpoints hold
and those that went to the requests before it, so what comes out differs from both; and each is a
host address of a subnet that the network told of.
-/

namespace ControlPlane

def EndpointAddress.place (a : EndpointAddress) : String × String := (a.subnet, a.ip)

namespace ResolverService

variable {views : Set NetworkView} {taken : List (String × String)}

theorem heldAddresses_eq (s : ResolverService) :
    s.heldAddresses = (s.endpoints.records.flatMap (·.addresses)).map EndpointAddress.place := rfl

theorem succeeds_lift_iff {α : Type} {r : Except ResolverFault α} {a : α} :
    Lookup.Succeeds views (lift r) a ↔ r = .ok a :=
  Lookup.succeeds_mk_pure_iff

def IsHostText (n : Subnet) (ip : String) : Prop :=
  ∃ a, Ipv4.parse? ip = some a ∧ n.cidr.isHost a = true

theorem chooseAddress_some_eq_ok_iff {n : Subnet} {ip chosen : String} :
    chooseAddress taken n (some ip) = .ok chosen ↔ IsHostText n ip ∧ ip = chosen := by
  rw [chooseAddress, IsHostText]
  cases Ipv4.parse? ip with
  | none => simp
  | some a => by_cases ha : n.cidr.isHost a = true <;> simp [ha]

theorem isHostText_of_chooseAddress {n : Subnet} {wanted : Option String} {chosen : String}
    (h : chooseAddress taken n wanted = .ok chosen) : IsHostText n chosen := by
  cases wanted with
  | some ip =>
    obtain ⟨host, same⟩ := chooseAddress_some_eq_ok_iff.mp h
    exact same ▸ host
  | none =>
    rw [chooseAddress, Cidr.findHost_eq] at h
    cases found : n.cidr.hosts.find? fun a => !taken.contains (n.id, a.text) with
    | none =>
      simp only [found] at h
      cases h
    | some a =>
      simp only [found] at h
      cases h
      exact ⟨a, Ipv4.parse?_text a, Cidr.mem_hosts_iff.mp (List.mem_of_find?_eq_some found)⟩

theorem settle_eq_ok_iff {n : Subnet} {wanted : Option String} {chosen : String} :
    settle taken n wanted = .ok chosen ↔
      chooseAddress taken n wanted = .ok chosen ∧ (n.id, chosen) ∉ taken := by
  simp only [settle, bind_eq_ok_iff, guard_eq_ok_iff, pure_eq_ok_iff, List.contains_iff_mem]
  refine ⟨?_, ?_⟩
  · intro ⟨c, hc, free, same⟩
    exact same ▸ ⟨hc, free⟩
  · intro ⟨hc, free⟩
    exact ⟨chosen, hc, free, rfl⟩

/-- An address that one of the networks has for a host of the subnet it names. -/
def Usable (views : Set NetworkView) (a : EndpointAddress) : Prop :=
  ∃ view ∈ views, ∃ id n, view.subnet id = .ok n ∧ n.id = a.subnet ∧ IsHostText n a.ip

/-- What is known of addresses that are given out while some are taken. -/
structure Granted (views : Set NetworkView) (taken : List (String × String))
    (addresses : List EndpointAddress) : Prop where
  usable : ∀ a ∈ addresses, Usable views a
  apart : (addresses.map EndpointAddress.place).Nodup
  free : ∀ a ∈ addresses, a.place ∉ taken

theorem Granted.nil : Granted views taken [] := by
  refine ⟨?_, ?_, ?_⟩
  · intro a ha
    cases ha
  · exact List.nodup_nil
  · intro a ha
    cases ha

theorem Granted.cons {a : EndpointAddress} {rest : List EndpointAddress}
    (usable : Usable views a) (free : a.place ∉ taken)
    (others : Granted views (a.place :: taken) rest) : Granted views taken (a :: rest) := by
  refine ⟨?_, ?_, ?_⟩
  · intro b hb
    rcases List.mem_cons.mp hb with rfl | hb
    · exact usable
    · exact others.usable b hb
  · rw [List.map_cons, List.nodup_cons]
    refine ⟨?_, others.apart⟩
    intro hm
    obtain ⟨b, hb, same⟩ := List.mem_map.mp hm
    exact others.free b hb (same ▸ List.mem_cons_self)
  · intro b hb
    rcases List.mem_cons.mp hb with rfl | hb
    · exact free
    · exact fun hm => others.free b hb (List.mem_cons_of_mem _ hm)

theorem succeeds_assign_nil_iff {assigned : List (Subnet × String)} :
    Lookup.Succeeds views (assign taken []) assigned ↔ assigned = [] := by
  rw [assign, Lookup.succeeds_pure_iff, eq_comm]

theorem succeeds_assign_cons_iff {request : AddressRequest} {rest : List AddressRequest}
    {assigned : List (Subnet × String)} :
    Lookup.Succeeds views (assign taken (request :: rest)) assigned ↔
      ∃ n ip others, (∃ view ∈ views, view.subnet request.subnet = .ok n) ∧
        settle taken n request.ip = .ok ip ∧
        Lookup.Succeeds views (assign ((n.id, ip) :: taken) rest) others ∧
        assigned = (n, ip) :: others := by
  simp only [assign, Lookup.succeeds_bind_iff, Lookup.succeeds_orElseFail_iff,
    Lookup.mem_outcomes_askSubnet_iff, succeeds_lift_iff, Lookup.succeeds_pure_iff]
  refine ⟨?_, ?_⟩
  · intro ⟨n, told, ip, settled, others, rest, same⟩
    exact ⟨n, ip, others, told, settled, rest, same.symm⟩
  · intro ⟨n, ip, others, told, settled, rest, same⟩
    exact ⟨n, told, ip, settled, others, rest, same.symm⟩

theorem attachAll_cons (now : Timestamp) (n : Subnet) (ip : String)
    (rest : List (Subnet × String)) (draws : List Nat) :
    (attachAll now ((n, ip) :: rest) draws).1 =
      attach (Identifier.next "rni" idDigits draws).1 now n.id ip ::
        (attachAll now rest (Identifier.next "rni" idDigits draws).2).1 := rfl

theorem granted_of_assign {requests : List AddressRequest} {assigned : List (Subnet × String)}
    (h : Lookup.Succeeds views (assign taken requests) assigned) (now : Timestamp)
    (draws : List Nat) : Granted views taken (attachAll now assigned draws).1 := by
  -- The taken addresses grow by one with each request, so they vary in the induction.
  induction requests generalizing taken assigned draws with
  | nil =>
    rw [succeeds_assign_nil_iff] at h
    rw [h]
    exact .nil
  | cons request rest ih =>
    obtain ⟨n, ip, others, ⟨view, hv, told⟩, settled, ho, rfl⟩ := succeeds_assign_cons_iff.mp h
    have chosen := settle_eq_ok_iff.mp settled
    have host := isHostText_of_chooseAddress chosen.1
    rw [attachAll_cons]
    exact .cons ⟨view, hv, request.subnet, n, told, rfl, host⟩ chosen.2 (ih ho _)

theorem length_of_assign {requests : List AddressRequest} {assigned : List (Subnet × String)}
    (h : Lookup.Succeeds views (assign taken requests) assigned) :
    assigned.length = requests.length := by
  induction requests generalizing taken assigned with
  | nil =>
    rw [succeeds_assign_nil_iff] at h
    rw [h, List.length_nil, List.length_nil]
  | cons request rest ih =>
    obtain ⟨n, ip, others, -, -, ho, rfl⟩ := succeeds_assign_cons_iff.mp h
    rw [List.length_cons, List.length_cons, ih ho]

theorem length_attachAll (now : Timestamp) (assigned : List (Subnet × String)) (draws : List Nat) :
    (attachAll now assigned draws).1.length = assigned.length := by
  induction assigned generalizing draws with
  | nil => rfl
  | cons p rest ih => rw [attachAll_cons, List.length_cons, List.length_cons, ih]

end ResolverService

end ControlPlane
