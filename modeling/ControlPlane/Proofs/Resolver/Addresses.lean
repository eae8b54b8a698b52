import ControlPlane.Proofs.Resolver.Change
import Mathlib.Data.List.Flatten

/-!
The addresses that endpoints hold. Their number stays within its bounds and is the one that is
shown; no two are held in the same place; and an address that was not held before a request was a
host address of its subnet when the request was served.
-/

namespace ControlPlane.ResolverService

open ResolverConstraint

variable {views : Set NetworkView} {s s' : ResolverService} {id : String} {a : EndpointAddress}

structure Counted (e : Endpoint) : Prop where
  least : 2 ≤ e.addresses.length
  greatest : e.addresses.length ≤ 10
  shown : e.addressCount = e.addresses.length

structure Addressed (s : ResolverService) : Prop where
  counted : ∀ e ∈ s.endpoints.records, Counted e
  apart : s.heldAddresses.Nodup

theorem addressed_empty (scope : Scope) (quotas : ResolverQuotas) :
    Addressed (empty scope quotas) where
  counted := fun _ he => nomatch he
  apart := List.nodup_nil

theorem heldAddresses_eq_flatMap (s : ResolverService) :
    s.heldAddresses =
      s.endpoints.records.flatMap fun e => e.addresses.map EndpointAddress.place := by
  rw [heldAddresses_eq, List.map_flatMap]

theorem Addressed.insert (ha : Addressed s) {e : Endpoint} (tags : TagStore)
    (free : s.endpoints.contains e.id = false) (granted : Granted views s.heldAddresses e.addresses)
    (counted : Counted e) :
    Addressed { s with endpoints := s.endpoints.insert e, tags := tags } := by
  refine ⟨?_, ?_⟩
  · intro d hd
    rcases (Registry.mem_insert_iff free).mp hd with hd | rfl
    · exact ha.counted d hd
    · exact counted
  · have held := Registry.flatMap_insert
      (fun e : Endpoint => e.addresses.map EndpointAddress.place) free
    rw [← heldAddresses_eq_flatMap] at held
    rw [heldAddresses_eq_flatMap, held, List.nodup_append]
    refine ⟨ha.apart, granted.apart, ?_⟩
    intro p hp q hq same
    obtain ⟨b, hb, rfl⟩ := List.mem_map.mp hq
    exact granted.free b hb (same ▸ hp)

theorem AddressChange.counted {taken : List (String × String)} {old new : Endpoint}
    (h : AddressChange views taken old new) (hc : Counted old) : Counted new := by
  have least := hc.least
  have greatest := hc.greatest
  cases h with
  | kept addresses count =>
    exact ⟨addresses ▸ least, addresses ▸ greatest, by rw [count, addresses, hc.shown]⟩
  | added b granted room addresses count =>
    have length : new.addresses.length = old.addresses.length + 1 := by
      rw [addresses, List.length_append, List.length_singleton]
    rw [maxAddresses] at room
    exact ⟨by omega, by omega, count⟩
  | removed i enough addresses count =>
    have fewer := List.length_eraseIdx_le old.addresses i
    have most := List.le_length_eraseIdx old.addresses i
    rw [← addresses] at fewer most
    rw [minAddresses] at enough
    exact ⟨by omega, by omega, count⟩

theorem AddressChange.nodup {old new : Endpoint} {before after : List (String × String)}
    (h : AddressChange views (before ++ old.addresses.map EndpointAddress.place ++ after) old new)
    (hn : (before ++ old.addresses.map EndpointAddress.place ++ after).Nodup) :
    (before ++ new.addresses.map EndpointAddress.place ++ after).Nodup := by
  cases h with
  | kept addresses count =>
    rw [addresses]
    exact hn
  | added b granted room addresses count =>
    have free := granted.free b List.mem_cons_self
    rw [addresses, List.map_append, List.map_singleton, ← List.append_assoc, List.append_assoc,
      List.singleton_append, List.nodup_middle, List.nodup_cons]
    exact ⟨free, hn⟩
  | removed i enough addresses count =>
    have fewer := (old.addresses.eraseIdx_sublist i).map EndpointAddress.place
    rw [addresses]
    exact hn.sublist ((fewer.append_left before).append_right after)

theorem Addressed.replace (ha : Addressed s) {old new : Endpoint}
    (live : s.endpoints.get? new.id = some old)
    (addresses : AddressChange views s.heldAddresses old new) :
    Addressed { s with endpoints := s.endpoints.insert new } := by
  refine ⟨?_, ?_⟩
  · intro e he
    rcases Registry.eq_or_mem_of_mem_insert he with rfl | he
    · exact addresses.counted (ha.counted old (Registry.mem_of_get? live))
    · exact ha.counted e he
  · obtain ⟨before, after, hr, hi⟩ := Registry.flatMap_insert_of_get?
      (fun e : Endpoint => e.addresses.map EndpointAddress.place) live
    rw [← heldAddresses_eq_flatMap] at hr
    have nodup := ha.apart
    rw [hr] at nodup addresses
    rw [heldAddresses_eq_flatMap, hi]
    exact addresses.nodup nodup

theorem Addressed.remove (ha : Addressed s) (id : String) (tags : TagStore) :
    Addressed { s with endpoints := s.endpoints.remove id, tags := tags } := by
  refine ⟨?_, ?_⟩
  · intro e he
    exact ha.counted e (Registry.mem_remove_iff.mp he).1
  · have fewer := (s.endpoints.records_remove_sublist id).flatMap fun e => e.addresses
    exact ha.apart.sublist (fewer.map EndpointAddress.place)

theorem Change.addressed (h : Change views s s') (ha : Addressed s) : Addressed s' := by
  cases h with
  | looked => exact ha
  | endpointCreated e tags accepted room free numbered arn new granted count least greatest =>
    exact ha.insert _ free granted ⟨least, greatest, count⟩
  | endpointReplaced old new live arn requestId direction addresses =>
    exact ha.replace live addresses
  | endpointDeleted old live unused => exact ha.remove old.id _
  | ruleCreated r tags accepted room free numbered arn new bare targets out => exact { ha with }
  | ruleDeleted old live unused => exact { ha with }
  | associated a r live new room free numbered => exact { ha with }
  | disassociated a live => exact { ha with }
  | tagged arn tags live accepted room => exact { ha with }
  | untagged arn keys live => exact { ha with }

theorem Addressed.pairwise (ha : Addressed s) :
    (s.endpoints.records.flatMap (·.addresses)).Pairwise fun a b =>
      a.subnet = b.subnet → ∀ x, Ipv4.parse? a.ip = some x → Ipv4.parse? b.ip ≠ some x := by
  have apart := ha.apart
  rw [heldAddresses_eq, List.Nodup, List.pairwise_map] at apart
  apply apart.imp
  intro a b different subnet x first second
  have ip := Ipv4.eq_of_parse?_eq first second
  exact different (Prod.ext subnet ip)

def Holds (s : ResolverService) (id : String) (a : EndpointAddress) : Prop :=
  ∃ e ∈ s.endpoints.records, e.id = id ∧ a ∈ e.addresses

theorem AddressChange.usable_of_not_mem {taken : List (String × String)} {old new : Endpoint}
    (h : AddressChange views taken old new) (now : a ∈ new.addresses)
    (before : a ∉ old.addresses) : Usable views a := by
  cases h with
  | kept addresses count => exact absurd (addresses ▸ now) before
  | added b granted room addresses count =>
    rw [addresses, List.mem_append] at now
    exact granted.usable a (now.resolve_left before)
  | removed i enough addresses count =>
    rw [addresses] at now
    exact absurd (List.mem_of_mem_eraseIdx now) before

/-- An address is new by a request only if it is usable when the request is served. -/
theorem Change.usable_of_not_holds (h : Change views s s') (now : s'.Holds id a)
    (before : ¬s.Holds id a) : Usable views a := by
  obtain ⟨e, he, rfl, ha⟩ := now
  have fresh : ∀ d ∈ s.endpoints.records, d.id = e.id → a ∉ d.addresses := fun d hd same hm =>
    before ⟨d, hd, same, hm⟩
  cases h with
  | endpointCreated d tags accepted room free numbered arn new granted count least greatest =>
    rcases (Registry.mem_insert_iff free).mp he with he | rfl
    · exact absurd ha (fresh e he rfl)
    · exact granted.usable a ha
  | endpointReplaced old new live arn requestId direction addresses =>
    rcases Registry.eq_or_mem_of_mem_insert he with rfl | he
    · have key : old.id = e.id := Registry.key_of_get? live
      exact addresses.usable_of_not_mem ha (fresh old (Registry.mem_of_get? live) key)
    · exact absurd ha (fresh e he rfl)
  | endpointDeleted old live unused =>
    exact absurd ha (fresh e (Registry.mem_remove_iff.mp he).1 rfl)
  | looked => exact absurd ha (fresh e he rfl)
  | ruleCreated r tags accepted room free numbered arn new bare targets out =>
    exact absurd ha (fresh e he rfl)
  | ruleDeleted old live unused => exact absurd ha (fresh e he rfl)
  | associated b r live new room free numbered => exact absurd ha (fresh e he rfl)
  | disassociated b live => exact absurd ha (fresh e he rfl)
  | tagged arn tags live accepted room => exact absurd ha (fresh e he rfl)
  | untagged arn keys live => exact absurd ha (fresh e he rfl)

end ControlPlane.ResolverService
