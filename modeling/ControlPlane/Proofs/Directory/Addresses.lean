import ControlPlane.Proofs.Directory.Change
import ControlPlane.Proofs.Ipv4.Written
import ControlPlane.Proofs.Network.Graph
import Mathlib.Data.List.Flatten

/-!
The addresses that directories take up. The two of a new directory lie in different subnets of one
cloud, which have no address in common while the network is consistent; from all others they differ
because they were not used. What becomes of the subnets later plays no part.
-/

namespace ControlPlane.DirectoryService

variable {net : NetworkService} {s s' : DirectoryService}

def Different (texts : List String) : Prop :=
  ∃ addresses : List Ipv4, addresses.Nodup ∧ texts = addresses.map Ipv4.text

theorem different_nil : Different [] := ⟨[], List.nodup_nil, rfl⟩

theorem Different.sublist {few many : List String} (h : Different many) (hs : few.Sublist many) :
    Different few := by
  obtain ⟨addresses, nodup, rfl⟩ := h
  obtain ⟨some, sub, same⟩ := List.sublist_map_iff.mp hs
  exact ⟨some, nodup.sublist sub, same⟩

theorem Different.append_pair {used : List String} (h : Different used) {a b : Ipv4}
    (ha : a.text ∉ used) (hb : b.text ∉ used) (hne : a ≠ b) :
    Different (used ++ [a.text, b.text]) := by
  obtain ⟨addresses, nodup, rfl⟩ := h
  have new : ∀ c : Ipv4, c.text ∉ addresses.map Ipv4.text → c ∉ addresses := fun c hc hm =>
    hc (List.mem_map_of_mem hm)
  refine ⟨addresses ++ [a, b], ?_, by rw [List.map_append, List.map_cons, List.map_singleton]⟩
  rw [List.nodup_append]
  refine ⟨nodup, by simpa using hne, ?_⟩
  intro c hc d hd same
  subst same
  rcases List.mem_pair.mp hd with rfl | rfl
  · exact new c ha hc
  · exact new c hb hc

/-- Connectors are connected, and no address is held twice. -/
structure Apart (s : DirectoryService) : Prop where
  connected : ∀ d ∈ s.directories.records, d.type = .connector ↔ d.connection.isSome = true
  different : Different s.usedAddresses

theorem apart_empty (scope : Scope) (quotas : DirectoryQuotas) : Apart (empty scope quotas) where
  connected := fun _ hd => nomatch hd
  different := different_nil

theorem ne_of_located (hc : net.Consistent) {vpc : String} {ids : List String} {m n : Subnet}
    (located : Located net.view vpc ids m n) {a b : Ipv4} (ha : a ∈ m.cidr.hosts)
    (hb : b ∈ n.cidr.hosts) : a ≠ b := by
  obtain ⟨i, j, -, knownM, knownN⟩ := located.known
  have hm := (NetworkService.mem_subnets_of_view knownM).1
  have hn := (NetworkService.mem_subnets_of_view knownN).1
  have siblings : m.vpc = n.vpc := located.first.trans located.second.symm
  have other : m ≠ n := fun same => located.zones (congrArg Subnet.zone same)
  have disjoint := hc.apart m hm n hn siblings other
  intro same
  have common : b ∈ m.cidr.addresses := same ▸ Cidr.mem_addresses_of_mem_hosts ha
  exact disjoint common (Cidr.mem_addresses_of_mem_hosts hb)

theorem connected_build {d : DirectoryDraft} (typed : WellTyped d) (id : String) (now : Timestamp)
    (subnets : List Subnet) (texts : List String) :
    (build d id now subnets texts).type = .connector ↔
      (build d id now subnets texts).connection.isSome = true := by
  rw [WellTyped] at typed
  simpa [build] using typed

theorem Apart.insert (ha : Apart s) (hc : net.Consistent) {draft : DirectoryDraft} {id : String}
    {m n : Subnet} {a b : Ipv4} (now : Timestamp) (tags : TagStore) (typed : WellTyped draft)
    (free : s.directories.contains id = false)
    (located : Located net.view draft.vpc draft.subnets m n)
    (first : IsFirstFree s.usedAddresses m a) (second : IsFirstFree s.usedAddresses n b) :
    Apart { s with
      directories := s.directories.insert (build draft id now [m, n] [a.text, b.text])
      tags := tags } := by
  have free' : s.directories.contains
      (Keyed.key (build draft id now [m, n] [a.text, b.text])) = false := free
  refine ⟨?_, ?_⟩
  · intro d hd
    rcases (Registry.mem_insert_iff free').mp hd with hd | rfl
    · exact ha.connected d hd
    · exact connected_build typed _ _ _ _
  · have used := Registry.flatMap_insert Directory.occupied free'
    rw [occupied_build] at used
    have apart := ne_of_located hc located first.mem second.mem
    rw [usedAddresses, used]
    exact ha.different.append_pair first.text_not_mem second.text_not_mem apart

theorem Apart.replace (ha : Apart s) {old new : Directory}
    (live : s.directories.get? new.id = some old) (type : new.type = old.type)
    (connection : new.connection = old.connection)
    (dnsAddresses : new.dnsAddresses = old.dnsAddresses) :
    Apart { s with directories := s.directories.insert new } := by
  refine ⟨?_, ?_⟩
  · intro d hd
    rcases Registry.eq_or_mem_of_mem_insert hd with rfl | hd
    · rw [type, connection]
      exact ha.connected old (Registry.mem_of_get? live)
    · exact ha.connected d hd
  · obtain ⟨before, after, hr, hi⟩ := Registry.flatMap_insert_of_get? Directory.occupied live
    have same : new.occupied = old.occupied := by
      rw [Directory.occupied, Directory.occupied, connection, dnsAddresses]
    rw [same, ← hr] at hi
    rw [usedAddresses, hi]
    exact ha.different

theorem Apart.remove (ha : Apart s) (id : String) (tags : TagStore) :
    Apart { s with directories := s.directories.remove id, tags := tags } := by
  refine ⟨?_, ?_⟩
  · intro d hd
    exact ha.connected d (Registry.mem_remove_iff.mp hd).1
  · exact ha.different.sublist ((s.directories.records_remove_sublist id).flatMap _)

theorem Change.apart (h : Change {net.view} s s') (hc : net.Consistent) (ha : Apart s) :
    Apart s' := by
  cases h with
  | looked => exact ha
  | created draft id now m n a b typed accepted free named located room few first second =>
    exact ha.insert hc now _ typed free (located_of_locate located) first second
  | deleted d live => exact ha.remove d.id _
  | aliased d name live plain allowed new => exact ha.replace live rfl rfl rfl
  | ssoSwitched d enabled live named => exact ha.replace live rfl rfl rfl
  | tagged id tags live valid room => exact { ha with }
  | untagged id keys live => exact { ha with }

end ControlPlane.DirectoryService
