import ControlPlane.Proofs.Directory.Addresses
import ControlPlane.Proofs.Region.Run
import ControlPlane.Proofs.Resolver.Addresses

/-!
Addresses in the history of a region. Main statements: endpoints hold addresses that were host
addresses of their subnets when they were added, and no two in one subnet that are the same; and no
address is taken up by two directories. Subnets that others refer to may be deleted, and made anew
in other blocks, at any time between.
-/

namespace ControlPlane.Region

variable {scope : Scope} {quotas : Quotas} {r r' : Region}

theorem Change.addressed (h : Change r r') (ha : r.resolver.Addressed) : r'.resolver.Addressed := by
  rcases h.resolver_change with change | empty
  · exact change.addressed ha
  · rw [empty]
    exact ResolverService.addressed_empty _ _

theorem addressed (scope : Scope) (quotas : Quotas) (steps : List Step) :
    (run scope quotas steps).resolver.Addressed :=
  run_induction (ResolverService.addressed_empty _ _)
    (fun _ _ change held => change.addressed held) steps

def IsHostIn (net : NetworkService) (a : EndpointAddress) : Prop :=
  ∃ n ∈ net.subnets.records, n.id = a.subnet ∧ ResolverService.IsHostText n a.ip

theorem isHostIn_of_usable {net : NetworkService} {a : EndpointAddress}
    (h : ResolverService.Usable {net.view} a) : IsHostIn net a := by
  obtain ⟨view, hv, id, n, told, same, host⟩ := h
  rw [Set.mem_singleton_iff] at hv
  subst hv
  exact ⟨n, (NetworkService.mem_subnets_of_view told).1, same, host⟩

theorem Change.isHostIn_of_not_holds (h : Change r r') {id : String} {a : EndpointAddress}
    (now : r'.resolver.Holds id a) (before : ¬r.resolver.Holds id a) : IsHostIn r.network a := by
  rcases h.resolver_change with change | empty
  · exact isHostIn_of_usable (change.usable_of_not_holds now before)
  · rw [empty] at now
    obtain ⟨e, he, -⟩ := now
    cases he

/-- Some step added the address, as a host address of its subnet at that moment, and the endpoint
has held it ever since. -/
def AddedAsHost (scope : Scope) (quotas : Quotas) (steps : List Step) (id : String)
    (a : EndpointAddress) : Prop :=
  ∃ before step since, steps = before ++ step :: since ∧
    ¬(run scope quotas before).resolver.Holds id a ∧
    (∀ part, part <+: since → (run scope quotas (before ++ step :: part)).resolver.Holds id a) ∧
    IsHostIn (run scope quotas before).network a

theorem addedAsHost_of_holds {steps : List Step} {id : String} {a : EndpointAddress}
    (now : (run scope quotas steps).resolver.Holds id a) :
    AddedAsHost scope quotas steps id a := by
  have start : ¬(new scope quotas).resolver.Holds id a := fun ⟨_, he, _⟩ => nomatch he
  obtain ⟨before, step, since, rfl, absent, held⟩ :=
    exists_onset (fun r => r.resolver.Holds id a) start now
  have added := held [] List.nil_prefix
  rw [run_concat] at added
  exact ⟨before, step, since, rfl, absent, held,
    (change_after _ step).isHostIn_of_not_holds added absent⟩

structure EndpointsSound (scope : Scope) (quotas : Quotas) (steps : List Step)
    (s : ResolverService) : Prop where
  counted : ∀ e ∈ s.endpoints.records, ResolverService.Counted e
  different : (s.endpoints.records.flatMap (·.addresses)).Pairwise fun a b =>
    a.subnet = b.subnet → ∀ x, Ipv4.parse? a.ip = some x → Ipv4.parse? b.ip ≠ some x
  added : ∀ e ∈ s.endpoints.records, ∀ a ∈ e.addresses, AddedAsHost scope quotas steps e.id a

/-- In every region that steps lead to, endpoints hold two to ten addresses, all different in their
subnets, and each was a host address of its subnet when it was added. -/
theorem endpoint_addresses_sound (scope : Scope) (quotas : Quotas) (steps : List Step) :
    EndpointsSound scope quotas steps (run scope quotas steps).resolver where
  counted := (addressed scope quotas steps).counted
  different := (addressed scope quotas steps).pairwise
  added := fun e he _ ha => addedAsHost_of_holds ⟨e, he, rfl, ha⟩

theorem Change.directories_apart (h : Change r r') (hc : r.network.Consistent)
    (ha : r.directory.Apart) : r'.directory.Apart := by
  rcases h.directory_change with change | empty
  · exact change.apart hc ha
  · rw [empty]
    exact DirectoryService.apart_empty _ _

/-- In every region that steps lead to, the addresses that live directories take up are all
different, within one directory and between any two. -/
theorem directory_addresses_apart (scope : Scope) (quotas : Quotas) (steps : List Step) :
    (run scope quotas steps).directory.Apart := by
  induction steps using List.reverseRecOn with
  | nil => exact DirectoryService.apart_empty _ _
  | append_singleton steps step ih =>
    rw [run_concat]
    exact (change_after _ step).directories_apart (network_consistent scope quotas steps) ih

end ControlPlane.Region
