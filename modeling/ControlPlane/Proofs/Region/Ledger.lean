import ControlPlane.Proofs.Delivery.Note
import ControlPlane.Proofs.Directory.Note
import ControlPlane.Proofs.Network.Note
import ControlPlane.Proofs.Region.Run
import ControlPlane.Proofs.Resolver.Note
import ControlPlane.Proofs.Signing.Note

/-!
The ids that a region keeps are those that its notes tell of: after every history, for every kind of
resource, in the order in which they came.
-/

namespace ControlPlane.Region

variable {scope : Scope} {quotas : Quotas} {r r' : Region}

def keys (r : Region) : ResourceKind → List String
  | .vpc => r.network.vpcs.keys
  | .subnet => r.network.subnets.keys
  | .securityGroup => r.network.groups.keys
  | .directory => r.directory.directories.keys
  | .endpoint => r.resolver.endpoints.keys
  | .rule => r.resolver.rules.keys
  | .association => r.resolver.associations.keys
  | .stream => r.delivery.streams.keys
  | .profile => r.signing.profiles.keys

theorem nodup_keys (r : Region) (kind : ResourceKind) : (r.keys kind).Nodup := by
  cases kind with
  | vpc => exact r.network.vpcs.nodup
  | subnet => exact r.network.subnets.nodup
  | securityGroup => exact r.network.groups.nodup
  | directory => exact r.directory.directories.nodup
  | endpoint => exact r.resolver.endpoints.nodup
  | rule => exact r.resolver.rules.nodup
  | association => exact r.resolver.associations.nodup
  | stream => exact r.delivery.streams.nodup
  | profile => exact r.signing.profiles.nodup

/-- A request to one service tells of the kinds of that service and leaves all others alone. -/
theorem keys_of_serve {at_ : Moment} {service : ServiceName} {action : String} {bag j : Json}
    (h : r.serve at_ service action bag = .ok (j, r')) (kind : ResourceKind) :
    r'.keys kind =
      (if service = kind.service then kind.note action bag j else .nothing).apply (r.keys kind) := by
  cases service with
  | network =>
    obtain ⟨⟨_, s⟩, served, same⟩ := map_eq_ok_iff.mp h
    cases same
    obtain ⟨op, input, output, hop, hd, hr, rfl⟩ := Catalog.exists_of_serve served
    have noted := NetworkService.noted_of_run hop hd hr
    cases kind with
    | vpc => exact noted.vpcs
    | subnet => exact noted.subnets
    | securityGroup => exact noted.groups
    | _ => rfl
  | directory =>
    obtain ⟨⟨_, s⟩, served, same⟩ := map_eq_ok_iff.mp h
    cases same
    obtain ⟨op, input, output, hop, -, hr, rfl⟩ :=
      Catalog.exists_of_mem_outcomes_serve (Lookup.mem_outcomes_singleton_iff.mpr served.symm)
    have noted := DirectoryService.noted_of_run hop hr bag
    cases kind with
    | directory => exact noted
    | _ => rfl
  | resolver =>
    obtain ⟨⟨_, s⟩, served, same⟩ := map_eq_ok_iff.mp h
    cases same
    obtain ⟨op, input, output, hop, -, hr, rfl⟩ :=
      Catalog.exists_of_mem_outcomes_serve (Lookup.mem_outcomes_singleton_iff.mpr served.symm)
    have noted := ResolverService.noted_of_run hop hr bag
    cases kind with
    | endpoint => exact noted.endpoints
    | rule => exact noted.rules
    | association => exact noted.associations
    | _ => rfl
  | delivery =>
    obtain ⟨⟨_, s⟩, served, same⟩ := map_eq_ok_iff.mp h
    cases same
    obtain ⟨op, input, output, hop, hd, hr, rfl⟩ := Catalog.exists_of_serve served
    have noted := DeliveryService.noted_of_run hop hd hr
    cases kind with
    | stream => exact noted
    | _ => rfl
  | signing =>
    obtain ⟨⟨_, s⟩, served, same⟩ := map_eq_ok_iff.mp h
    cases same
    obtain ⟨op, input, output, hop, hd, hr, rfl⟩ := Catalog.exists_of_serve served
    have noted := SigningService.noted_of_run hop hd hr
    cases kind with
    | profile => exact noted
    | _ => rfl

theorem keys_reset (r : Region) (service : ServiceName) (kind : ResourceKind) :
    (r.reset service).keys kind = if service = kind.service then [] else r.keys kind := by
  cases service <;> cases kind <;> rfl

theorem keys_restart (r : Region) (kind : ResourceKind) : r.restart.keys kind = [] := by
  cases kind <;> rfl

theorem keys_after (r : Region) (kind : ResourceKind) (step : Step) :
    (r.after step).keys kind = (r.note kind step).apply (r.keys kind) := by
  cases step with
  | request at_ service action bag =>
    simp only [after, note]
    cases served : r.serve at_ service action bag with
    | ok answered => exact keys_of_serve served kind
    | error e =>
      simp only [ite_self]
      rfl
  | reset service =>
    rw [after, note, keys_reset]
    split
    · rfl
    · rfl
  | restart => exact keys_restart r kind

theorem keys_run (scope : Scope) (quotas : Quotas) (kind : ResourceKind) (steps : List Step) :
    (run scope quotas steps).keys kind = Note.live (notes kind (new scope quotas) steps) := by
  induction steps using List.reverseRecOn with
  | nil => cases kind <;> rfl
  | append_singleton steps step ih =>
    rw [run_concat, keys_after, ih, notes_concat, Note.live_concat]
    rfl

end ControlPlane.Region
