import ControlPlane.Proofs.Delivery.Tags
import ControlPlane.Proofs.Directory.Tags
import ControlPlane.Proofs.Network.Tags
import ControlPlane.Proofs.Region.Run
import ControlPlane.Proofs.Resolver.Tags
import ControlPlane.Proofs.Signing.Tags

/-!
Tags in the five services. Main statement: whatever requests a service has met, every entry of its
tag store belongs to something that is there, and what is created has the tags of its request and
none that were left over.
-/

namespace ControlPlane

/-- What holds of the tags of each service after any requests to it. Services that ask the network
may be answered by another network each time. -/
theorem tags_exact_in_every_service (scope : Scope) (quotas : Quotas) (qs : List Request)
    (asked : List (Request × (Nat → NetworkView))) :
    (NetworkService.run scope qs).TagsSound ∧
      (DirectoryService.run scope quotas.directory asked).TagsSound ∧
      (ResolverService.run scope quotas.resolver asked).TagsSound ∧
      (DeliveryService.run scope quotas.delivery qs).TagsSound ∧
      (SigningService.run scope qs).TagsSound :=
  ⟨(NetworkService.labelled_run scope qs).tagsSound,
    (DirectoryService.labelled_run scope quotas.directory asked).tagsSound,
    (ResolverService.labelled_run scope quotas.resolver asked).tagsSound,
    (DeliveryService.labelled_run scope quotas.delivery qs).tagsSound,
    (SigningService.labelled_run scope qs).tagsSound⟩

namespace Region

variable {r r' : Region}

structure Labelled (r : Region) : Prop where
  network : NetworkService.Labelled r.network
  directory : DirectoryService.Labelled r.directory
  resolver : ResolverService.Labelled r.resolver
  delivery : DeliveryService.Labelled r.delivery
  signing : SigningService.Labelled r.signing

theorem labelled_new (scope : Scope) (quotas : Quotas) : Labelled (new scope quotas) where
  network := NetworkService.labelled_empty scope
  directory := DirectoryService.labelled_empty scope quotas.directory
  resolver := ResolverService.labelled_empty scope quotas.resolver
  delivery := DeliveryService.labelled_empty scope quotas.delivery
  signing := SigningService.labelled_empty scope

theorem Change.labelled (h : Change r r') (hl : Labelled r) : Labelled r' where
  network := by
    rcases h.network_change with change | empty
    · exact change.labelled hl.network
    · exact empty ▸ NetworkService.labelled_empty r.scope
  directory := by
    rcases h.directory_change with change | empty
    · exact change.labelled hl.directory
    · exact empty ▸ DirectoryService.labelled_empty r.scope r.quotas.directory
  resolver := by
    rcases h.resolver_change with change | empty
    · exact change.labelled hl.resolver
    · exact empty ▸ ResolverService.labelled_empty r.scope r.quotas.resolver
  delivery := by
    rcases h.delivery_change with change | empty
    · exact change.labelled hl.delivery
    · exact empty ▸ DeliveryService.labelled_empty r.scope r.quotas.delivery
  signing := by
    rcases h.signing_change with change | empty
    · exact change.labelled hl.signing
    · exact empty ▸ SigningService.labelled_empty r.scope

theorem labelled_run (scope : Scope) (quotas : Quotas) (steps : List Step) :
    Labelled (run scope quotas steps) :=
  run_induction (labelled_new scope quotas) (fun _ _ change held => change.labelled held) steps

end Region

end ControlPlane
