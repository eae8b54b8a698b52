import ControlPlane.Proofs.Delivery.Undo
import ControlPlane.Proofs.Directory.Undo
import ControlPlane.Proofs.Network.Undo
import ControlPlane.Proofs.Region.Contents
import ControlPlane.Proofs.Region.Tags
import ControlPlane.Proofs.Resolver.Undo

/-!
Creations that are taken back. Main statement: whatever has been created in a region can be deleted
at once by what its answer tells, and the region is then as it was before: all records in their
order, all tags, and with them all that was taken, addresses, names and room within the quotas.
-/

namespace ControlPlane.Region

variable {r r' : Region}

theorem Change.resolver_consistent (h : Change r r') (hc : r.resolver.Consistent) :
    r'.resolver.Consistent := by
  rcases h.resolver_change with change | empty
  · exact change.consistent hc
  · rw [empty]
    exact ResolverService.consistent_empty r.scope r.quotas.resolver

theorem resolver_consistent (scope : Scope) (quotas : Quotas) (steps : List Step) :
    (run scope quotas steps).resolver.Consistent :=
  run_induction (ResolverService.consistent_empty scope quotas.resolver)
    (fun _ _ change held => change.resolver_consistent held) steps

/-- A creation that is served can be undone by a deletion that is served next. A signing profile
has no deletion. -/
theorem creation_undone_by_deletion (scope : Scope) (quotas : Quotas) (steps : List Step)
    (kind : ResourceKind) {creation deletion : String} (creates : creation ∈ kind.creations)
    (deletes : deletion ∈ kind.deletions) (at_ later : Moment) {bag answer : Json}
    (served : (run scope quotas steps).serve at_ kind.service creation bag = .ok (answer, r'))
    (fits : Countable r') :
    ∃ undo gone, kind.deletionBag? bag answer = some undo ∧
      r'.serve later kind.service deletion undo = .ok (gone, run scope quotas steps) := by
  have labelled := labelled_run scope quotas steps
  have network := network_consistent scope quotas steps
  have resolver := resolver_consistent scope quotas steps
  generalize run scope quotas steps = r at served labelled network resolver ⊢
  cases kept : kind.service with
  | network =>
    rw [kept] at served
    obtain ⟨⟨_, s⟩, ran, same⟩ := map_eq_ok_iff.mp served
    cases same
    obtain ⟨undo, gone, told, undone⟩ :=
      NetworkService.exists_undo kept creates deletes network labelled.network ran
    exact ⟨undo, gone, told, map_eq_ok_iff.mpr ⟨_, undone later, rfl⟩⟩
  | directory =>
    rw [kept] at served
    obtain ⟨⟨_, s⟩, ran, same⟩ := map_eq_ok_iff.mp served
    cases same
    obtain ⟨undo, gone, told, undone⟩ := DirectoryService.exists_undo kept creates deletes
      labelled.directory fits.directory (Lookup.mem_outcomes_singleton_iff.mpr ran.symm)
    have answered := congrArg (Lookup.answer r.network.view) (undone later)
    exact ⟨undo, gone, told, map_eq_ok_iff.mpr ⟨_, answered, rfl⟩⟩
  | resolver =>
    rw [kept] at served
    obtain ⟨⟨_, s⟩, ran, same⟩ := map_eq_ok_iff.mp served
    cases same
    obtain ⟨undo, gone, told, undone⟩ := ResolverService.exists_undo kept creates deletes resolver
      labelled.resolver fits.resolver (Lookup.mem_outcomes_singleton_iff.mpr ran.symm)
    have answered := congrArg (Lookup.answer r.network.view) (undone later)
    exact ⟨undo, gone, told, map_eq_ok_iff.mpr ⟨_, answered, rfl⟩⟩
  | delivery =>
    rw [kept] at served
    obtain ⟨⟨_, s⟩, ran, same⟩ := map_eq_ok_iff.mp served
    cases same
    obtain ⟨undo, gone, told, undone⟩ :=
      DeliveryService.exists_undo kept creates deletes labelled.delivery ran
    exact ⟨undo, gone, told, map_eq_ok_iff.mpr ⟨_, undone later, rfl⟩⟩
  | signing =>
    cases kind with
    | profile => exact nomatch deletes
    | _ => cases kept

def looseRule : List Step :=
  [.request ⟨default, [5]⟩ .network "CreateVpc" (.obj [("CidrBlock", .str "10.0.0.0/16")]),
    .request ⟨default, [6]⟩ .resolver "CreateResolverRule"
      (.obj [("CreatorRequestId", .str "first"), ("RuleType", .str "SYSTEM"),
        ("DomainName", .str "example.com")])]

theorem creation_undone_looseRule :
    let r := run ⟨"123456789012", "eu-west-1", "aws"⟩ .standard looseRule
    let bag := Json.obj [("ResolverRuleId", .str "rslvr-rr-00000000000000006"),
      ("VPCId", .str "vpc-00000000000000005")]
    ∃ answer r', r.serve ⟨default, [7]⟩ .resolver "AssociateResolverRule" bag = .ok (answer, r') ∧
      Countable r' ∧
      ∃ undo gone, ResourceKind.association.deletionBag? bag answer = some undo ∧
        r'.serve ⟨default, []⟩ .resolver "DisassociateResolverRule" undo = .ok (gone, r) := by
  intro r bag
  have succeeds : (r.serve ⟨default, [7]⟩ .resolver "AssociateResolverRule" bag).toBool = true := by
    decide +kernel
  cases served : r.serve ⟨default, [7]⟩ .resolver "AssociateResolverRule" bag with
  | error e =>
    rw [served] at succeeds
    cases succeeds
  | ok result =>
    obtain ⟨answer, r'⟩ := result
    have next : r.after (.request ⟨default, [7]⟩ .resolver "AssociateResolverRule" bag) = r' := by
      rw [after, served]
    have fits : Countable r' := by
      rw [← next, ← run_concat]
      exact countable_of_length _ _ (by decide) (List.prefix_refl _)
    exact ⟨answer, r', rfl, fits, creation_undone_by_deletion _ _ looseRule .association (by decide)
      (by decide) _ _ served fits⟩

end ControlPlane.Region
