import ControlPlane.Proofs.Delivery.Tags
import ControlPlane.Proofs.Directory.Tags
import ControlPlane.Proofs.Resolver.Tags
import ControlPlane.Proofs.Tag.Limit
import ControlPlane.Region

/-!
Limits on tags. The length of a list of tags is checked when something is created with it, the
growth is counted when something is tagged later. Main statement: whatever requests a service has
met, nothing in it has more tags than its limit, if there is one.
-/

namespace ControlPlane

namespace DirectoryService

variable {views : Set NetworkView} {s s' : DirectoryService}

theorem Change.within (h : Change views s s') (hl : Labelled s) (hw : s.tags.Within maxTags) :
    s'.tags.Within maxTags := by
  cases h with
  | looked => exact hw
  | created draft id now m n a b typed accepted free named located room few first second =>
    exact hw.tagNew (TagStore.OwnedBy.tags_eq_nil hl (Bool.eq_false_iff.mp free)) few
  | deleted d live => exact hw.clear d.id
  | aliased d name live plain allowed new => exact hw
  | ssoSwitched d enabled live named => exact hw
  | tagged id tags live valid room => exact hw.tag room
  | untagged id keys live => exact hw.untag id keys

theorem within_run (scope : Scope) (quotas : DirectoryQuotas)
    (qs : List (Request × (Nat → NetworkView))) : (run scope quotas qs).tags.Within maxTags := by
  induction qs using List.reverseRecOn with
  | nil => exact TagStore.within_empty maxTags
  | append_singleton qs q ih =>
    rw [run_concat]
    exact (change_after _ q).within (labelled_run scope quotas qs) ih

end DirectoryService

namespace ResolverService

variable {views : Set NetworkView} {s s' : ResolverService}

theorem length_le_of_acceptTags {tags : List Tag} {u : Unit} (h : s.acceptTags tags = .ok u)
    (limited : s.quotas.tagsPerResource ≠ 0) : tags.length ≤ s.quotas.tagsPerResource :=
  Tag.length_le_of_validate (mapError_eq_ok_iff.mp h) limited

theorem Change.within (h : Change views s s') {limit : Nat}
    (quota : s.quotas.tagsPerResource = limit) (limited : limit ≠ 0) (hl : Labelled s)
    (hw : s.tags.Within limit) : s'.tags.Within limit := by
  subst quota
  cases h with
  | looked => exact hw
  | endpointCreated e tags accepted room free numbered arn new granted count least greatest =>
    have fresh := hl.owned.tags_eq_nil (hl.not_owns_endpoint free)
    exact hw.tagNew (arn ▸ fresh) (length_le_of_acceptTags accepted limited)
  | endpointReplaced old new live arn requestId direction addresses => exact hw
  | endpointDeleted old live unused => exact hw.clear old.arn
  | ruleCreated r tags accepted room free numbered arn new bare targets out =>
    have fresh := hl.owned.tags_eq_nil (hl.not_owns_rule free)
    exact hw.tagNew (arn ▸ fresh) (length_le_of_acceptTags accepted limited)
  | ruleDeleted old live unused => exact hw.clear old.arn
  | associated a r live new room free numbered => exact hw
  | disassociated a live => exact hw
  | tagged arn tags live accepted room => exact hw.tag room
  | untagged arn keys live => exact hw.untag arn keys

theorem run_quotas (scope : Scope) (quotas : ResolverQuotas)
    (qs : List (Request × (Nat → NetworkView))) : (run scope quotas qs).quotas = quotas := by
  induction qs using List.reverseRecOn with
  | nil => rfl
  | append_singleton qs q ih =>
    rw [run_concat]
    exact (change_after _ q).quotas_eq.trans ih

theorem within_run (scope : Scope) {quotas : ResolverQuotas} (limited : quotas.tagsPerResource ≠ 0)
    (qs : List (Request × (Nat → NetworkView))) :
    (run scope quotas qs).tags.Within quotas.tagsPerResource := by
  induction qs using List.reverseRecOn with
  | nil => exact TagStore.within_empty _
  | append_singleton qs q ih =>
    have quota := congrArg ResolverQuotas.tagsPerResource (run_quotas scope quotas qs)
    rw [run_concat]
    exact (change_after _ q).within quota limited (labelled_run scope quotas qs) ih

end ResolverService

namespace DeliveryService

variable {s s' : DeliveryService}

theorem Change.within (h : Change s s') {limit : Nat} (quota : s.quotas.tagsPerStream = limit)
    (limited : limit ≠ 0) (hl : Labelled s) (hw : s.tags.Within limit) : s'.tags.Within limit := by
  subst quota
  cases h with
  | looked => exact hw
  | created t tags free room arn valid =>
    have fresh := hl.owned.tags_eq_nil (hl.not_owns free)
    exact hw.tagNew (arn ▸ fresh) (Tag.length_le_of_validate valid limited)
  | deleted t live => exact hw.clear t.arn
  | tagged t tags live valid room => exact hw.tag room
  | untagged t keys live => exact hw.untag t.arn keys

theorem within_run (scope : Scope) {quotas : DeliveryQuotas} (limited : quotas.tagsPerStream ≠ 0)
    (qs : List Request) : (run scope quotas qs).tags.Within quotas.tagsPerStream := by
  induction qs using List.reverseRecOn with
  | nil => exact TagStore.within_empty _
  | append_singleton qs q ih =>
    have quota := congrArg DeliveryQuotas.tagsPerStream (run_quotas scope quotas qs)
    rw [run_concat]
    exact (change_after _ q).within quota limited (labelled_run scope quotas qs) ih

end DeliveryService

/-- The limits on tags in each service after any requests to it. A quota of zero is no limit;
services that ask the network may be answered by another network each time. -/
theorem tags_limited_in_every_service (scope : Scope) (quotas : Quotas) (qs : List Request)
    (asked : List (Request × (Nat → NetworkView))) :
    (∀ d ∈ (DirectoryService.run scope quotas.directory asked).directories.records,
      (DirectoryService.run scope quotas.directory asked).tags.count d.id ≤ 50) ∧
    (quotas.resolver.tagsPerResource ≠ 0 →
      (∀ e ∈ (ResolverService.run scope quotas.resolver asked).endpoints.records,
        (ResolverService.run scope quotas.resolver asked).tags.count e.arn ≤
          quotas.resolver.tagsPerResource) ∧
      ∀ r ∈ (ResolverService.run scope quotas.resolver asked).rules.records,
        (ResolverService.run scope quotas.resolver asked).tags.count r.arn ≤
          quotas.resolver.tagsPerResource) ∧
    (quotas.delivery.tagsPerStream ≠ 0 →
      ∀ t ∈ (DeliveryService.run scope quotas.delivery qs).streams.records,
        (DeliveryService.run scope quotas.delivery qs).tags.count t.arn ≤
          quotas.delivery.tagsPerStream) := by
  refine ⟨fun d _ => ?_, fun limited => ⟨fun e _ => ?_, fun r _ => ?_⟩, fun limited t _ => ?_⟩
  · exact DirectoryService.within_run scope quotas.directory asked d.id
  · exact ResolverService.within_run scope limited asked e.arn
  · exact ResolverService.within_run scope limited asked r.arn
  · exact DeliveryService.within_run scope limited qs t.arn

def retaggedStream : List Request :=
  [⟨default, "CreateDeliveryStream",
      .obj [("DeliveryStreamName", .str "orders"), ("S3DestinationConfiguration", .obj []),
        ("Tags", .arr [.obj [("Key", .str "team"), ("Value", .str "blue")]])]⟩,
    ⟨default, "TagDeliveryStream",
      .obj [("DeliveryStreamName", .str "orders"),
        ("Tags", .arr [.obj [("Key", .str "site"), ("Value", .str "east")]])]⟩,
    ⟨default, "TagDeliveryStream",
      .obj [("DeliveryStreamName", .str "orders"),
        ("Tags", .arr [.obj [("Key", .str "team"), ("Value", .str "red")]])]⟩]

/-- Where one tag is the limit, another key is refused and the same key is written over. -/
theorem tags_limited_retaggedStream :
    let s := DeliveryService.run ⟨"123456789012", "eu-west-1", "aws"⟩ ⟨50, 1⟩ retaggedStream
    s.streams.records.map (fun t => s.tags.tags t.arn) = [[⟨"team", "red"⟩]] ∧
      ∀ t ∈ s.streams.records, s.tags.count t.arn ≤ 1 := by
  intro s
  have limits := tags_limited_in_every_service ⟨"123456789012", "eu-west-1", "aws"⟩
    ⟨.standard, .standard, ⟨50, 1⟩⟩ retaggedStream []
  exact ⟨by decide +kernel, limits.2.2 (by decide)⟩

end ControlPlane
