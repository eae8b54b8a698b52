import ControlPlane.Proofs.Resolver.Tags
import ControlPlane.Proofs.Tag.Limit

/-!
Endpoints and rules that are tagged when they are created, and those that are tagged right
afterwards. Both ways have the same checks, and the later one counts the tags besides, also where
the quota is zero.
-/

namespace ControlPlane.ResolverService

open Lookup hiding vpc subnet securityGroup

variable {views : Set NetworkView} {s s' : ResolverService} {at_ : Moment} {tags : List Tag}

theorem acceptTags_eq_ok_iff {u : Unit} :
    s.acceptTags tags = .ok u ↔ Tag.validate tags s.quotas.tagsPerResource = .ok () :=
  mapError_eq_ok_iff

theorem tagResource_iff_of_untagged {arn : String} (owns : s.Owns arn) (none : s.tags.tags arn = [])
    {u : ResolverService} :
    (∃ o, s.tagResource ⟨arn, tags⟩ = .ok (o, u)) ↔
      (Tag.validate tags s.quotas.tagsPerResource = .ok () ∧
        tags.length ≤ s.quotas.tagsPerResource) ∧
          u = { s with tags := s.tags.tag arn tags } := by
  have live : s.requireResource arn = .ok () := requireResource_eq_ok_iff.mpr owns
  simp only [tagResource_eq_ok_iff, exists_const, live, true_and, acceptTags_eq_ok_iff, none,
    Tag.addedCount_nil, List.length_nil, Nat.zero_add, and_assoc]

section Endpoint

variable {input : CreateEndpoint} {e : Endpoint}

theorem succeeds_createEndpoint_withTags_iff :
    Succeeds views (s.createEndpoint at_ { input with tags := tags }) (e, s') ↔
      Tag.validate tags s.quotas.tagsPerResource = .ok () ∧
        ∃ t, Succeeds views (s.createEndpoint at_ { input with tags := [] }) (e, t) ∧
          s' = { t with tags := t.tags.tag e.arn tags } := by
  simp only [succeeds_createEndpoint_iff, acceptEndpoint_eq_ok_iff, acceptTags_eq_ok_iff]
  constructor
  · rintro ⟨⟨checked, valid⟩, room, enough, ⟨assigned, given, registered⟩, groups, new⟩
    cases registered
    exact ⟨valid, _, ⟨⟨checked, Tag.validate_nil _⟩, room, enough, ⟨assigned, given, rfl⟩, groups,
      new⟩, rfl⟩
  · rintro ⟨valid, _, ⟨⟨checked, -⟩, room, enough, ⟨assigned, given, registered⟩, groups, new⟩,
      rfl⟩
    cases registered
    exact ⟨⟨checked, valid⟩, room, enough, ⟨assigned, given, rfl⟩, groups, new⟩

theorem exists_createEndpoint_at (h : Succeeds views (s.createEndpoint at_ input) (e, s'))
    (now : Moment) : ∃ other t, Succeeds views (s.createEndpoint now input) (other, t) := by
  obtain ⟨accepted, room, enough, ⟨assigned, given, -⟩, groups, new⟩ :=
    succeeds_createEndpoint_iff.mp h
  exact ⟨_, _, succeeds_createEndpoint_iff.mpr
    ⟨accepted, room, enough, ⟨assigned, given, rfl⟩, groups, new⟩⟩

theorem Labelled.tagEndpoint_iff (hl : Labelled s)
    (h : Succeeds views (s.createEndpoint at_ { input with tags := [] }) (e, s'))
    {t : ResolverService} :
    (∃ o, s'.tagResource ⟨e.arn, tags⟩ = .ok (o, t)) ↔
      (Tag.validate tags s.quotas.tagsPerResource = .ok () ∧
        tags.length ≤ s.quotas.tagsPerResource) ∧
          t = { s' with tags := s'.tags.tag e.arn tags } := by
  obtain ⟨-, -, -, ⟨assigned, -, registered⟩, -, -⟩ := succeeds_createEndpoint_iff.mp h
  cases registered
  have free := Identifier.contains_fresh s.endpoints (endpointKind input.direction) idDigits
    (attachAll at_.now assigned at_.draws).2
  refine tagResource_iff_of_untagged (Or.inl ⟨_, (Registry.mem_insert_iff free).mpr (Or.inr rfl),
    rfl⟩) ?_
  exact hl.owned.tags_eq_nil (hl.not_owns_endpoint free)

end Endpoint

section Rule

variable {input : CreateRule} {r : ForwardingRule}

theorem createRule_withTags_iff :
    s.createRule at_ { input with tags := tags } = .ok (r, s') ↔
      Tag.validate tags s.quotas.tagsPerResource = .ok () ∧
        ∃ t, s.createRule at_ { input with tags := [] } = .ok (r, t) ∧
          s' = { t with tags := t.tags.tag r.arn tags } := by
  simp only [createRule_eq_ok_iff, acceptRule_eq_ok_iff, acceptTags_eq_ok_iff]
  constructor
  · rintro ⟨⟨checked, valid⟩, room, bare, targets, out, new, rfl, rfl⟩
    exact ⟨valid, _, ⟨⟨checked, Tag.validate_nil _⟩, room, bare, targets, out, new, rfl, rfl⟩, rfl⟩
  · rintro ⟨valid, _, ⟨⟨checked, -⟩, room, bare, targets, out, new, rfl, rfl⟩, rfl⟩
    exact ⟨⟨checked, valid⟩, room, bare, targets, out, new, rfl, rfl⟩

theorem exists_createRule_at (h : s.createRule at_ input = .ok (r, s')) (now : Moment) :
    ∃ other t, s.createRule now input = .ok (other, t) := by
  obtain ⟨accepted, room, bare, targets, out, new, -, -⟩ := createRule_eq_ok_iff.mp h
  exact ⟨_, _, createRule_eq_ok_iff.mpr ⟨accepted, room, bare, targets, out, new, rfl, rfl⟩⟩

theorem Labelled.tagRule_iff (hl : Labelled s)
    (h : s.createRule at_ { input with tags := [] } = .ok (r, s')) {t : ResolverService} :
    (∃ o, s'.tagResource ⟨r.arn, tags⟩ = .ok (o, t)) ↔
      (Tag.validate tags s.quotas.tagsPerResource = .ok () ∧
        tags.length ≤ s.quotas.tagsPerResource) ∧
          t = { s' with tags := s'.tags.tag r.arn tags } := by
  obtain ⟨-, -, -, -, -, -, rfl, rfl⟩ := createRule_eq_ok_iff.mp h
  have free := Identifier.contains_fresh s.rules "rslvr-rr" idDigits at_.draws
  refine tagResource_iff_of_untagged (Or.inr ⟨_, (Registry.mem_insert_iff free).mpr (Or.inr rfl),
    rfl⟩) ?_
  exact hl.owned.tags_eq_nil (hl.not_owns_rule free)

end Rule

end ControlPlane.ResolverService
