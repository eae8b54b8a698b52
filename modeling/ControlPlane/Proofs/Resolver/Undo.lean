import ControlPlane.Proofs.Resolver.Listing
import ControlPlane.Proofs.Resolver.Tags

/-!
To delete what has just been created in the name resolver service, or to untie a rule that has just
been tied to a cloud, gives back the service as it was: no rule goes through a new endpoint, no
association ties a new rule, and of a rule and a cloud there is one association.
-/

namespace ControlPlane.ResolverService

open ResolverConstraint
open Lookup hiding vpc subnet securityGroup

variable {views : Set NetworkView} {s s' : ResolverService} {at_ : Moment} {id : String}

theorem Consistent.rulesOf_eq_nil (hc : Consistent s) (free : s.endpoints.contains id = false) :
    s.rulesOf id = [] := by
  rw [rulesOf_eq_nil_iff]
  intro r hr through
  obtain ⟨e, he, known, -⟩ := hc.rule_endpoint r hr id through
  exact Registry.contains_eq_false_iff.mp free e he known

theorem parts_of_registerEndpoint {input : CreateEndpoint} {assigned : List (Subnet × String)}
    {e : Endpoint} (h : s.registerEndpoint at_ input assigned = (e, s')) :
    e.id = (Identifier.fresh s.endpoints (endpointKind input.direction) idDigits
        (attachAll at_.now assigned at_.draws).2).1 ∧
      e.arn = s.arn ("resolver-endpoint/" ++ e.id) ∧
      s' = { s with endpoints := s.endpoints.insert e, tags := s.tags.tag e.arn input.tags } := by
  cases h
  exact ⟨rfl, rfl, rfl⟩

theorem exists_deleteEndpoint_of_create {input : CreateEndpoint} {e : Endpoint} (hc : Consistent s)
    (hl : Labelled s) (h : Succeeds views (s.createEndpoint at_ input) (e, s'))
    (fits : Countable s') : ∃ gone, s'.deleteEndpoint e.id = .ok (gone, s) := by
  obtain ⟨-, -, -, ⟨assigned, -, registered⟩, -, -⟩ := succeeds_createEndpoint_iff.mp h
  obtain ⟨new, arn, rfl⟩ := parts_of_registerEndpoint registered
  have free : s.endpoints.contains e.id = false := by
    rw [new]
    exact Identifier.contains_fresh _ _ _ _
  have numbered : Identifier.IsNumbered (endpointKind input.direction) idDigits s.endpoints.size
      e.id := by
    rw [new]
    exact Identifier.isNumbered_fresh _ _ _ _
  have drawn := numbered.isDrawn (Registry.size_lt_of_insert free fits.endpoints)
  have checked := check_of_isDrawn drawn (length_endpointKind _) "resolverEndpointId"
  have live : (s.endpoints.insert e).get? e.id = some e := Registry.get?_insert _ _
  have records : (s.endpoints.insert e).remove e.id = s.endpoints := Registry.remove_insert free
  have tags : s.tags.clear e.arn = s.tags := hl.owned.clear_eq (arn ▸ hl.not_owns_endpoint free)
  refine ⟨_, deleteEndpoint_eq_ok_iff.mpr ⟨e, ?_, hc.rulesOf_eq_nil free, rfl, ?_⟩⟩
  · exact endpoint_eq_ok_iff.mpr ⟨checked, live⟩
  · simp only [records, TagStore.clear_tag, tags]

theorem Consistent.untied (hc : Consistent s) (free : s.rules.contains id = false) :
    ∀ a ∈ s.associations.records, a.rule ≠ id := by
  rintro a ha rfl
  obtain ⟨r, hr, known⟩ := hc.association_rule a ha
  exact Registry.contains_eq_false_iff.mp free r hr known

theorem exists_deleteRule_of_createRule {input : CreateRule} {r : ForwardingRule}
    (hc : Consistent s) (hl : Labelled s) (h : s.createRule at_ input = .ok (r, s'))
    (fits : Countable s') : ∃ gone, s'.deleteRule r.id = .ok (gone, s) := by
  obtain ⟨-, -, -, -, -, -, new, rfl⟩ := createRule_eq_ok_iff.mp h
  have id : r.id = (Identifier.fresh s.rules "rslvr-rr" idDigits at_.draws).1 :=
    congrArg ForwardingRule.id new
  have arn : r.arn = s.arn ("resolver-rule/" ++ r.id) := by
    rw [new]
    rfl
  have free : s.rules.contains r.id = false := by
    rw [id]
    exact Identifier.contains_fresh _ _ _ _
  have numbered : Identifier.IsNumbered "rslvr-rr" idDigits s.rules.size r.id := by
    rw [id]
    exact Identifier.isNumbered_fresh _ _ _ _
  have drawn := numbered.isDrawn (Registry.size_lt_of_insert free fits.rules)
  have checked := check_of_isDrawn drawn (by decide) "resolverRuleId"
  have live : (s.rules.insert r).get? r.id = some r := Registry.get?_insert _ _
  have records : (s.rules.insert r).remove r.id = s.rules := Registry.remove_insert free
  have tags : s.tags.clear r.arn = s.tags := hl.owned.clear_eq (arn ▸ hl.not_owns_rule free)
  refine ⟨_, deleteRule_eq_ok_iff.mpr ⟨r, ?_, hc.untied free, rfl, ?_⟩⟩
  · exact rule_eq_ok_iff.mpr ⟨checked, live⟩
  · simp only [records, TagStore.clear_tag, tags]

theorem checked_of_associationChecks {input : AssociateRule} {u : Unit}
    (h : runChecks (associationChecks input) = .ok u) :
    runChecks [idCheck "vPCId" input.vpc, idCheck "resolverRuleId" input.rule] = .ok () := by
  rw [runChecks_eq_ok_iff] at h ⊢
  intro c hc
  simp only [List.mem_cons, List.not_mem_nil, or_false] at hc
  apply h
  rw [associationChecks]
  rcases hc with rfl | rfl
  · exact List.mem_append_right _ (List.mem_singleton_self _)
  · exact List.mem_append_left _ List.mem_cons_self

theorem exists_disassociateRule_of_associate {input : AssociateRule} {a : RuleAssociation}
    (h : Succeeds views (s.associateRule at_ input) (a, s')) :
    ∃ gone, s'.disassociateRule ⟨a.vpc, a.rule⟩ = .ok (gone, s) := by
  obtain ⟨checked, ⟨r, found⟩, -, single, -, new, rfl⟩ := succeeds_associateRule_iff.mp h
  have free : s.associations.contains a.id = false := by
    rw [new]
    exact Identifier.contains_fresh _ _ _ _
  have rule : a.rule = input.rule := congrArg RuleAssociation.rule new
  have vpc : a.vpc = input.vpc := congrArg RuleAssociation.vpc new
  rw [rule, vpc]
  -- No other association of this rule and this cloud stands before the new one.
  have pair : (s.associations.insert a).find?
      (fun b => b.rule == input.rule && b.vpc == input.vpc) = some a := by
    apply Registry.find?_insert free
    · intro b hb
      rw [Bool.and_eq_false_imp, beq_iff_eq, beq_eq_false_iff_ne]
      exact single b hb
    · rw [rule, vpc, beq_self_eq_true, beq_self_eq_true, Bool.and_self]
  have records : (s.associations.insert a).remove a.id = s.associations :=
    Registry.remove_insert free
  refine ⟨_, disassociateRule_eq_ok_iff.mpr ⟨?_, ⟨r, ?_⟩, a, pair, rfl, ?_⟩⟩
  · exact checked_of_associationChecks checked
  · exact rule_eq_ok_iff.mpr (rule_eq_ok_iff.mp found)
  · simp only [records]

theorem bag_of_endpoint (bag : Json) (e : Endpoint) :
    ResourceKind.endpoint.deletionBag? bag (endpointAnswer.encode e) =
      some (.obj [("ResolverEndpointId", .str e.id)]) := by
  have told : ResourceKind.endpoint.createdId bag (endpointAnswer.encode e) = some e.id :=
    told_endpoint e
  exact ResourceKind.named_of_createdId told "ResolverEndpointId"

theorem bag_of_rule (bag : Json) (r : ForwardingRule) :
    ResourceKind.rule.deletionBag? bag (ruleAnswer.encode r) =
      some (.obj [("ResolverRuleId", .str r.id)]) := by
  have told : ResourceKind.rule.createdId bag (ruleAnswer.encode r) = some r.id := told_rule r
  exact ResourceKind.named_of_createdId told "ResolverRuleId"

theorem bag_of_association (bag : Json) (a : RuleAssociation) :
    ResourceKind.association.deletionBag? bag (associationAnswer.encode a) =
      some (.obj [("VPCId", .str a.vpc), ("ResolverRuleId", .str a.rule)]) := by
  have rule : (associationAnswer.encode a).textAt? ["ResolverRuleAssociation", "ResolverRuleId"] =
      some a.rule := by
    apply Codec.textAt?_single
    rw [Json.textAt?, Record.at?_encode]
    simp [RuleAssociation.record]
  have vpc : (associationAnswer.encode a).textAt? ["ResolverRuleAssociation", "VPCId"] =
      some a.vpc := by
    apply Codec.textAt?_single
    rw [Json.textAt?, Record.at?_encode]
    simp [RuleAssociation.record]
  rw [ResourceKind.deletionBag?, rule, vpc]
  rfl

theorem exists_undo {kind : ResourceKind} (kept : kind.service = .resolver)
    {creation deletion : String} (creates : creation ∈ kind.creations)
    (deletes : deletion ∈ kind.deletions) (hc : Consistent s) (hl : Labelled s)
    (fits : Countable s') {bag answer : Json}
    (served : .ok (answer, s') ∈ (operations.serve s at_ creation bag).outcomes views) :
    ∃ undo gone, kind.deletionBag? bag answer = some undo ∧
      ∀ later, operations.serve s' later deletion undo = pure (.ok (gone, s)) := by
  obtain ⟨op, input, output, hop, -, ran, rfl⟩ := Catalog.exists_of_mem_outcomes_serve served
  cases kind with
  | endpoint =>
    rw [List.mem_singleton.mp creates] at hop
    rw [List.mem_singleton.mp deletes]
    cases hop
    obtain ⟨gone, deleted⟩ := exists_deleteEndpoint_of_create hc hl ran fits
    exact ⟨_, _, bag_of_endpoint bag output, fun later => Catalog.serve_writing rfl rfl deleted⟩
  | rule =>
    rw [List.mem_singleton.mp creates] at hop
    rw [List.mem_singleton.mp deletes]
    cases hop
    obtain ⟨gone, deleted⟩ := exists_deleteRule_of_createRule hc hl ran.symm fits
    exact ⟨_, _, bag_of_rule bag output, fun later => Catalog.serve_writing rfl rfl deleted⟩
  | association =>
    rw [List.mem_singleton.mp creates] at hop
    rw [List.mem_singleton.mp deletes]
    cases hop
    obtain ⟨gone, untied⟩ := exists_disassociateRule_of_associate ran
    exact ⟨_, _, bag_of_association bag output, fun later =>
      Catalog.serve_writing rfl rfl untied⟩
  | _ => cases kept

end ControlPlane.ResolverService
