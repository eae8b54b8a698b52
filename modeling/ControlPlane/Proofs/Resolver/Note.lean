import ControlPlane.Proofs.Region.Note
import ControlPlane.Proofs.Resolver.Change

/-!
What a request to the name resolver service tells is what becomes of its ids.
-/

namespace ControlPlane.ResolverService

open ResourceKind (eq_apply_of_created eq_apply_of_deleted)
open Lookup hiding vpc subnet securityGroup

variable {views : Set NetworkView} {s s' : ResolverService} {at_ : Moment}

theorem textAt?_id_endpoint (e : Endpoint) :
    (Endpoint.record.codec.encode e).textAt? ["Id"] = some e.id := by
  rw [Json.textAt?, Record.at?_encode]
  simp [Endpoint.record]

theorem textAt?_id_rule (q : ForwardingRule) :
    (ForwardingRule.record.codec.encode q).textAt? ["Id"] = some q.id := by
  rw [Json.textAt?, Record.at?_encode]
  simp [ForwardingRule.record]

theorem textAt?_id_association (a : RuleAssociation) :
    (RuleAssociation.record.codec.encode a).textAt? ["Id"] = some a.id := by
  rw [Json.textAt?, Record.at?_encode]
  simp [RuleAssociation.record]

theorem told_endpoint (e : Endpoint) :
    ((Codec.single "ResolverEndpoint" Endpoint.record.codec).encode e).textAt?
      ["ResolverEndpoint", "Id"] = some e.id :=
  Codec.textAt?_single _ (textAt?_id_endpoint e)

theorem told_rule (q : ForwardingRule) :
    ((Codec.single "ResolverRule" ForwardingRule.record.codec).encode q).textAt?
      ["ResolverRule", "Id"] = some q.id :=
  Codec.textAt?_single _ (textAt?_id_rule q)

theorem told_association (a : RuleAssociation) :
    ((Codec.single "ResolverRuleAssociation" RuleAssociation.record.codec).encode a).textAt?
      ["ResolverRuleAssociation", "Id"] = some a.id :=
  Codec.textAt?_single _ (textAt?_id_association a)

structure Noted (s s' : ResolverService) (notes : ResourceKind → Note) : Prop where
  endpoints : s'.endpoints.keys = (notes .endpoint).apply s.endpoints.keys
  rules : s'.rules.keys = (notes .rule).apply s.rules.keys
  associations : s'.associations.keys = (notes .association).apply s.associations.keys

theorem keys_replace {e : Endpoint} {id : String} (found : s.endpoint id = .ok e) {new : Endpoint}
    (same : new.id = e.id) : (s.endpoints.insert new).keys = s.endpoints.keys := by
  have live : s.endpoints.get? new.id = some e := same ▸ get?_of_endpoint found
  exact Registry.keys_insert_of_get? live

theorem noted_of_run {name : String} {op : Op} {input : op.Input} {output : op.Output}
    (hop : operations name = some op)
    (h : .ok (output, s') ∈ (op.run s at_ input).outcomes views) (bag : Json) :
    Noted s s' fun kind => kind.note name bag (op.output.encode output) := by
  simp only [operations] at hop
  split at hop <;> cases hop
  case h_1 =>
    obtain ⟨-, -, -, ⟨assigned, -, registered⟩, -, -⟩ := succeeds_createEndpoint_iff.mp h
    cases registered
    have free := Identifier.contains_fresh s.endpoints (endpointKind input.direction) idDigits
      (attachAll at_.now assigned at_.draws).2
    exact
      ⟨eq_apply_of_created (Registry.keys_insert_of_not_contains free) (by decide)
        (told_endpoint _), rfl, rfl⟩
  case h_2 => exact state_of_look h.symm ▸ ⟨rfl, rfl, rfl⟩
  case h_3 =>
    obtain ⟨-, old, found, rfl, rfl⟩ := updateEndpoint_eq_ok_iff.mp h.symm
    exact ⟨keys_replace found rfl, rfl, rfl⟩
  case h_4 =>
    obtain ⟨old, found, -, rfl, rfl⟩ := deleteEndpoint_eq_ok_iff.mp h.symm
    have same : old.id = input := Registry.key_of_get? (endpoint_eq_ok_iff.mp found).2
    subst same
    exact
      ⟨eq_apply_of_deleted (Registry.keys_remove _ _) (by decide) (by decide) (told_endpoint _),
        rfl, rfl⟩
  case h_5 => exact state_of_look h.symm ▸ ⟨rfl, rfl, rfl⟩
  case h_6 => exact state_of_look h.symm ▸ ⟨rfl, rfl, rfl⟩
  case h_7 =>
    obtain ⟨old, subnet, assigned, found, -, -, -, rfl, rfl⟩ :=
      succeeds_associateAddress_iff.mp h
    exact ⟨keys_replace found rfl, rfl, rfl⟩
  case h_8 =>
    obtain ⟨old, i, found, -, -, rfl, rfl⟩ := disassociateAddress_eq_ok_iff.mp h.symm
    exact ⟨keys_replace found rfl, rfl, rfl⟩
  case h_9 =>
    obtain ⟨-, -, -, -, -, -, rfl, rfl⟩ := createRule_eq_ok_iff.mp h.symm
    have free := Identifier.contains_fresh s.rules "rslvr-rr" idDigits at_.draws
    exact ⟨rfl,
      eq_apply_of_created (Registry.keys_insert_of_not_contains free) (by decide) (told_rule _), rfl⟩
  case h_10 => exact state_of_look h.symm ▸ ⟨rfl, rfl, rfl⟩
  case h_11 =>
    obtain ⟨old, found, -, rfl, rfl⟩ := deleteRule_eq_ok_iff.mp h.symm
    have same : old.id = input := Registry.key_of_get? (rule_eq_ok_iff.mp found).2
    subst same
    exact ⟨rfl,
      eq_apply_of_deleted (Registry.keys_remove _ _) (by decide) (by decide) (told_rule _), rfl⟩
  case h_12 => exact state_of_look h.symm ▸ ⟨rfl, rfl, rfl⟩
  case h_13 =>
    obtain ⟨-, -, -, -, -, rfl, rfl⟩ := succeeds_associateRule_iff.mp h
    have free := Identifier.contains_fresh s.associations "rslvr-rrassoc" idDigits at_.draws
    exact ⟨rfl, rfl,
      eq_apply_of_created (Registry.keys_insert_of_not_contains free) (by decide)
        (told_association _)⟩
  case h_14 =>
    obtain ⟨-, -, old, -, rfl, rfl⟩ := disassociateRule_eq_ok_iff.mp h.symm
    exact ⟨rfl, rfl,
      eq_apply_of_deleted (Registry.keys_remove _ _) (by decide) (by decide) (told_association _)⟩
  case h_15 => exact state_of_look h.symm ▸ ⟨rfl, rfl, rfl⟩
  case h_16 => exact state_of_look h.symm ▸ ⟨rfl, rfl, rfl⟩
  case h_17 =>
    obtain ⟨-, -, -, rfl⟩ := tagResource_eq_ok_iff.mp h.symm
    exact ⟨rfl, rfl, rfl⟩
  case h_18 =>
    obtain ⟨-, rfl⟩ := untagResource_eq_ok_iff.mp h.symm
    exact ⟨rfl, rfl, rfl⟩
  case h_19 => exact state_of_look h.symm ▸ ⟨rfl, rfl, rfl⟩

end ControlPlane.ResolverService
