import ControlPlane.Proofs.Json.Common
import ControlPlane.Proofs.Network.Return
import ControlPlane.Proofs.Resolver.Addresses

/-!
What the name resolver service is asked and what it answers comes back. An endpoint comes back
without its addresses, which are not written with it. The number of its addresses and the ports of
a rule are words, and the service accepts none that are greater.
-/

namespace ControlPlane

open Record

instance : AddressRequest.record.codec.Lawful :=
  Record.lawful (by decide) (fun _ => ReadsBack.start AddressRequest.mk |>.required |>.optional)
    fun _ => rfl

instance : CreateEndpoint.record.codec.Lawful :=
  Record.lawful (by decide)
    (fun _ => ReadsBack.start CreateEndpoint.mk |>.required |>.optional |>.listOrEmpty |>.required
      |>.listOrEmpty |>.listOrEmpty)
    fun _ => rfl

instance : AssociateRule.record.codec.Lawful :=
  Record.lawful (by decide)
    (fun _ => ReadsBack.start AssociateRule.mk |>.required |>.optional |>.required) fun _ => rfl

instance : TargetAddress.record.codec.Stable := by
  have standard : Codec.word32.Returns 53 53 := Codec.returns_upTo (by decide)
  refine Record.stable (by decide) <| .defaulted standard <| .required <| .start ?_
  intro ip _ port word
  exact ReadsBack.start TargetAddress.mk |>.required |>.member word

instance : CreateRule.record.codec.Stable := by
  refine Record.stable (by decide) <| .listOrEmpty <| .optional <| .listOrEmpty <| .required <|
    .required <| .optional <| .required <| .start ?_
  intro _ _ _ _ _ _ _ _ targets kept _ _ _ _
  exact ReadsBack.start CreateRule.mk |>.required |>.optional |>.required |>.required
    |>.member kept |>.optional |>.listOrEmpty

instance : ListTagsByArn.record.codec.Stable := by
  refine Record.stable (by decide) <| .optional <| .optional <| .required <| .start ?_
  intro _ _ limit word _ _
  exact ReadsBack.start ListTagsByArn.mk |>.required |>.member word |>.optional

instance : RuleAssociation.record.codec.Lawful :=
  Record.lawful (by decide)
    (fun _ => ReadsBack.start RuleAssociation.mk |>.required |>.required |>.optional |>.required
      |>.required |>.required)
    fun _ => rfl

def Endpoint.withoutAddresses (e : Endpoint) : Endpoint := { e with addresses := [] }

theorem Endpoint.returns {e : Endpoint} (h : e.addressCount ≤ Text.greatestWord64) :
    Endpoint.record.codec.Returns e e.withoutAddresses :=
  Record.returns (by decide)
    (ReadsBack.start Endpoint.mk |>.required |>.required |>.required |>.optional |>.required
      |>.required |>.requiredOf (Codec.returns_upTo h) |>.required |>.required |>.required
      |>.required |>.required |>.hidden [])
    rfl

theorem TargetAddress.returns {t : TargetAddress} (h : t.port ≤ Text.greatestWord32) :
    TargetAddress.record.codec.Returns t t := by
  have port : (Member.defaulted "Port" Codec.word32 53).Returns t.port t.port :=
    Codec.returns_upTo h
  exact Record.returns (by decide)
    (ReadsBack.start TargetAddress.mk |>.required |>.member port) rfl

theorem Member.returns_listUnlessEmpty {α : Type} {name : String} {c : Codec α} {items : List α}
    (h : ∀ a ∈ items, c.Returns a a) :
    (Member.omittedWhen name (.list c) [] List.isEmpty).Returns items items := by
  cases items with
  | nil => rfl
  | cons a rest => exact Codec.returns_list_self h

theorem ForwardingRule.returns {r : ForwardingRule}
    (h : ∀ t ∈ r.targets, t.port ≤ Text.greatestWord32) :
    ForwardingRule.record.codec.Returns r r := by
  have targets : (Member.omittedWhen "TargetIps" (.list TargetAddress.record.codec) []
      List.isEmpty).Returns r.targets r.targets :=
    Member.returns_listUnlessEmpty fun t ht => TargetAddress.returns (h t ht)
  exact Record.returns (by decide)
    (ReadsBack.start ForwardingRule.mk |>.required |>.required |>.required |>.required |>.required
      |>.required |>.required |>.optional |>.member targets |>.optional |>.required |>.required
      |>.required |>.required)
    rfl

namespace ResolverService

open ResolverConstraint
open Lookup hiding vpc subnet securityGroup

variable {views : Set NetworkView} {s s' : ResolverService} {at_ : Moment} {id : String}

theorem returns_createEndpoint {input : CreateEndpoint} {e : Endpoint}
    (h : Succeeds views (s.createEndpoint at_ input) (e, s')) :
    endpointAnswer.Returns e e.withoutAddresses := by
  obtain ⟨accepted, -, -, ⟨assigned, given, registered⟩, -, -⟩ := succeeds_createEndpoint_iff.mp h
  have few := length_addresses_of_checks (acceptEndpoint_eq_ok_iff.mp accepted).1
  have length := (length_attachAll at_.now assigned at_.draws).trans (length_of_assign given)
  cases registered
  refine Codec.returns_single (Endpoint.returns ?_)
  exact (Nat.le_of_eq length).trans (few.trans (by decide))

theorem Addressed.addressCount_le (ha : Addressed s) {e : Endpoint} (h : s.endpoint id = .ok e) :
    e.addressCount ≤ Text.greatestWord64 := by
  have counted := ha.counted e (Registry.mem_of_get? (endpoint_eq_ok_iff.mp h).2)
  rw [counted.shown]
  exact counted.greatest.trans (by decide)

theorem returns_endpoint (ha : Addressed s) {e : Endpoint} (h : s.endpoint id = .ok e) :
    endpointAnswer.Returns e e.withoutAddresses :=
  Codec.returns_single (Endpoint.returns (ha.addressCount_le h))

theorem returns_deleteEndpoint (ha : Addressed s) {e : Endpoint}
    (h : s.deleteEndpoint id = .ok (e, s')) : endpointAnswer.Returns e e.withoutAddresses := by
  obtain ⟨old, found, -, rfl, -⟩ := deleteEndpoint_eq_ok_iff.mp h
  have few : old.addressCount ≤ Text.greatestWord64 := ha.addressCount_le found
  exact Codec.returns_single (Endpoint.returns few)

theorem returns_createRule {input : CreateRule} {r : ForwardingRule}
    (h : s.createRule at_ input = .ok (r, s')) : ruleAnswer.Returns r r := by
  obtain ⟨accepted, -, -, -, -, -, rfl, -⟩ := createRule_eq_ok_iff.mp h
  have checked := (acceptRule_eq_ok_iff.mp accepted).1
  refine Codec.returns_single (ForwardingRule.returns fun t ht => ?_)
  exact (port_le_of_checks checked ht).trans (by decide)

end ResolverService

end ControlPlane
