import ControlPlane.Proofs.Identifier
import ControlPlane.Proofs.Operation
import ControlPlane.Proofs.Registry
import ControlPlane.Proofs.Resolver.Assignment
import ControlPlane.Resolver.Operations

/-!
What a request can do to the name resolver service. Each operation has one equation for its success;
those that ask the network have it for a set of networks that may answer. From these follows the
list of all changes.
-/

namespace ControlPlane.ResolverService

open ResolverConstraint
open Lookup hiding vpc subnet securityGroup

variable {views : Set NetworkView} {s s' : ResolverService} {at_ : Moment} {id : String}

theorem runChecks_eq_ok_iff {cs : List Check} {u : Unit} :
    runChecks cs = .ok u ↔ ∀ c ∈ cs, c.broken = none := by
  rw [runChecks, mapError_eq_ok_iff, validate_eq_ok_iff]

theorem endpoint_eq_ok_iff {e : Endpoint} :
    s.endpoint id = .ok e ↔
      runChecks [idCheck "resolverEndpointId" id] = .ok () ∧ s.endpoints.get? id = some e := by
  rw [endpoint, pass_eq_ok_iff]
  cases s.endpoints.get? id <;> simp [throw_eq_ok_iff, pure_eq_ok_iff]

theorem rule_eq_ok_iff {r : ForwardingRule} :
    s.rule id = .ok r ↔
      runChecks [idCheck "resolverRuleId" id] = .ok () ∧ s.rules.get? id = some r := by
  rw [rule, pass_eq_ok_iff]
  cases s.rules.get? id <;> simp [throw_eq_ok_iff, pure_eq_ok_iff]

/-! ### Endpoints -/

theorem length_addresses_of_checks {input : CreateEndpoint} {u : Unit}
    (h : runChecks (endpointChecks input) = .ok u) : input.addresses.length ≤ maxAddresses := by
  have checked := runChecks_eq_ok_iff.mp h
    (.ofJson "ipAddresses" AddressRequest.record.codec input.addresses (.itemsAtMost maxAddresses))
    (by simp [endpointChecks])
  rw [Check.ofJson, Rule.itemsAtMost, Rule.requires_eq_none_iff, decide_eq_true_eq] at checked
  exact checked

theorem acceptEndpoint_eq_ok_iff {input : CreateEndpoint} {u : Unit} :
    s.acceptEndpoint input = .ok u ↔
      runChecks (endpointChecks input) = .ok () ∧ s.acceptTags input.tags = .ok () := by
  rw [acceptEndpoint, pass_eq_ok_iff]

theorem succeeds_createEndpoint_iff {input : CreateEndpoint} {e : Endpoint} :
    Succeeds views (s.createEndpoint at_ input) (e, s') ↔
      s.acceptEndpoint input = .ok () ∧ s.endpoints.size < s.quotas.endpoints ∧
        minAddresses ≤ input.addresses.length ∧
        (∃ assigned, Succeeds views (assign s.heldAddresses input.addresses) assigned ∧
          s.registerEndpoint at_ input assigned = (e, s')) ∧
        Succeeds views (acceptGroups input.groups) () ∧
        ∀ d ∈ s.endpoints.records, d.requestId ≠ input.requestId := by
  simp only [createEndpoint, succeeds_bind_iff, succeeds_guard_iff, succeeds_lift_iff,
    succeeds_pure_iff, Nat.not_le, Nat.not_lt, Bool.not_eq_true, Registry.find?_isSome_eq_false_iff,
    beq_eq_false_iff_ne]
  refine ⟨?_, ?_⟩
  · intro ⟨_, accepted, room, enough, assigned, given, _, groups, new, same⟩
    exact ⟨accepted, room, enough, ⟨assigned, given, same⟩, groups, new⟩
  · intro ⟨accepted, room, enough, ⟨assigned, given, same⟩, groups, new⟩
    exact ⟨(), accepted, room, enough, assigned, given, (), groups, new, same⟩

theorem updateEndpoint_eq_ok_iff {input : UpdateEndpoint} {e : Endpoint} :
    s.updateEndpoint at_ input = .ok (e, s') ↔
      runChecks (idCheck "resolverEndpointId" input.endpoint :: nameChecks input.name) = .ok () ∧
        ∃ old, s.endpoint input.endpoint = .ok old ∧
          e = { old with name := input.name.orElse fun _ => old.name, modificationTime := at_.now } ∧
          s' = { s with endpoints := s.endpoints.insert e } := by
  rw [updateEndpoint, pass_eq_ok_iff]
  simp only [replaceEndpoint, bind_eq_ok_iff, pure_eq_ok_iff, Prod.mk.injEq]
  refine ⟨?_, ?_⟩
  · intro ⟨checked, old, found, same, state⟩
    exact ⟨checked, old, found, same.symm, same ▸ state.symm⟩
  · intro ⟨checked, old, found, same, state⟩
    exact ⟨checked, old, found, same.symm, same ▸ state.symm⟩

theorem rulesOf_eq_nil_iff :
    s.rulesOf id = [] ↔ ∀ r ∈ s.rules.records, r.endpoint ≠ some id := by
  simp [rulesOf, Registry.list]

theorem deleteEndpoint_eq_ok_iff {e : Endpoint} :
    s.deleteEndpoint id = .ok (e, s') ↔
      ∃ old, s.endpoint id = .ok old ∧ s.rulesOf id = [] ∧
        e = { old with
          status := "DELETING", statusMessage := "Deleting the Resolver Endpoint" } ∧
        s' = { s with
          endpoints := s.endpoints.remove id, tags := s.tags.clear old.arn } := by
  simp only [deleteEndpoint, bind_eq_ok_iff, guard_eq_ok_iff, pure_eq_ok_iff, Prod.mk.injEq,
    ne_eq, not_not]
  refine ⟨?_, ?_⟩
  · intro ⟨old, found, unused, same, state⟩
    exact ⟨old, found, unused, same.symm, state.symm⟩
  · intro ⟨old, found, unused, same, state⟩
    exact ⟨old, found, unused, same.symm, state.symm⟩

theorem succeeds_associateAddress_iff {input : ChangeAddress} {e : Endpoint} :
    Succeeds views (s.associateAddress at_ input) (e, s') ↔
      ∃ old subnet assigned, s.endpoint input.endpoint = .ok old ∧
        input.address.subnet = some subnet ∧ old.addresses.length < maxAddresses ∧
        Succeeds views (assign s.heldAddresses [⟨subnet, input.address.ip⟩]) assigned ∧
        e = withAddresses old at_.now
          (old.addresses ++ (attachAll at_.now assigned at_.draws).1) ∧
        s' = { s with endpoints := s.endpoints.insert e } := by
  simp only [associateAddress, succeeds_bind_iff, succeeds_lift_iff]
  refine ⟨?_, ?_⟩
  · intro ⟨old, found, rest⟩
    cases wanted : input.address.subnet with
    | none =>
      simp only [wanted, succeeds_throw_iff] at rest
    | some subnet =>
      simp only [wanted, succeeds_guard_iff, succeeds_bind_iff, succeeds_pure_iff, Nat.not_le,
        replaceEndpoint, Prod.mk.injEq] at rest
      obtain ⟨room, assigned, given, same, state⟩ := rest
      exact ⟨old, subnet, assigned, found, rfl, room, given, same.symm, same ▸ state.symm⟩
  · intro ⟨old, subnet, assigned, found, wanted, room, given, same, state⟩
    refine ⟨old, found, ?_⟩
    simp only [wanted, succeeds_guard_iff, succeeds_bind_iff, succeeds_pure_iff, Nat.not_le,
      replaceEndpoint, Prod.mk.injEq]
    exact ⟨room, assigned, given, same.symm, same ▸ state.symm⟩

theorem disassociateAddress_eq_ok_iff {input : ChangeAddress} {e : Endpoint} :
    s.disassociateAddress at_ input = .ok (e, s') ↔
      ∃ old i, s.endpoint input.endpoint = .ok old ∧
        old.addresses.findIdx? (isMeant input.address) = some i ∧
        minAddresses < old.addresses.length ∧
        e = withAddresses old at_.now (old.addresses.eraseIdx i) ∧
        s' = { s with endpoints := s.endpoints.insert e } := by
  simp only [disassociateAddress, bind_eq_ok_iff]
  refine ⟨?_, ?_⟩
  · intro ⟨old, found, rest⟩
    cases meant : old.addresses.findIdx? (isMeant input.address) with
    | none =>
      simp only [meant, throw_eq_ok_iff] at rest
    | some i =>
      simp only [meant, guard_eq_ok_iff, pure_eq_ok_iff, Nat.not_le, replaceEndpoint,
        Prod.mk.injEq] at rest
      obtain ⟨enough, same, state⟩ := rest
      exact ⟨old, i, found, meant, enough, same.symm, same ▸ state.symm⟩
  · intro ⟨old, i, found, meant, enough, same, state⟩
    refine ⟨old, found, ?_⟩
    simp only [meant, guard_eq_ok_iff, pure_eq_ok_iff, Nat.not_le, replaceEndpoint, Prod.mk.injEq]
    exact ⟨enough, same.symm, same ▸ state.symm⟩

/-! ### Rules -/

theorem acceptRule_eq_ok_iff {input : CreateRule} {u : Unit} :
    s.acceptRule input = .ok u ↔
      runChecks (ruleChecks input) = .ok () ∧ s.acceptTags input.tags = .ok () := by
  rw [acceptRule, pass_eq_ok_iff]

theorem port_le_of_checks {input : CreateRule} {u : Unit}
    (h : runChecks (ruleChecks input) = .ok u) {t : TargetAddress} (ht : t ∈ input.targets) :
    t.port ≤ greatestPort := by
  have checked := runChecks_eq_ok_iff.mp h
    (.of "targetIps.port" t.port (.valueAtMost greatestPort)) (by
      simp only [ruleChecks, List.mem_append, List.mem_map]
      exact Or.inl (Or.inr ⟨t, ht, rfl⟩))
  rw [Check.of, Rule.valueAtMost, Rule.requires_eq_none_iff, decide_eq_true_eq] at checked
  exact checked

theorem requireOutbound_eq_ok_iff {endpoint : Option String} {u : Unit} :
    s.requireOutbound endpoint = .ok u ↔
      ∀ id, endpoint = some id → ∃ e, s.endpoint id = .ok e ∧ e.direction = outbound := by
  cases endpoint with
  | none => simp [requireOutbound, pure_eq_ok_iff]
  | some id =>
    simp only [requireOutbound, bind_eq_ok_iff, refuse_eq_ok_iff, pure_eq_ok_iff, ne_eq, not_not,
      and_true, Option.some.injEq, forall_eq']

theorem createRule_eq_ok_iff {input : CreateRule} {r : ForwardingRule} :
    s.createRule at_ input = .ok (r, s') ↔
      s.acceptRule input = .ok () ∧ s.rules.size < s.quotas.rules ∧
        (input.type = "SYSTEM" → input.targets = [] ∧ input.endpoint = none) ∧
        (∀ t ∈ input.targets, ∃ a, Ipv4.parse? t.ip = some a) ∧
        s.requireOutbound input.endpoint = .ok () ∧
        (∀ q ∈ s.rules.records, q.requestId ≠ input.requestId) ∧
        r = s.buildRule at_ input
          (Identifier.fresh s.rules "rslvr-rr" idDigits at_.draws).1 ∧
        s' = { s with rules := s.rules.insert r, tags := s.tags.tag r.arn input.tags } := by
  rw [createRule, pass_eq_ok_iff]
  simp only [guard_eq_ok_iff, Nat.not_le, not_and, not_or, not_not, ne_eq]
  cases malformed : input.targets.find? fun t => (Ipv4.parse? t.ip).isNone with
  | some bad =>
    have unparsed := List.find?_some malformed
    simp only [throw_eq_ok_iff, and_false, false_iff]
    intro ⟨_, _, _, parsed, _⟩
    obtain ⟨a, ha⟩ := parsed bad (List.mem_of_find?_eq_some malformed)
    simp [ha] at unparsed
  | none =>
    have parsed : ∀ t ∈ input.targets, ∃ a, Ipv4.parse? t.ip = some a := by
      intro t ht
      have := List.find?_eq_none.mp malformed t ht
      simpa [Option.ne_none_iff_exists'] using this
    rw [pass_eq_ok_iff]
    simp only [guard_eq_ok_iff, pure_eq_ok_iff, Prod.mk.injEq, Bool.not_eq_true,
      Registry.find?_isSome_eq_false_iff, beq_eq_false_iff_ne]
    refine ⟨?_, ?_⟩
    · intro ⟨accepted, room, bare, out, new, same, state⟩
      exact ⟨accepted, room, bare, parsed, out, new, same.symm, same ▸ state.symm⟩
    · intro ⟨accepted, room, bare, _, out, new, same, state⟩
      exact ⟨accepted, room, bare, out, new, same.symm, same ▸ state.symm⟩

theorem deleteRule_eq_ok_iff {r : ForwardingRule} :
    s.deleteRule id = .ok (r, s') ↔
      ∃ old, s.rule id = .ok old ∧ (∀ a ∈ s.associations.records, a.rule ≠ id) ∧
        r = { old with status := "DELETING", statusMessage := "Deleting Resolver Rule" } ∧
        s' = { s with rules := s.rules.remove id, tags := s.tags.clear old.arn } := by
  simp only [deleteRule, bind_eq_ok_iff, guard_eq_ok_iff, pure_eq_ok_iff, Prod.mk.injEq,
    Bool.not_eq_true, Registry.find?_isSome_eq_false_iff, beq_eq_false_iff_ne]
  refine ⟨?_, ?_⟩
  · intro ⟨old, found, unused, same, state⟩
    exact ⟨old, found, unused, same.symm, state.symm⟩
  · intro ⟨old, found, unused, same, state⟩
    exact ⟨old, found, unused, same.symm, state.symm⟩

/-! ### Associations -/

theorem findAssociation_isSome_eq_false_iff {rule vpc : String} :
    (s.findAssociation rule vpc).isSome = false ↔
      ∀ a ∈ s.associations.records, a.rule = rule → a.vpc ≠ vpc := by
  simp only [findAssociation, Registry.find?_isSome_eq_false_iff, Bool.and_eq_false_imp,
    beq_iff_eq, beq_eq_false_iff_ne]

def newAssociation (s : ResolverService) (at_ : Moment) (input : AssociateRule) :
    RuleAssociation :=
  { id := (Identifier.fresh s.associations "rslvr-rrassoc" idDigits at_.draws).1
    rule := input.rule
    name := input.name
    vpc := input.vpc
    status := "COMPLETE"
    statusMessage := "" }

theorem succeeds_associateRule_iff {input : AssociateRule} {a : RuleAssociation} :
    Succeeds views (s.associateRule at_ input) (a, s') ↔
      runChecks (associationChecks input) = .ok () ∧
        (∃ r, s.rule input.rule = .ok r) ∧
        (∃ view ∈ views, ∃ v, view.vpc input.vpc = .ok v) ∧
        (∀ b ∈ s.associations.records, b.rule = input.rule → b.vpc ≠ input.vpc) ∧
        s.associations.size < s.quotas.associations ∧
        a = s.newAssociation at_ input ∧
        s' = { s with associations := s.associations.insert a } := by
  simp only [associateRule, succeeds_bind_iff, succeeds_guard_iff, succeeds_lift_iff,
    succeeds_orElseFail_iff, mem_outcomes_askVpc_iff, succeeds_pure_iff, Nat.not_le,
    Bool.not_eq_true, findAssociation_isSome_eq_false_iff, Prod.mk.injEq]
  refine ⟨?_, ?_⟩
  · intro ⟨_, checked, r, found, v, ⟨view, hv, told⟩, new, room, same, state⟩
    exact ⟨checked, ⟨r, found⟩, ⟨view, hv, v, told⟩, new, room, same.symm, same ▸ state.symm⟩
  · intro ⟨checked, ⟨r, found⟩, ⟨view, hv, v, told⟩, new, room, same, state⟩
    subst same
    exact ⟨(), checked, r, found, v, ⟨view, hv, told⟩, new, room, rfl, state.symm⟩

theorem disassociateRule_eq_ok_iff {input : DisassociateRule} {a : RuleAssociation} :
    s.disassociateRule input = .ok (a, s') ↔
      runChecks [idCheck "vPCId" input.vpc, idCheck "resolverRuleId" input.rule] = .ok () ∧
        (∃ r, s.rule input.rule = .ok r) ∧
        ∃ old, s.findAssociation input.rule input.vpc = some old ∧
          a = { old with status := "DELETING", statusMessage := "Deleting Association" } ∧
          s' = { s with associations := s.associations.remove old.id } := by
  rw [disassociateRule, pass_eq_ok_iff]
  simp only [bind_eq_ok_iff]
  cases s.findAssociation input.rule input.vpc with
  | none => simp [throw_eq_ok_iff]
  | some old =>
    simp only [pure_eq_ok_iff, Prod.mk.injEq, Option.some.injEq]
    refine ⟨?_, ?_⟩
    · intro ⟨checked, r, found, same, state⟩
      exact ⟨checked, ⟨r, found⟩, old, rfl, same.symm, state.symm⟩
    · intro ⟨checked, ⟨r, found⟩, _, rfl, same, state⟩
      exact ⟨checked, r, found, same.symm, state.symm⟩

/-! ### All changes -/

/-- What an update of an endpoint does to its addresses. -/
inductive AddressChange (views : Set NetworkView) (taken : List (String × String))
    (old new : Endpoint) : Prop where
  | kept (addresses : new.addresses = old.addresses) (count : new.addressCount = old.addressCount)
  | added (a : EndpointAddress) (granted : Granted views taken [a])
    (room : old.addresses.length < maxAddresses) (addresses : new.addresses = old.addresses ++ [a])
    (count : new.addressCount = new.addresses.length)
  | removed (i : Nat) (enough : minAddresses < old.addresses.length)
    (addresses : new.addresses = old.addresses.eraseIdx i)
    (count : new.addressCount = new.addresses.length)

/-- What can become of the service when a request is served and its questions are answered by any of
the networks. -/
inductive Change (views : Set NetworkView) (s : ResolverService) : ResolverService → Prop where
  | looked : Change views s s
  | endpointCreated (e : Endpoint) (tags : List Tag) (accepted : s.acceptTags tags = .ok ())
    (room : s.endpoints.size < s.quotas.endpoints) (free : s.endpoints.contains e.id = false)
    (numbered : Identifier.IsNumbered (endpointKind e.direction) idDigits s.endpoints.size e.id)
    (arn : e.arn = s.arn ("resolver-endpoint/" ++ e.id))
    (new : ∀ d ∈ s.endpoints.records, d.requestId ≠ e.requestId)
    (granted : Granted views s.heldAddresses e.addresses)
    (count : e.addressCount = e.addresses.length) (least : minAddresses ≤ e.addresses.length)
    (greatest : e.addresses.length ≤ maxAddresses) :
    Change views s
      { s with endpoints := s.endpoints.insert e, tags := s.tags.tag e.arn tags }
  | endpointReplaced (old new : Endpoint) (live : s.endpoints.get? new.id = some old)
    (arn : new.arn = old.arn) (requestId : new.requestId = old.requestId)
    (direction : new.direction = old.direction)
    (addresses : AddressChange views s.heldAddresses old new) :
    Change views s { s with endpoints := s.endpoints.insert new }
  | endpointDeleted (old : Endpoint) (live : s.endpoints.get? old.id = some old)
    (unused : ∀ r ∈ s.rules.records, r.endpoint ≠ some old.id) :
    Change views s
      { s with endpoints := s.endpoints.remove old.id, tags := s.tags.clear old.arn }
  | ruleCreated (r : ForwardingRule) (tags : List Tag) (accepted : s.acceptTags tags = .ok ())
    (room : s.rules.size < s.quotas.rules) (free : s.rules.contains r.id = false)
    (numbered : Identifier.IsNumbered "rslvr-rr" idDigits s.rules.size r.id)
    (arn : r.arn = s.arn ("resolver-rule/" ++ r.id))
    (new : ∀ q ∈ s.rules.records, q.requestId ≠ r.requestId)
    (bare : r.type = "SYSTEM" → r.targets = [] ∧ r.endpoint = none)
    (targets : ∀ t ∈ r.targets, (∃ a, Ipv4.parse? t.ip = some a) ∧ t.port ≤ greatestPort)
    (out : ∀ id, r.endpoint = some id →
      ∃ e, s.endpoints.get? id = some e ∧ e.direction = outbound) :
    Change views s { s with rules := s.rules.insert r, tags := s.tags.tag r.arn tags }
  | ruleDeleted (old : ForwardingRule) (live : s.rules.get? old.id = some old)
    (unused : ∀ a ∈ s.associations.records, a.rule ≠ old.id) :
    Change views s { s with rules := s.rules.remove old.id, tags := s.tags.clear old.arn }
  | associated (a : RuleAssociation) (r : ForwardingRule) (live : s.rules.get? a.rule = some r)
    (new : ∀ b ∈ s.associations.records, b.rule = a.rule → b.vpc ≠ a.vpc)
    (room : s.associations.size < s.quotas.associations)
    (free : s.associations.contains a.id = false)
    (numbered : Identifier.IsNumbered "rslvr-rrassoc" idDigits s.associations.size a.id) :
    Change views s { s with associations := s.associations.insert a }
  | disassociated (a : RuleAssociation) (live : s.associations.get? a.id = some a) :
    Change views s { s with associations := s.associations.remove a.id }
  | tagged (arn : String) (tags : List Tag) (live : s.requireResource arn = .ok ())
    (accepted : s.acceptTags tags = .ok ())
    (room : (s.tags.tags arn).length + Tag.addedCount (s.tags.tags arn) tags ≤
      s.quotas.tagsPerResource) :
    Change views s { s with tags := s.tags.tag arn tags }
  | untagged (arn : String) (keys : List String) (live : s.requireResource arn = .ok ()) :
    Change views s { s with tags := s.tags.untag arn keys }

theorem change_of_createEndpoint {input : CreateEndpoint} {e : Endpoint}
    (h : Succeeds views (s.createEndpoint at_ input) (e, s')) : Change views s s' := by
  obtain ⟨accepted, room, enough, ⟨assigned, given, registered⟩, -, new⟩ :=
    succeeds_createEndpoint_iff.mp h
  have few := length_addresses_of_checks (acceptEndpoint_eq_ok_iff.mp accepted).1
  have length := (length_attachAll at_.now assigned at_.draws).trans (length_of_assign given)
  cases registered
  apply Change.endpointCreated
  · exact (acceptEndpoint_eq_ok_iff.mp accepted).2
  · exact room
  · exact Identifier.contains_fresh _ _ _ _
  · exact Identifier.isNumbered_fresh _ _ _ _
  · rfl
  · exact new
  · exact granted_of_assign given _ _
  · rfl
  · exact length ▸ enough
  · exact length ▸ few

theorem get?_of_endpoint {e : Endpoint} (h : s.endpoint id = .ok e) :
    s.endpoints.get? e.id = some e := by
  have found := (endpoint_eq_ok_iff.mp h).2
  have same : e.id = id := Registry.key_of_get? found
  exact same ▸ found

theorem change_of_updateEndpoint {input : UpdateEndpoint} {e : Endpoint}
    (h : s.updateEndpoint at_ input = .ok (e, s')) : Change views s s' := by
  obtain ⟨-, old, found, rfl, rfl⟩ := updateEndpoint_eq_ok_iff.mp h
  exact .endpointReplaced old _ (get?_of_endpoint found) rfl rfl rfl (.kept rfl rfl)

theorem change_of_deleteEndpoint {e : Endpoint} (h : s.deleteEndpoint id = .ok (e, s')) :
    Change views s s' := by
  obtain ⟨old, found, unused, -, rfl⟩ := deleteEndpoint_eq_ok_iff.mp h
  have same : old.id = id := Registry.key_of_get? (endpoint_eq_ok_iff.mp found).2
  subst same
  exact .endpointDeleted old (get?_of_endpoint found) (rulesOf_eq_nil_iff.mp unused)

theorem change_of_associateAddress {input : ChangeAddress} {e : Endpoint}
    (h : Succeeds views (s.associateAddress at_ input) (e, s')) : Change views s s' := by
  obtain ⟨old, subnet, assigned, found, -, room, given, rfl, rfl⟩ :=
    succeeds_associateAddress_iff.mp h
  have granted := granted_of_assign given at_.now at_.draws
  have length := (length_attachAll at_.now assigned at_.draws).trans (length_of_assign given)
  obtain ⟨a, single⟩ := List.length_eq_one_iff.mp length
  rw [single] at granted ⊢
  exact .endpointReplaced old _ (get?_of_endpoint found) rfl rfl rfl (.added a granted room rfl rfl)

theorem change_of_disassociateAddress {input : ChangeAddress} {e : Endpoint}
    (h : s.disassociateAddress at_ input = .ok (e, s')) : Change views s s' := by
  obtain ⟨old, i, found, -, enough, rfl, rfl⟩ := disassociateAddress_eq_ok_iff.mp h
  exact .endpointReplaced old _ (get?_of_endpoint found) rfl rfl rfl (.removed i enough rfl rfl)

theorem change_of_createRule {input : CreateRule} {r : ForwardingRule}
    (h : s.createRule at_ input = .ok (r, s')) : Change views s s' := by
  obtain ⟨accepted, room, bare, parsed, out, new, rfl, rfl⟩ := createRule_eq_ok_iff.mp h
  apply Change.ruleCreated
  · exact (acceptRule_eq_ok_iff.mp accepted).2
  · exact room
  · exact Identifier.contains_fresh _ _ _ _
  · exact Identifier.isNumbered_fresh _ _ _ _
  · rfl
  · exact new
  · exact bare
  · intro t ht
    exact ⟨parsed t ht, port_le_of_checks (acceptRule_eq_ok_iff.mp accepted).1 ht⟩
  · intro id named
    obtain ⟨e, found, direction⟩ := requireOutbound_eq_ok_iff.mp out id named
    exact ⟨e, (endpoint_eq_ok_iff.mp found).2, direction⟩

theorem change_of_deleteRule {r : ForwardingRule} (h : s.deleteRule id = .ok (r, s')) :
    Change views s s' := by
  obtain ⟨old, found, unused, -, rfl⟩ := deleteRule_eq_ok_iff.mp h
  have live := (rule_eq_ok_iff.mp found).2
  have same : old.id = id := Registry.key_of_get? live
  subst same
  exact .ruleDeleted old live unused

theorem change_of_associateRule {input : AssociateRule} {a : RuleAssociation}
    (h : Succeeds views (s.associateRule at_ input) (a, s')) : Change views s s' := by
  obtain ⟨-, ⟨r, found⟩, -, new, room, rfl, rfl⟩ := succeeds_associateRule_iff.mp h
  apply Change.associated (r := r)
  · exact (rule_eq_ok_iff.mp found).2
  · exact new
  · exact room
  · exact Identifier.contains_fresh _ _ _ _
  · exact Identifier.isNumbered_fresh _ _ _ _

theorem change_of_disassociateRule {input : DisassociateRule} {a : RuleAssociation}
    (h : s.disassociateRule input = .ok (a, s')) : Change views s s' := by
  obtain ⟨-, -, old, found, -, rfl⟩ := disassociateRule_eq_ok_iff.mp h
  exact .disassociated old
    (Registry.get?_eq_some_iff.mpr ⟨List.mem_of_find?_eq_some found, rfl⟩)

theorem tagResource_eq_ok_iff {input : TagByArn} {u : Unit} :
    s.tagResource input = .ok (u, s') ↔
      s.requireResource input.arn = .ok () ∧ s.acceptTags input.tags = .ok () ∧
        (s.tags.tags input.arn).length + Tag.addedCount (s.tags.tags input.arn) input.tags ≤
          s.quotas.tagsPerResource ∧
        s' = { s with tags := s.tags.tag input.arn input.tags } := by
  rw [tagResource, pass_eq_ok_iff, pass_eq_ok_iff]
  simp only [guard_eq_ok_iff, pure_eq_ok_iff, Prod.mk.injEq, true_and, Nat.not_lt, gt_iff_lt,
    eq_comm (a := s')]

theorem untagResource_eq_ok_iff {input : UntagByArn} {u : Unit} :
    s.untagResource input = .ok (u, s') ↔
      s.requireResource input.arn = .ok () ∧
        s' = { s with tags := s.tags.untag input.arn input.keys } := by
  rw [untagResource, pass_eq_ok_iff]
  simp only [pure_eq_ok_iff, Prod.mk.injEq, true_and, eq_comm (a := s')]

theorem change_of_tagResource {input : TagByArn} {u : Unit}
    (h : s.tagResource input = .ok (u, s')) : Change views s s' := by
  obtain ⟨live, accepted, room, rfl⟩ := tagResource_eq_ok_iff.mp h
  exact .tagged _ _ live accepted room

theorem change_of_untagResource {input : UntagByArn} {u : Unit}
    (h : s.untagResource input = .ok (u, s')) : Change views s s' := by
  obtain ⟨live, rfl⟩ := untagResource_eq_ok_iff.mp h
  exact .untagged _ _ live

theorem change_of_run {name : String} {op : Op} {input : op.Input} {output : op.Output}
    (hop : operations name = some op) (h : .ok (output, s') ∈ (op.run s at_ input).outcomes views) :
    Change views s s' := by
  simp only [operations] at hop
  split at hop <;> cases hop
  case h_1 => exact change_of_createEndpoint h
  case h_2 => exact state_of_look h.symm ▸ .looked
  case h_3 => exact change_of_updateEndpoint h.symm
  case h_4 => exact change_of_deleteEndpoint h.symm
  case h_5 => exact state_of_look h.symm ▸ .looked
  case h_6 => exact state_of_look h.symm ▸ .looked
  case h_7 => exact change_of_associateAddress h
  case h_8 => exact change_of_disassociateAddress h.symm
  case h_9 => exact change_of_createRule h.symm
  case h_10 => exact state_of_look h.symm ▸ .looked
  case h_11 => exact change_of_deleteRule h.symm
  case h_12 => exact state_of_look h.symm ▸ .looked
  case h_13 => exact change_of_associateRule h
  case h_14 => exact change_of_disassociateRule h.symm
  case h_15 => exact state_of_look h.symm ▸ .looked
  case h_16 => exact state_of_look h.symm ▸ .looked
  case h_17 => exact change_of_tagResource h.symm
  case h_18 => exact change_of_untagResource h.symm
  case h_19 => exact state_of_look h.symm ▸ .looked

theorem change_of_serve {name : String} {bag j : Json}
    (h : .ok (j, s') ∈ (operations.serve s at_ name bag).outcomes views) : Change views s s' := by
  obtain ⟨op, input, output, hop, -, hr, -⟩ := Catalog.exists_of_mem_outcomes_serve h
  exact change_of_run hop hr

theorem Change.quotas_eq (h : Change views s s') : s'.quotas = s.quotas := by
  cases h <;> rfl

/-- No request writes a rule or an association again, so while the ids stay the records do. -/
theorem Change.rules_prefix (h : Change views s s') (kept : s.rules.keys <+: s'.rules.keys) :
    s.rules.records <+: s'.rules.records := by
  cases h with
  | ruleCreated r tags accepted room free numbered arn new bare targets out =>
    rw [Registry.records_insert_of_not_contains free]
    exact List.prefix_append _ _
  | ruleDeleted old live unused => exact Registry.records_prefix_remove kept
  | _ => exact List.prefix_refl _

theorem Change.associations_prefix (h : Change views s s')
    (kept : s.associations.keys <+: s'.associations.keys) :
    s.associations.records <+: s'.associations.records := by
  cases h with
  | associated a r live new room free numbered =>
    rw [Registry.records_insert_of_not_contains free]
    exact List.prefix_append _ _
  | disassociated a live => exact Registry.records_prefix_remove kept
  | _ => exact List.prefix_refl _

end ControlPlane.ResolverService
