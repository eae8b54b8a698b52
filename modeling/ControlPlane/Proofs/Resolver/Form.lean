import ControlPlane.Proofs.Validation.FormFirst
import ControlPlane.Resolver.Operations

/-!
The form of requests for endpoints, rules and associations. What is required of each is listed field
by field. Ids that are looked up are checked once more when they are; the form of the request covers
that check already.
-/

namespace ControlPlane

open ResolverConstraint Requirement

def ResolverConstraint.nameRequirements (name : Option String) : List Requirement :=
  name.toList.map (lengthAtMost 64 "name") ++ name.toList.map (matching namePattern "name")

namespace CreateEndpoint

def addressCount (input : CreateEndpoint) : Requirement :=
  ⟨"ipAddresses", ((Codec.list AddressRequest.record.codec).encode input.addresses).render,
    "have length less than or equal to 10", input.addresses.length ≤ 10⟩

def requirements (input : CreateEndpoint) : List Requirement :=
  [lengthAtMost 255 "creatorRequestId" input.requestId,
    oneOf directions "direction" input.direction, input.addressCount]
    ++ nameRequirements input.name
    ++ input.groups.map (lengthAtMost 64 "securityGroupIds")
    ++ input.addresses.map fun a => lengthAtMost 32 "ipAddresses.subnetId" a.subnet

def rejection (limit : Nat) (input : CreateEndpoint) : Option ResolverFault :=
  (firstFailure [input.requirements, Tag.requirements input.tags limit]).map .validation

end CreateEndpoint

namespace CreateRule

def portRequirement (t : TargetAddress) : Requirement :=
  ⟨"targetIps.port", toString t.port, "have value less than or equal to 65535", t.port ≤ 65535⟩

def requirements (input : CreateRule) : List Requirement :=
  [lengthAtMost 255 "creatorRequestId" input.requestId]
    ++ nameRequirements input.name
    ++ [oneOf ruleTypes "ruleType" input.type, lengthAtLeast 1 "domainName" input.domain,
      lengthAtMost 256 "domainName" input.domain]
    ++ input.targets.map portRequirement
    ++ input.endpoint.toList.map (lengthAtMost 64 "resolverEndpointId")

def rejection (limit : Nat) (input : CreateRule) : Option ResolverFault :=
  (firstFailure [input.requirements, Tag.requirements input.tags limit]).map .validation

end CreateRule

namespace AssociateRule

def requirements (input : AssociateRule) : List Requirement :=
  [lengthAtMost 64 "resolverRuleId" input.rule] ++ nameRequirements input.name
    ++ [lengthAtMost 64 "vPCId" input.vpc]

def rejection (input : AssociateRule) : Option ResolverFault :=
  (firstFailure [input.requirements]).map .validation

end AssociateRule

namespace ResolverService

theorem nameChecks_eq (name : Option String) :
    nameChecks name = (nameRequirements name).map check := by
  rw [nameRequirements, List.map_append, nameChecks, checks_lengthAtMost, checks_matching]

theorem endpointChecks_eq (input : CreateEndpoint) :
    endpointChecks input = input.requirements.map check := by
  simp only [endpointChecks, CreateEndpoint.requirements, nameChecks_eq, List.map_append,
    List.map_map]
  rfl

theorem ruleChecks_eq (input : CreateRule) :
    ruleChecks input = input.requirements.map check := by
  simp only [ruleChecks, CreateRule.requirements, nameChecks_eq, checks_lengthAtMost,
    List.map_append, List.map_map]
  rfl

theorem associationChecks_eq (input : AssociateRule) :
    associationChecks input = input.requirements.map check := by
  simp only [associationChecks, AssociateRule.requirements, nameChecks_eq, List.map_append]
  rfl

variable (s : ResolverService)

theorem acceptEndpoint_eq (input : CreateEndpoint) :
    s.acceptEndpoint input = verdict (input.rejection s.quotas.tagsPerResource) := by
  rw [acceptEndpoint, runChecks, endpointChecks_eq, acceptTags, Tag.validate_eq_batch,
    validate_batch _ (Tag.requirements _ _), validate_batch_bind]
  rfl

theorem acceptRule_eq (input : CreateRule) :
    s.acceptRule input = verdict (input.rejection s.quotas.tagsPerResource) := by
  rw [acceptRule, runChecks, ruleChecks_eq, acceptTags, Tag.validate_eq_batch,
    validate_batch _ (Tag.requirements _ _), validate_batch_bind]
  rfl

theorem runChecks_associationChecks (input : AssociateRule) :
    runChecks (associationChecks input) = verdict input.rejection := by
  rw [runChecks, associationChecks_eq, validate_batch]
  rfl

end ResolverService

def ResolverFault.OfForm : ResolverFault → Prop
  | validation _ => True
  | _ => False

namespace ResolverService

abbrev Later (e : ResolverFault) : Prop := ¬e.OfForm

theorem failsIn_chooseAddress (taken : List (String × String)) (n : Subnet) (ip : Option String) :
    FailsIn Later (chooseAddress taken n ip) := by
  unfold chooseAddress
  split
  · split
    · split
      · exact .ok
      · exact .error id
    · exact .error id
  · split
    · exact .ok
    · exact .error id

theorem failsIn_settle (taken : List (String × String)) (n : Subnet) (ip : Option String) :
    FailsIn Later (settle taken n ip) := by
  refine .bind (failsIn_chooseAddress taken n ip) fun chosen _ => ?_
  exact .guard id fun _ => .ok

theorem failsIn_assign (taken : List (String × String)) (requests : List AddressRequest) :
    Lookup.FailsIn Later (assign taken requests) := by
  induction requests generalizing taken with
  | nil => exact .pure
  | cons request rest ih =>
    refine .bind (.orElseFail id) fun n _ => ?_
    refine .bind (.lift (failsIn_settle taken n request.ip)) fun ip _ => ?_
    exact .bind (ih _) fun _ _ => .pure

theorem failsIn_acceptEachGroup (ids : List String) :
    Lookup.FailsIn Later (acceptEachGroup ids) := by
  induction ids with
  | nil => exact .pure
  | cons id rest ih =>
    refine .bind ?_ fun _ _ => ih
    refine .guard (fun h => h) fun _ => ?_
    exact .bind (.orElseFail fun h => h) fun _ _ => .pure

theorem failsIn_acceptGroups (ids : List String) : Lookup.FailsIn Later (acceptGroups ids) :=
  .guard id fun _ => failsIn_acceptEachGroup ids

variable {s : ResolverService}

theorem runChecks_idCheck {id : String} (short : id.length ≤ 64) (field : String) :
    runChecks [idCheck field id] = .ok () := by
  rw [runChecks, mapError_eq_ok_iff, validate_eq_ok_iff]
  intro c hc
  cases List.mem_singleton.mp hc
  exact Rule.requires_eq_none_iff.mpr (decide_eq_true short)

theorem failsIn_endpoint {id : String} (short : id.length ≤ 64) :
    FailsIn Later (s.endpoint id) := by
  rw [endpoint, runChecks_idCheck short]
  refine .bind .ok fun _ _ => ?_
  split
  · exact .ok
  · exact .error fun h => h

theorem failsIn_rule {id : String} (short : id.length ≤ 64) : FailsIn Later (s.rule id) := by
  rw [rule, runChecks_idCheck short]
  refine .bind .ok fun _ _ => ?_
  split
  · exact .ok
  · exact .error fun h => h

theorem failsIn_requireOutbound {id? : Option String} (short : ∀ id ∈ id?, id.length ≤ 64) :
    FailsIn Later (s.requireOutbound id?) := by
  cases id? with
  | none => exact .ok
  | some id =>
    refine .bind (failsIn_endpoint (short id rfl)) fun e _ => ?_
    exact .refuse (fun h => h) fun _ => .ok

theorem failsIn_createEndpoint {at_ : Moment} {input : CreateEndpoint}
    (accepted : s.acceptEndpoint input = .ok ()) :
    Lookup.FailsIn Later (s.createEndpoint at_ input) := by
  refine .bind (.lift (accepted ▸ .ok)) fun _ _ => ?_
  refine .guard id fun _ => ?_
  refine .guard id fun _ => ?_
  refine .bind (failsIn_assign _ _) fun assigned _ => ?_
  refine .bind (failsIn_acceptGroups _) fun _ _ => ?_
  exact .guard id fun _ => .pure

theorem failsIn_createRule {at_ : Moment} {input : CreateRule}
    (accepted : s.acceptRule input = .ok ()) (short : ∀ id ∈ input.endpoint, id.length ≤ 64) :
    FailsIn Later (s.createRule at_ input) := by
  refine .bind (accepted ▸ .ok) fun _ _ => ?_
  refine .guard id fun _ => ?_
  refine .guard id fun _ => ?_
  split
  · exact .error id
  · refine .bind (failsIn_requireOutbound short) fun _ _ => ?_
    exact .guard id fun _ => .ok

theorem failsIn_associateRule {at_ : Moment} {input : AssociateRule}
    (accepted : runChecks (associationChecks input) = .ok ()) (short : input.rule.length ≤ 64) :
    Lookup.FailsIn Later (s.associateRule at_ input) := by
  refine .bind (.lift (accepted ▸ .ok)) fun _ _ => ?_
  refine .bind (.lift (failsIn_rule short)) fun _ _ => ?_
  refine .bind (.orElseFail id) fun _ _ => ?_
  refine .guard id fun _ => ?_
  exact .guard id fun _ => .pure

theorem ofForm_of_code {e : ResolverFault} (h : Fault.code e = "ValidationException") :
    e.OfForm := by
  cases e with
  | validation e => trivial
  | _ => simp [Fault.code, ResolverFault.code] at h

theorem ofForm_of_violations {batches : List (List Requirement)} {e : ResolverFault}
    (h : (firstFailure batches).map .validation = some e) : e.OfForm := by
  obtain ⟨violations, -, rfl⟩ := Option.map_eq_some_iff.mp h
  trivial

theorem createEndpoint_formFirst :
    FormFirst createEndpointOp (·.quotas.tagsPerResource) CreateEndpoint.rejection
      ResolverFault.OfForm := by
  refine .of_passes (fun _ => ofForm_of_code) ?_ ?_
  · intro s at_ (input : CreateEndpoint) e refused
    refine ⟨ofForm_of_violations refused, ?_⟩
    have rejected : s.acceptEndpoint input = .error e := by
      rw [acceptEndpoint_eq, refused]
      rfl
    have first : s.createEndpoint at_ input = lift (s.acceptEndpoint input) >>= fun _ => _ := rfl
    simp only [createEndpointOp]
    rw [first, rejected]
    rfl
  · intro s at_ (input : CreateEndpoint) passed
    refine failsIn_createEndpoint ?_
    rw [acceptEndpoint_eq, passed]
    rfl

theorem createRule_formFirst :
    FormFirst createRuleOp (·.quotas.tagsPerResource) CreateRule.rejection
      ResolverFault.OfForm := by
  refine .of_passes (fun _ => ofForm_of_code) ?_ ?_
  · intro s at_ (input : CreateRule) e refused
    refine ⟨ofForm_of_violations refused, ?_⟩
    have rejected : s.acceptRule input = .error e := by
      rw [acceptRule_eq, refused]
      rfl
    simp only [createRuleOp, Operation.writing, createRule, rejected]
    rfl
  · intro s at_ (input : CreateRule) passed
    refine .lift (failsIn_createRule ?_ fun id given => ?_)
    · rw [acceptRule_eq, passed]
      rfl
    · have listed : lengthAtMost 64 "resolverEndpointId" id ∈ input.requirements := by
        rw [CreateRule.requirements, Option.mem_def.mp given]
        exact List.mem_append_right _ (List.mem_singleton_self _)
      exact of_decide_eq_true (met_of_firstFailure (Option.map_eq_none_iff.mp passed) listed)

theorem associateRule_formFirst :
    FormFirst associateRuleOp (fun _ => 0) (fun _ => AssociateRule.rejection)
      ResolverFault.OfForm := by
  refine .of_passes (fun _ => ofForm_of_code) ?_ ?_
  · intro s at_ (input : AssociateRule) e refused
    refine ⟨ofForm_of_violations refused, ?_⟩
    have rejected : runChecks (associationChecks input) = .error e := by
      rw [runChecks_associationChecks, refused]
      rfl
    simp only [associateRuleOp, associateRule, rejected]
    rfl
  · intro s at_ (input : AssociateRule) passed
    refine failsIn_associateRule ?_ ?_
    · rw [runChecks_associationChecks, passed]
      rfl
    · have listed : lengthAtMost 64 "resolverRuleId" input.rule ∈ input.requirements :=
        List.mem_append_left _ (List.mem_append_left _ (List.mem_singleton_self _))
      exact of_decide_eq_true (met_of_firstFailure (Option.map_eq_none_iff.mp passed) listed)

end ResolverService

end ControlPlane
