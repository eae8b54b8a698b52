import ControlPlane.Proofs.Resolver.Change
import Mathlib.Data.List.Induction

/-!
The graph of the name resolver service: endpoints, the rules that forward through them, and the
associations of rules with clouds. Main statement: whatever the networks answer, in every state that
requests lead to references are alive, nothing that must be different is the same, and no quota is
exceeded.
-/

namespace ControlPlane.ResolverService

open ResolverConstraint

variable {views : Set NetworkView} {s s' : ResolverService}

/-- What the records of the service have to do with each other and with its quotas. -/
structure Consistent (s : ResolverService) : Prop where
  rule_endpoint : ∀ r ∈ s.rules.records, ∀ id, r.endpoint = some id →
    ∃ e ∈ s.endpoints.records, e.id = id ∧ e.direction = outbound
  association_rule : ∀ a ∈ s.associations.records, ∃ r ∈ s.rules.records, r.id = a.rule
  association_pair : (s.associations.records.map fun a => (a.rule, a.vpc)).Nodup
  endpoint_request : (s.endpoints.records.map (·.requestId)).Nodup
  rule_request : (s.rules.records.map (·.requestId)).Nodup
  system_bare : ∀ r ∈ s.rules.records, r.type = "SYSTEM" → r.targets = [] ∧ r.endpoint = none
  target : ∀ r ∈ s.rules.records, ∀ t ∈ r.targets, (∃ a : Ipv4, t.ip = a.text) ∧ t.port ≤ 65535
  endpoints_le : s.endpoints.size ≤ s.quotas.endpoints
  rules_le : s.rules.size ≤ s.quotas.rules
  associations_le : s.associations.size ≤ s.quotas.associations

theorem consistent_empty (scope : Scope) (quotas : ResolverQuotas) :
    Consistent (empty scope quotas) where
  rule_endpoint := fun _ hr => nomatch hr
  association_rule := fun _ ha => nomatch ha
  association_pair := List.nodup_nil
  endpoint_request := List.nodup_nil
  rule_request := List.nodup_nil
  system_bare := fun _ hr => nomatch hr
  target := fun _ hr => nomatch hr
  endpoints_le := Nat.zero_le _
  rules_le := Nat.zero_le _
  associations_le := Nat.zero_le _

theorem Consistent.insertEndpoint (hc : Consistent s) {e : Endpoint} (tags : TagStore)
    (room : s.endpoints.size < s.quotas.endpoints) (free : s.endpoints.contains e.id = false)
    (new : ∀ d ∈ s.endpoints.records, d.requestId ≠ e.requestId) :
    Consistent { s with endpoints := s.endpoints.insert e, tags := tags } := by
  refine { hc with rule_endpoint := ?_, endpoint_request := ?_, endpoints_le := ?_ }
  · intro r hr id named
    obtain ⟨d, hd, same⟩ := hc.rule_endpoint r hr id named
    exact ⟨d, (Registry.mem_insert_iff free).mpr (Or.inl hd), same⟩
  · exact Registry.nodup_map_insert free new hc.endpoint_request
  · have size := Registry.size_insert free
    change (s.endpoints.insert e).size ≤ s.quotas.endpoints
    omega

theorem Consistent.replaceEndpoint (hc : Consistent s) {old new : Endpoint}
    (live : s.endpoints.get? new.id = some old) (requestId : new.requestId = old.requestId)
    (direction : new.direction = old.direction) :
    Consistent { s with endpoints := s.endpoints.insert new } := by
  refine { hc with rule_endpoint := ?_, endpoint_request := ?_, endpoints_le := ?_ }
  · intro r hr id named
    apply Registry.exists_mem_insert_of_get? live _ (hc.rule_endpoint r hr id named)
    intro ⟨sameId, out⟩
    have key : old.id = new.id := Registry.key_of_get? live
    exact ⟨key.symm.trans sameId, direction.trans out⟩
  · have same := Registry.map_insert_of_get? (fun e : Endpoint => e.requestId) live requestId
    exact same.symm ▸ hc.endpoint_request
  · have size := Registry.size_insert_of_get? live
    have bound := hc.endpoints_le
    change (s.endpoints.insert new).size ≤ s.quotas.endpoints
    omega

theorem Consistent.removeEndpoint (hc : Consistent s) {id : String} (tags : TagStore)
    (unused : ∀ r ∈ s.rules.records, r.endpoint ≠ some id) :
    Consistent { s with endpoints := s.endpoints.remove id, tags := tags } := by
  refine { hc with rule_endpoint := ?_, endpoint_request := ?_, endpoints_le := ?_ }
  · intro r hr other named
    obtain ⟨e, he, sameId, out⟩ := hc.rule_endpoint r hr other named
    have different : e.id ≠ id := by
      intro same
      exact unused r hr (named.trans (congrArg some (sameId.symm.trans same)))
    exact ⟨e, Registry.mem_remove_iff.mpr ⟨he, different⟩, sameId, out⟩
  · exact Registry.nodup_map_remove id hc.endpoint_request
  · exact (Registry.size_remove_le _ _).trans hc.endpoints_le

theorem Consistent.insertRule (hc : Consistent s) {r : ForwardingRule} (tags : TagStore)
    (room : s.rules.size < s.quotas.rules) (free : s.rules.contains r.id = false)
    (new : ∀ q ∈ s.rules.records, q.requestId ≠ r.requestId)
    (bare : r.type = "SYSTEM" → r.targets = [] ∧ r.endpoint = none)
    (targets : ∀ t ∈ r.targets, (∃ a, Ipv4.parse? t.ip = some a) ∧ t.port ≤ greatestPort)
    (out : ∀ id, r.endpoint = some id →
      ∃ e, s.endpoints.get? id = some e ∧ e.direction = outbound) :
    Consistent { s with rules := s.rules.insert r, tags := tags } := by
  have mem : ∀ q, q ∈ (s.rules.insert r).records ↔ q ∈ s.rules.records ∨ q = r := fun q =>
    Registry.mem_insert_iff free
  refine { hc with
    rule_endpoint := ?_, association_rule := ?_, rule_request := ?_, system_bare := ?_,
    target := ?_, rules_le := ?_ }
  · intro q hq id named
    rcases (mem q).mp hq with hq | rfl
    · exact hc.rule_endpoint q hq id named
    · obtain ⟨e, live, direction⟩ := out id named
      obtain ⟨he, key⟩ := Registry.get?_eq_some_iff.mp live
      exact ⟨e, he, key, direction⟩
  · intro a ha
    obtain ⟨q, hq, same⟩ := hc.association_rule a ha
    exact ⟨q, (mem q).mpr (Or.inl hq), same⟩
  · exact Registry.nodup_map_insert free new hc.rule_request
  · intro q hq
    rcases (mem q).mp hq with hq | rfl
    · exact hc.system_bare q hq
    · exact bare
  · intro q hq t ht
    rcases (mem q).mp hq with hq | rfl
    · exact hc.target q hq t ht
    · obtain ⟨⟨a, parsed⟩, port⟩ := targets t ht
      exact ⟨⟨a, Ipv4.parse?_eq_some_iff.mp parsed⟩, port⟩
  · have size := Registry.size_insert free
    change (s.rules.insert r).size ≤ s.quotas.rules
    omega

theorem Consistent.removeRule (hc : Consistent s) {id : String} (tags : TagStore)
    (unused : ∀ a ∈ s.associations.records, a.rule ≠ id) :
    Consistent { s with rules := s.rules.remove id, tags := tags } := by
  have old : ∀ q ∈ (s.rules.remove id).records, q ∈ s.rules.records := fun q hq =>
    (Registry.mem_remove_iff.mp hq).1
  refine { hc with
    rule_endpoint := fun q hq => hc.rule_endpoint q (old q hq)
    association_rule := ?_
    rule_request := Registry.nodup_map_remove id hc.rule_request
    system_bare := fun q hq => hc.system_bare q (old q hq)
    target := fun q hq => hc.target q (old q hq)
    rules_le := (Registry.size_remove_le _ _).trans hc.rules_le }
  intro a ha
  obtain ⟨q, hq, same⟩ := hc.association_rule a ha
  have different : q.id ≠ id := same.symm ▸ unused a ha
  exact ⟨q, Registry.mem_remove_iff.mpr ⟨hq, different⟩, same⟩

theorem Consistent.insertAssociation (hc : Consistent s) {a : RuleAssociation}
    {r : ForwardingRule} (live : s.rules.get? a.rule = some r)
    (new : ∀ b ∈ s.associations.records, b.rule = a.rule → b.vpc ≠ a.vpc)
    (room : s.associations.size < s.quotas.associations)
    (free : s.associations.contains a.id = false) :
    Consistent { s with associations := s.associations.insert a } := by
  refine { hc with association_rule := ?_, association_pair := ?_, associations_le := ?_ }
  · intro b hb
    rcases (Registry.mem_insert_iff free).mp hb with hb | rfl
    · exact hc.association_rule b hb
    · obtain ⟨hr, key⟩ := Registry.get?_eq_some_iff.mp live
      exact ⟨r, hr, key⟩
  · apply Registry.nodup_map_insert free _ hc.association_pair
    intro b hb same
    rw [Prod.mk.injEq] at same
    exact new b hb same.1 same.2
  · have size := Registry.size_insert free
    change (s.associations.insert a).size ≤ s.quotas.associations
    omega

theorem Consistent.removeAssociation (hc : Consistent s) (id : String) :
    Consistent { s with associations := s.associations.remove id } :=
  { hc with
    association_rule := fun a ha => hc.association_rule a (Registry.mem_remove_iff.mp ha).1
    association_pair := Registry.nodup_map_remove id hc.association_pair
    associations_le := (Registry.size_remove_le _ _).trans hc.associations_le }

theorem Change.consistent (h : Change views s s') (hc : Consistent s) : Consistent s' := by
  cases h with
  | looked => exact hc
  | endpointCreated e tags accepted room free numbered arn new granted count least greatest =>
    exact hc.insertEndpoint _ room free new
  | endpointReplaced old new live arn requestId direction addresses =>
    exact hc.replaceEndpoint live requestId direction
  | endpointDeleted old live unused => exact hc.removeEndpoint _ unused
  | ruleCreated r tags accepted room free numbered arn new bare targets out =>
    exact hc.insertRule _ room free new bare targets out
  | ruleDeleted old live unused => exact hc.removeRule _ unused
  | associated a r live new room free numbered => exact hc.insertAssociation live new room free
  | disassociated a live => exact hc.removeAssociation a.id
  | tagged arn tags live accepted room => exact { hc with }
  | untagged arn keys live => exact { hc with }

/-- The service after a request whose questions meet one network after the other. -/
def after (s : ResolverService) (q : Request × (Nat → NetworkView)) : ResolverService :=
  match (operations.serve s q.1.at_ q.1.action q.1.bag).answerAlong q.2 with
  | .ok (_, s') => s'
  | .error _ => s

theorem change_after (s : ResolverService) (q : Request × (Nat → NetworkView)) :
    Change Set.univ s (s.after q) := by
  have outcome := Lookup.answerAlong_mem_outcomes (fun n => Set.mem_univ (q.2 n))
    (operations.serve s q.1.at_ q.1.action q.1.bag)
  rw [after]
  split
  · rename_i j s' h
    rw [h] at outcome
    exact change_of_serve outcome
  · exact .looked

def run (scope : Scope) (quotas : ResolverQuotas) (qs : List (Request × (Nat → NetworkView))) :
    ResolverService :=
  qs.foldl after (empty scope quotas)

theorem run_concat (scope : Scope) (quotas : ResolverQuotas)
    (qs : List (Request × (Nat → NetworkView))) (q : Request × (Nat → NetworkView)) :
    run scope quotas (qs ++ [q]) = (run scope quotas qs).after q := by
  rw [run, run, List.foldl_append, List.foldl_cons, List.foldl_nil]

theorem run_induction {scope : Scope} {quotas : ResolverQuotas} {p : ResolverService → Prop}
    (start : p (empty scope quotas)) (step : ∀ s s', Change Set.univ s s' → p s → p s')
    (qs : List (Request × (Nat → NetworkView))) : p (run scope quotas qs) := by
  induction qs using List.reverseRecOn with
  | nil => exact start
  | append_singleton qs q ih =>
    rw [run_concat]
    exact step _ _ (change_after _ q) ih

/-- Every state that requests lead to is consistent with the quotas the service was made for,
whatever networks answer its questions. -/
theorem resolver_run_consistent (scope : Scope) (quotas : ResolverQuotas)
    (qs : List (Request × (Nat → NetworkView))) :
    (run scope quotas qs).quotas = quotas ∧ Consistent (run scope quotas qs) := by
  induction qs using List.reverseRecOn with
  | nil => exact ⟨rfl, consistent_empty scope quotas⟩
  | append_singleton qs q ih =>
    have change := change_after (run scope quotas qs) q
    rw [run_concat]
    exact ⟨change.quotas_eq.trans ih.1, change.consistent ih.2⟩

end ControlPlane.ResolverService
