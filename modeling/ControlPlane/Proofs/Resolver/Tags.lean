import ControlPlane.Proofs.Resolver.Graph
import ControlPlane.Proofs.Scope
import ControlPlane.Proofs.Tag.Store

/-!
The tags of endpoints and rules, which are kept by resource name. A resource name tells the id and
the kind of what it names, so that what is new has a new resource name.
-/

namespace ControlPlane.ResolverService

open Lookup hiding vpc subnet securityGroup

variable {views : Set NetworkView} {s s' : ResolverService} {arn : String}

def Owns (s : ResolverService) (arn : String) : Prop :=
  (∃ e ∈ s.endpoints.records, e.arn = arn) ∨ ∃ r ∈ s.rules.records, r.arn = arn

theorem requireResource_eq_ok_iff {u : Unit} : s.requireResource arn = .ok u ↔ s.Owns arn := by
  have known : ((s.endpoints.find? fun e => e.arn == arn).isSome ||
      (s.rules.find? fun r => r.arn == arn).isSome) = true ↔ s.Owns arn := by
    simp only [Owns, Registry.find?, Bool.or_eq_true, List.find?_isSome, beq_iff_eq]
  rw [requireResource, ← known]
  split
  · rename_i live
    exact iff_of_true rfl live
  · rename_i absent
    refine iff_of_false ?_ absent
    intro found
    cases found

/-- Resource names tell kinds and ids, and every entry of the tag store is the resource name of
something that is there. -/
structure Labelled (s : ResolverService) : Prop where
  endpoints : ∀ e ∈ s.endpoints.records, e.arn = s.arn ("resolver-endpoint/" ++ e.id)
  rules : ∀ r ∈ s.rules.records, r.arn = s.arn ("resolver-rule/" ++ r.id)
  owned : s.tags.OwnedBy s.Owns

theorem labelled_empty (scope : Scope) (quotas : ResolverQuotas) : Labelled (empty scope quotas) where
  endpoints := fun _ he => nomatch he
  rules := fun _ hr => nomatch hr
  owned := TagStore.ownedBy_empty _

theorem Labelled.insertEndpoint (hl : Labelled s) {e : Endpoint}
    (free : s.endpoints.contains e.id = false) (arn : e.arn = s.arn ("resolver-endpoint/" ++ e.id))
    (tags : List Tag) :
    Labelled { s with endpoints := s.endpoints.insert e, tags := s.tags.tag e.arn tags } := by
  have mem : ∀ d, d ∈ (s.endpoints.insert e).records ↔ d ∈ s.endpoints.records ∨ d = e := fun d =>
    Registry.mem_insert_iff free
  refine { hl with endpoints := ?_, owned := ?_ }
  · intro d hd
    rcases (mem d).mp hd with hd | rfl
    · exact hl.endpoints d hd
    · exact arn
  · refine TagStore.OwnedBy.tag (hl.owned.mono ?_) ?_ tags
    · exact fun _ => Or.imp_left fun ⟨d, hd, same⟩ => ⟨d, (mem d).mpr (Or.inl hd), same⟩
    · exact Or.inl ⟨e, (mem e).mpr (Or.inr rfl), rfl⟩

theorem Labelled.replaceEndpoint (hl : Labelled s) {old new : Endpoint}
    (live : s.endpoints.get? new.id = some old) (arn : new.arn = old.arn) :
    Labelled { s with endpoints := s.endpoints.insert new } := by
  have key : old.id = new.id := Registry.key_of_get? live
  refine { hl with endpoints := ?_, owned := hl.owned.mono ?_ }
  · intro d hd
    rcases Registry.eq_or_mem_of_mem_insert hd with rfl | hd
    · exact arn.trans (key ▸ hl.endpoints old (Registry.mem_of_get? live))
    · exact hl.endpoints d hd
  · exact fun _ => Or.imp_left (Registry.exists_mem_insert_of_get? live arn.trans)

theorem Labelled.removeEndpoint (hl : Labelled s) {old : Endpoint}
    (live : s.endpoints.get? old.id = some old) :
    Labelled
      { s with endpoints := s.endpoints.remove old.id, tags := s.tags.clear old.arn } := by
  refine { hl with endpoints := ?_, owned := hl.owned.clear old.arn ?_ }
  · exact fun d hd => hl.endpoints d (Registry.mem_remove_iff.mp hd).1
  · intro arn owns other
    refine owns.imp_left ?_
    rintro ⟨d, hd, rfl⟩
    have apart : d.id ≠ old.id := fun same =>
      other (congrArg Endpoint.arn (Registry.eq_of_key_eq hd (Registry.mem_of_get? live) same))
    exact ⟨d, Registry.mem_remove_iff.mpr ⟨hd, apart⟩, rfl⟩

theorem Labelled.insertRule (hl : Labelled s) {r : ForwardingRule}
    (free : s.rules.contains r.id = false) (arn : r.arn = s.arn ("resolver-rule/" ++ r.id))
    (tags : List Tag) :
    Labelled { s with rules := s.rules.insert r, tags := s.tags.tag r.arn tags } := by
  have mem : ∀ q, q ∈ (s.rules.insert r).records ↔ q ∈ s.rules.records ∨ q = r := fun q =>
    Registry.mem_insert_iff free
  refine { hl with rules := ?_, owned := ?_ }
  · intro q hq
    rcases (mem q).mp hq with hq | rfl
    · exact hl.rules q hq
    · exact arn
  · refine TagStore.OwnedBy.tag (hl.owned.mono ?_) ?_ tags
    · exact fun _ => Or.imp_right fun ⟨q, hq, same⟩ => ⟨q, (mem q).mpr (Or.inl hq), same⟩
    · exact Or.inr ⟨r, (mem r).mpr (Or.inr rfl), rfl⟩

theorem Labelled.removeRule (hl : Labelled s) {old : ForwardingRule}
    (live : s.rules.get? old.id = some old) :
    Labelled { s with rules := s.rules.remove old.id, tags := s.tags.clear old.arn } := by
  refine { hl with rules := ?_, owned := hl.owned.clear old.arn ?_ }
  · exact fun q hq => hl.rules q (Registry.mem_remove_iff.mp hq).1
  · intro arn owns other
    refine owns.imp_right ?_
    rintro ⟨q, hq, rfl⟩
    have apart : q.id ≠ old.id := fun same =>
      other (congrArg ForwardingRule.arn (Registry.eq_of_key_eq hq (Registry.mem_of_get? live) same))
    exact ⟨q, Registry.mem_remove_iff.mpr ⟨hq, apart⟩, rfl⟩

theorem Change.labelled (h : Change views s s') (hl : Labelled s) : Labelled s' := by
  cases h with
  | looked => exact hl
  | endpointCreated e tags accepted room free numbered arn new granted count least greatest =>
    exact hl.insertEndpoint free arn tags
  | endpointReplaced old new live arn requestId direction addresses =>
    exact hl.replaceEndpoint live arn
  | endpointDeleted old live unused => exact hl.removeEndpoint live
  | ruleCreated r tags accepted room free numbered arn new bare targets out =>
    exact hl.insertRule free arn tags
  | ruleDeleted old live unused => exact hl.removeRule live
  | associated a r live new room free numbered => exact { hl with }
  | disassociated a live => exact { hl with }
  | tagged arn tags live accepted room =>
    exact { hl with owned := hl.owned.tag (requireResource_eq_ok_iff.mp live) tags }
  | untagged arn keys live => exact { hl with owned := hl.owned.untag arn keys }

theorem labelled_run (scope : Scope) (quotas : ResolverQuotas)
    (qs : List (Request × (Nat → NetworkView))) : Labelled (run scope quotas qs) := by
  induction qs using List.reverseRecOn with
  | nil => exact labelled_empty scope quotas
  | append_singleton qs q ih =>
    rw [run_concat]
    exact (change_after _ q).labelled ih

theorem Labelled.not_owns_endpoint (hl : Labelled s) {id : String}
    (free : s.endpoints.contains id = false) : ¬s.Owns (s.arn ("resolver-endpoint/" ++ id)) := by
  rintro (⟨e, he, same⟩ | ⟨r, hr, same⟩)
  · rw [hl.endpoints e he] at same
    have known : e.id = id := Text.append_right_injective _ (s.scope.arn_injective _ same)
    exact Registry.contains_eq_false_iff.mp free e he known
  · rw [hl.rules r hr] at same
    exact Text.append_ne_append (by decide) _ _ (s.scope.arn_injective _ same)

theorem Labelled.not_owns_rule (hl : Labelled s) {id : String}
    (free : s.rules.contains id = false) : ¬s.Owns (s.arn ("resolver-rule/" ++ id)) := by
  rintro (⟨e, he, same⟩ | ⟨r, hr, same⟩)
  · rw [hl.endpoints e he] at same
    exact Text.append_ne_append (by decide) _ _ (s.scope.arn_injective _ same)
  · rw [hl.rules r hr] at same
    have known : r.id = id := Text.append_right_injective _ (s.scope.arn_injective _ same)
    exact Registry.contains_eq_false_iff.mp free r hr known

/-- What holds of the tags of a resolver service: each entry belongs to a live endpoint or rule, and
a new one has the tags that its request brings, whatever network answers. -/
structure TagsSound (s : ResolverService) : Prop where
  owned : ∀ arn, s.tags.has arn = true → s.Owns arn
  endpoint : ∀ at_ input e s', Succeeds Set.univ (s.createEndpoint at_ input) (e, s') →
    e ∈ s'.endpoints.records ∧ s'.tags.tags e.arn = Tag.settled input.tags
  rule : ∀ at_ input r s', s.createRule at_ input = .ok (r, s') →
    r ∈ s'.rules.records ∧ s'.tags.tags r.arn = Tag.settled input.tags

theorem Labelled.tagsSound (hl : Labelled s) : TagsSound s where
  owned := hl.owned
  endpoint := by
    intro at_ input e s' h
    obtain ⟨-, -, -, ⟨assigned, -, registered⟩, -, -⟩ := succeeds_createEndpoint_iff.mp h
    cases registered
    have free := Identifier.contains_fresh s.endpoints (endpointKind input.direction) idDigits
      (attachAll at_.now assigned at_.draws).2
    exact ⟨(Registry.mem_insert_iff free).mpr (Or.inr rfl),
      hl.owned.tags_tag (hl.not_owns_endpoint free) input.tags⟩
  rule := by
    intro at_ input r s' h
    obtain ⟨-, -, -, -, -, -, rfl, rfl⟩ := createRule_eq_ok_iff.mp h
    have free := Identifier.contains_fresh s.rules "rslvr-rr" idDigits at_.draws
    exact ⟨(Registry.mem_insert_iff free).mpr (Or.inr rfl),
      hl.owned.tags_tag (hl.not_owns_rule free) input.tags⟩

end ControlPlane.ResolverService
