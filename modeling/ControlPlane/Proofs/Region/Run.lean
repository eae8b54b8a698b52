import ControlPlane.Proofs.Delivery.Change
import ControlPlane.Proofs.Directory.Change
import ControlPlane.Proofs.Network.Graph
import ControlPlane.Proofs.Resolver.Change
import ControlPlane.Proofs.Signing.Change
import ControlPlane.Region

/-!
The history of a region. A step changes one service while the others stand still, and the network
that answers the questions of the other services is the one before the step. A reset empties one
service and leaves those that refer to it as they are.
-/

namespace ControlPlane.Region

variable {r r' : Region}

/-- What can become of a region in one step. -/
inductive Change (r : Region) : Region → Prop where
  | refused : Change r r
  | network (s : NetworkService) (change : NetworkService.Change r.network s) :
    Change r { r with network := s }
  | directory (s : DirectoryService)
    (change : DirectoryService.Change {r.network.view} r.directory s) :
    Change r { r with directory := s }
  | resolver (s : ResolverService)
    (change : ResolverService.Change {r.network.view} r.resolver s) :
    Change r { r with resolver := s }
  | delivery (s : DeliveryService) (change : DeliveryService.Change r.delivery s) :
    Change r { r with delivery := s }
  | signing (s : SigningService) (change : SigningService.Change r.signing s) :
    Change r { r with signing := s }
  | reset (service : ServiceName) : Change r (r.reset service)
  | restart : Change r r.restart

theorem change_of_serve {at_ : Moment} {service : ServiceName} {action : String} {bag j : Json}
    (h : r.serve at_ service action bag = .ok (j, r')) : Change r r' := by
  cases service with
  | network =>
    obtain ⟨⟨_, s⟩, served, same⟩ := map_eq_ok_iff.mp h
    cases same
    obtain ⟨op, input, output, hop, -, hr, -⟩ := Catalog.exists_of_serve served
    exact .network s (NetworkService.change_of_run hop hr)
  | directory =>
    obtain ⟨⟨_, s⟩, served, same⟩ := map_eq_ok_iff.mp h
    cases same
    exact .directory s
      (DirectoryService.change_of_serve (Lookup.mem_outcomes_singleton_iff.mpr served.symm))
  | resolver =>
    obtain ⟨⟨_, s⟩, served, same⟩ := map_eq_ok_iff.mp h
    cases same
    exact .resolver s
      (ResolverService.change_of_serve (Lookup.mem_outcomes_singleton_iff.mpr served.symm))
  | delivery =>
    obtain ⟨⟨_, s⟩, served, same⟩ := map_eq_ok_iff.mp h
    cases same
    obtain ⟨op, input, output, hop, -, hr, -⟩ := Catalog.exists_of_serve served
    exact .delivery s (DeliveryService.change_of_run hop hr)
  | signing =>
    obtain ⟨⟨_, s⟩, served, same⟩ := map_eq_ok_iff.mp h
    cases same
    obtain ⟨op, input, output, hop, -, hr, -⟩ := Catalog.exists_of_serve served
    exact .signing s (SigningService.change_of_run hop hr)

theorem change_after (r : Region) (step : Step) : Change r (r.after step) := by
  cases step with
  | request at_ service action bag =>
    rw [after]
    split
    · rename_i j r' served
      exact change_of_serve served
    · exact .refused
  | reset service => exact .reset service
  | restart => exact .restart

theorem Change.scope_eq (h : Change r r') : r'.scope = r.scope := by
  cases h with
  | reset service => cases service <;> rfl
  | _ => rfl

theorem Change.quotas_eq (h : Change r r') : r'.quotas = r.quotas := by
  cases h with
  | reset service => cases service <;> rfl
  | _ => rfl

def reply (r : Region) : Step → Option (Except ServiceError Json)
  | .request at_ service action bag => some ((r.serve at_ service action bag).map Prod.fst)
  | .reset _ => none
  | .restart => none

def replies (r : Region) : List Step → List (Option (Except ServiceError Json))
  | [] => []
  | step :: rest => r.reply step :: (r.after step).replies rest

def run (scope : Scope) (quotas : Quotas) (steps : List Step) : Region :=
  steps.foldl after (new scope quotas)

theorem run_concat (scope : Scope) (quotas : Quotas) (steps : List Step) (step : Step) :
    run scope quotas (steps ++ [step]) = (run scope quotas steps).after step := by
  rw [run, run, List.foldl_append, List.foldl_cons, List.foldl_nil]

theorem run_induction {scope : Scope} {quotas : Quotas} {p : Region → Prop}
    (start : p (new scope quotas)) (kept : ∀ r r', Change r r' → p r → p r') (steps : List Step) :
    p (run scope quotas steps) := by
  induction steps using List.reverseRecOn with
  | nil => exact start
  | append_singleton steps step ih =>
    rw [run_concat]
    exact kept _ _ (change_after _ step) ih

theorem run_scope (scope : Scope) (quotas : Quotas) (steps : List Step) :
    (run scope quotas steps).scope = scope := by
  have start : (new scope quotas).scope = scope := rfl
  exact run_induction start (fun _ _ change same => change.scope_eq.trans same) steps

theorem run_quotas (scope : Scope) (quotas : Quotas) (steps : List Step) :
    (run scope quotas steps).quotas = quotas := by
  have start : (new scope quotas).quotas = quotas := rfl
  exact run_induction start (fun _ _ change same => change.quotas_eq.trans same) steps

/-- What is true after some steps, and was not at the beginning, came about in one of them and has
been true ever since. -/
theorem exists_onset {scope : Scope} {quotas : Quotas} {steps : List Step} (p : Region → Prop)
    (start : ¬p (new scope quotas)) (now : p (run scope quotas steps)) :
    ∃ before step since, steps = before ++ step :: since ∧ ¬p (run scope quotas before) ∧
      ∀ part, part <+: since → p (run scope quotas (before ++ step :: part)) := by
  induction steps using List.reverseRecOn with
  | nil => exact absurd now start
  | append_singleton steps step ih =>
    -- Either it was true before this last step already, or it came about in the step.
    by_cases already : p (run scope quotas steps)
    · obtain ⟨before, first, since, rfl, new, held⟩ := ih already
      rw [List.append_assoc, List.cons_append] at now ⊢
      refine ⟨before, first, since ++ [step], rfl, new, ?_⟩
      intro part hp
      rcases List.prefix_concat_iff.mp hp with rfl | hp
      · exact now
      · exact held part hp
    · refine ⟨steps, step, [], rfl, already, ?_⟩
      intro part hp
      rw [List.prefix_nil.mp hp]
      exact now

theorem Change.network_change (h : Change r r') :
    NetworkService.Change r.network r'.network ∨ r'.network = .empty r.scope := by
  cases h with
  | network s change => exact Or.inl change
  | restart => exact Or.inr rfl
  | reset service =>
    cases service with
    | network => exact Or.inr rfl
    | _ => exact Or.inl .looked
  | _ => exact Or.inl .looked

theorem Change.directory_change (h : Change r r') :
    DirectoryService.Change {r.network.view} r.directory r'.directory ∨
      r'.directory = .empty r.scope r.quotas.directory := by
  cases h with
  | directory s change => exact Or.inl change
  | restart => exact Or.inr rfl
  | reset service =>
    cases service with
    | directory => exact Or.inr rfl
    | _ => exact Or.inl .looked
  | _ => exact Or.inl .looked

theorem Change.resolver_change (h : Change r r') :
    ResolverService.Change {r.network.view} r.resolver r'.resolver ∨
      r'.resolver = .empty r.scope r.quotas.resolver := by
  cases h with
  | resolver s change => exact Or.inl change
  | restart => exact Or.inr rfl
  | reset service =>
    cases service with
    | resolver => exact Or.inr rfl
    | _ => exact Or.inl .looked
  | _ => exact Or.inl .looked

theorem Change.delivery_change (h : Change r r') :
    DeliveryService.Change r.delivery r'.delivery ∨
      r'.delivery = .empty r.scope r.quotas.delivery := by
  cases h with
  | delivery s change => exact Or.inl change
  | restart => exact Or.inr rfl
  | reset service =>
    cases service with
    | delivery => exact Or.inr rfl
    | _ => exact Or.inl .looked
  | _ => exact Or.inl .looked

theorem Change.signing_change (h : Change r r') :
    SigningService.Change r.signing r'.signing ∨ r'.signing = .empty r.scope := by
  cases h with
  | signing s change => exact Or.inl change
  | restart => exact Or.inr rfl
  | reset service =>
    cases service with
    | signing => exact Or.inr rfl
    | _ => exact Or.inl .looked
  | _ => exact Or.inl .looked

theorem Change.resolver_quotas (h : Change r r') (same : r.resolver.quotas = r.quotas.resolver) :
    r'.resolver.quotas = r'.quotas.resolver := by
  rw [h.quotas_eq]
  rcases h.resolver_change with change | empty
  · exact change.quotas_eq.trans same
  · rw [empty]
    rfl

theorem resolver_quotas_run (scope : Scope) (quotas : Quotas) (steps : List Step) :
    (run scope quotas steps).resolver.quotas = quotas.resolver := by
  have start : (new scope quotas).resolver.quotas = (new scope quotas).quotas.resolver := rfl
  have same : (run scope quotas steps).resolver.quotas = (run scope quotas steps).quotas.resolver :=
    run_induction start (fun _ _ change held => change.resolver_quotas held) steps
  rw [same, run_quotas]

theorem Change.delivery_quotas (h : Change r r') (same : r.delivery.quotas = r.quotas.delivery) :
    r'.delivery.quotas = r'.quotas.delivery := by
  rw [h.quotas_eq]
  rcases h.delivery_change with change | empty
  · exact change.quotas_eq.trans same
  · rw [empty]
    rfl

theorem delivery_quotas_run (scope : Scope) (quotas : Quotas) (steps : List Step) :
    (run scope quotas steps).delivery.quotas = quotas.delivery := by
  have start : (new scope quotas).delivery.quotas = (new scope quotas).quotas.delivery := rfl
  have same : (run scope quotas steps).delivery.quotas = (run scope quotas steps).quotas.delivery :=
    run_induction start (fun _ _ change held => change.delivery_quotas held) steps
  rw [same, run_quotas]

theorem Change.network_consistent (h : Change r r') (hc : r.network.Consistent) :
    r'.network.Consistent := by
  rcases h.network_change with change | empty
  · exact change.consistent hc
  · rw [empty]
    exact NetworkService.consistent_empty r.scope

theorem Change.network_scope (h : Change r r') (same : r.network.scope = r.scope) :
    r'.network.scope = r'.scope := by
  rw [h.scope_eq]
  rcases h.network_change with change | empty
  · exact change.scope_eq.trans same
  · rw [empty]
    rfl

theorem network_scope (scope : Scope) (quotas : Quotas) (steps : List Step) :
    (run scope quotas steps).network.scope = scope := by
  have start : (new scope quotas).network.scope = (new scope quotas).scope := rfl
  have same : (run scope quotas steps).network.scope = (run scope quotas steps).scope :=
    run_induction start (fun _ _ change held => change.network_scope held) steps
  exact same.trans (run_scope scope quotas steps)

theorem network_consistent (scope : Scope) (quotas : Quotas) (steps : List Step) :
    (run scope quotas steps).network.Consistent :=
  run_induction (NetworkService.consistent_empty scope)
    (fun _ _ change held => change.network_consistent held) steps

end ControlPlane.Region
