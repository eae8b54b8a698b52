import ControlPlane.Operation
import ControlPlane.Proofs.Success

/-!
Computations that are indifferent to why a question failed: after a failure they go on in one way,
whatever the failure was. Two networks, each of which may change between two questions, lead such a
computation to the same end if they fail on the same questions and agree on all others.
-/

namespace ControlPlane

def NetworkFault.codes : List String :=
  ["InvalidVpcID.NotFound", "InvalidSubnetID.NotFound", "InvalidGroup.NotFound",
    "InvalidGroup.Duplicate", "InvalidParameterValue", "InvalidVpc.Range", "InvalidSubnet.Range",
    "InvalidSubnet.Conflict", "DependencyViolation", "InvalidID"]

theorem NetworkFault.code_mem (f : NetworkFault) : Fault.code f ∈ codes := by
  cases f <;> simp [Fault.code, code, codes]

/-- The networks answer the same things and fail on the same questions. -/
structure NetworkView.Alike (v w : NetworkView) : Prop where
  vpc : ∀ id, (v.vpc id).toOption = (w.vpc id).toOption
  subnet : ∀ id, (v.subnet id).toOption = (w.subnet id).toOption
  securityGroup : ∀ id, (v.securityGroup id).toOption = (w.securityGroup id).toOption

namespace Lookup

variable {ε α β : Type}

inductive Indifferent : Lookup α → Prop where
  | done (a : α) : Indifferent (done a)
  | vpc {id : String} {next : Except NetworkFault Vpc → Lookup α}
      (failed : ∀ e e', next (.error e) = next (.error e')) (rest : ∀ r, Indifferent (next r)) :
      Indifferent (vpc id next)
  | subnet {id : String} {next : Except NetworkFault Subnet → Lookup α}
      (failed : ∀ e e', next (.error e) = next (.error e')) (rest : ∀ r, Indifferent (next r)) :
      Indifferent (subnet id next)
  | securityGroup {id : String} {next : Except NetworkFault SecurityGroup → Lookup α}
      (failed : ∀ e e', next (.error e) = next (.error e')) (rest : ∀ r, Indifferent (next r)) :
      Indifferent (securityGroup id next)

theorem eq_of_toOption_eq {δ : Type} {f : Except NetworkFault δ → β}
    (failed : ∀ e e', f (.error e) = f (.error e')) {r r' : Except NetworkFault δ}
    (same : r.toOption = r'.toOption) : f r = f r' := by
  cases r with
  | error e =>
    cases r' with
    | error e' => exact failed e e'
    | ok a => cases same
  | ok a =>
    cases r' with
    | error e' => cases same
    | ok b => exact congrArg (fun a => f (.ok a)) (Option.some.inj same)

theorem Indifferent.answerAlong_eq {q : Lookup α} (h : Indifferent q)
    {views views' : Nat → NetworkView}
    (alike : ∀ n, (views n).Alike (views' n)) : q.answerAlong views = q.answerAlong views' := by
  induction h generalizing views views' with
  | done a => rfl
  | @vpc id next failed _ ih =>
    rw [answerAlong, answerAlong, eq_of_toOption_eq failed ((alike 0).vpc id)]
    exact ih _ fun n => alike (n + 1)
  | @subnet id next failed _ ih =>
    rw [answerAlong, answerAlong, eq_of_toOption_eq failed ((alike 0).subnet id)]
    exact ih _ fun n => alike (n + 1)
  | @securityGroup id next failed _ ih =>
    rw [answerAlong, answerAlong, eq_of_toOption_eq failed ((alike 0).securityGroup id)]
    exact ih _ fun n => alike (n + 1)

namespace Indifferent

theorem bind {q : Lookup α} {f : α → Lookup β} (first : Indifferent q)
    (rest : ∀ a, Indifferent (f a)) : Indifferent (q >>= f) := by
  rw [bind_eq]
  induction first with
  | done a => exact rest a
  | vpc failed _ ih => exact .vpc (fun e e' => congrArg (·.andThen f) (failed e e')) ih
  | subnet failed _ ih => exact .subnet (fun e e' => congrArg (·.andThen f) (failed e e')) ih
  | securityGroup failed _ ih =>
    exact .securityGroup (fun e e' => congrArg (·.andThen f) (failed e e')) ih

end Indifferent

def answered (q : Lookup (Except NetworkFault α)) : Lookup (Option α) :=
  q >>= fun r => pure r.toOption

theorem indifferent_askVpc (id : String) : Indifferent (answered (askVpc id)) :=
  .vpc (fun _ _ => rfl) fun _ => .done _

theorem indifferent_askSubnet (id : String) : Indifferent (answered (askSubnet id)) :=
  .subnet (fun _ _ => rfl) fun _ => .done _

theorem indifferent_askSecurityGroup (id : String) :
    Indifferent (answered (askSecurityGroup id)) :=
  .securityGroup (fun _ _ => rfl) fun _ => .done _

theorem Indifferent.answered_bind {q : Lookup (Except NetworkFault α)}
    {g : Except NetworkFault α → Lookup β} (asked : Indifferent (answered q))
    (f : Option α → Lookup β) (same : ∀ r, g r = f r.toOption) (rest : ∀ o, Indifferent (f o)) :
    Indifferent (q >>= g) := by
  have through : q >>= g = answered q >>= f := by
    rw [answered, bind_assoc, funext same]
    simp only [pure_bind]
  rw [through]
  exact bind asked rest

theorem indifferent_askSubnets (ids : List String) : Indifferent (answered (askSubnets ids)) := by
  induction ids with
  | nil => exact .done _
  | cons id rest ih =>
    rw [answered, askSubnets, bind_assoc]
    refine .answered_bind (indifferent_askSubnet id)
      (fun o => o.elim (pure none) fun n =>
        answered (askSubnets rest) >>= fun ns => pure (ns.map (n :: ·))) ?_ ?_
    · intro r
      cases r with
      | error e => rfl
      | ok n =>
        simp only [answered, bind_assoc, Except.toOption, pure_bind]
        congr 1
        funext r
        cases r with
        | error e => rfl
        | ok ns => rfl
    · intro o
      cases o with
      | none => exact .done _
      | some n => exact .bind ih fun _ => .done _

theorem indifferent_askZoneCount (ids : List String) :
    Indifferent (answered (askZoneCount ids)) := by
  rw [answered, askZoneCount, bind_assoc]
  refine .answered_bind (indifferent_askSubnets ids) (fun ns => pure (ns.map zoneCount)) ?_ ?_
  · intro r
    cases r with
    | error e => rfl
    | ok ns => rfl
  · exact fun _ => .done _

namespace Indifferent

theorem orElseFail {q : Lookup (Except NetworkFault α)} (asked : Indifferent (answered q))
    (fault : ε) : Indifferent (q.orElseFail fault).run := by
  refine answered_bind asked
    (fun o => o.elim (Pure.pure (.error fault)) fun a => Pure.pure (.ok a)) ?_ ?_
  · intro r
    cases r with
    | error e => rfl
    | ok a => rfl
  · intro o
    cases o with
    | none => exact .done _
    | some a => exact .done _

theorem lift (r : Except ε α) : Indifferent (ExceptT.mk (Pure.pure r)).run := .done r

theorem pure (a : α) : Indifferent (Pure.pure a : ExceptT ε Lookup α).run := .done _

theorem throw (e : ε) : Indifferent (MonadExcept.throw e : ExceptT ε Lookup α).run := .done _

theorem run_bind {x : ExceptT ε Lookup α} {f : α → ExceptT ε Lookup β} (first : Indifferent x.run)
    (rest : ∀ a, Indifferent (f a).run) : Indifferent (x >>= f).run := by
  rw [ExceptT.run_bind]
  refine bind first fun r => ?_
  cases r with
  | error e => exact .done _
  | ok a => exact rest a

theorem guard {c : Prop} [Decidable c] {e : ε} {f : β → ExceptT ε Lookup α}
    {y : ExceptT ε Lookup α} (rest : Indifferent y.run) :
    Indifferent (if c then MonadExcept.throw e >>= f else y).run := by
  by_cases hc : c
  · rw [if_pos hc]
    exact .done _
  · rw [if_neg hc]
    exact rest

end Indifferent

end Lookup

section Sealed

variable {σ ε : Type} [Fault ε] {c : Catalog Lookup σ ε} {codes : List String}

/-- Failures of the network stay behind the boundary of the service. What an operation fails with is
named by one of the codes, no failure of the network is; and what becomes of a request, with the
state after it, is the same for all networks that are alike. -/
structure Catalog.Sealed (c : Catalog Lookup σ ε) (codes : List String) : Prop where
  foreign : ∀ f : NetworkFault, Fault.code f ∉ codes
  own : ∀ name op, c name = some op → ∀ s at_ input (views : Nat → NetworkView) e,
    (op.run s at_ input).answerAlong views = .error e → Fault.code e ∈ codes
  unmoved : ∀ name op, c name = some op → ∀ s at_ input (views views' : Nat → NetworkView),
    (∀ n, (views n).Alike (views' n)) →
      (op.run s at_ input).answerAlong views = (op.run s at_ input).answerAlong views'
  -- the same of a request by name with its bag, and of the error that the caller sees
  served : ∀ s at_ name bag (views : Nat → NetworkView) e,
    (c.serve s at_ name bag).answerAlong views = .error e →
      ∀ f : NetworkFault, e.code ≠ Fault.code f
  servedUnmoved : ∀ s at_ name bag (views views' : Nat → NetworkView),
    (∀ n, (views n).Alike (views' n)) →
      (c.serve s at_ name bag).answerAlong views = (c.serve s at_ name bag).answerAlong views'

theorem Catalog.error_of_mem_outcomes_serve {s : σ} {at_ : Moment} {name : String} {bag : Json}
    {views : Set NetworkView} {e : ServiceError}
    (h : .error e ∈ (c.serve s at_ name bag).outcomes views) :
    (∃ fault : ε, e = .ofFault fault) ∨ (∃ d, e = .undecodable d) ∨ e = .invalidAction name := by
  unfold Catalog.serve at h
  split at h
  · cases h
    exact .inr (.inr rfl)
  · rename_i op _
    unfold Operation.serve at h
    split at h
    · rename_i d _
      cases h
      exact .inr (.inl ⟨d, rfl⟩)
    · obtain ⟨r, -, h⟩ := Lookup.mem_outcomes_bind_iff.mp h
      cases r with
      | error fault =>
        cases h
        exact .inl ⟨fault, rfl⟩
      | ok r => cases h

theorem Catalog.indifferent_serve
    (indifferent : ∀ name op, c name = some op → ∀ s at_ input,
      Lookup.Indifferent (op.run s at_ input))
    (s : σ) (at_ : Moment) (name : String) (bag : Json) :
    Lookup.Indifferent (c.serve s at_ name bag) := by
  unfold Catalog.serve
  split
  · exact .done _
  · rename_i op known
    unfold Operation.serve
    split
    · exact .done _
    · refine .bind (indifferent name op known s at_ _) fun r => ?_
      cases r with
      | error e => exact .done _
      | ok r => exact .done _

theorem Catalog.sealed_of_indifferent (all : ∀ e : ε, Fault.code e ∈ codes)
    (apart : ∀ code ∈ codes, code ∉ NetworkFault.codes)
    (indifferent : ∀ name op, c name = some op → ∀ s at_ input,
      Lookup.Indifferent (op.run s at_ input)) : c.Sealed codes where
  foreign := fun f own => apart _ own f.code_mem
  own := fun _ _ _ _ _ _ _ e _ => all e
  unmoved := fun name op known s at_ input _ _ alike =>
    (indifferent name op known s at_ input).answerAlong_eq alike
  served := by
    intro s at_ name bag views e failed f same
    have told := Lookup.answerAlong_mem_outcomes (fun n => Set.mem_univ (views n))
      (c.serve s at_ name bag)
    have foreign : e.code ∈ NetworkFault.codes := same ▸ f.code_mem
    rw [failed] at told
    obtain ⟨fault, rfl⟩ | ⟨d, rfl⟩ | rfl := Catalog.error_of_mem_outcomes_serve told
    · exact apart _ (all fault) foreign
    · exact absurd foreign (by decide : "SerializationException" ∉ NetworkFault.codes)
    · exact absurd foreign (by decide : "InvalidAction" ∉ NetworkFault.codes)
  servedUnmoved := fun s at_ name bag _ _ alike =>
    (Catalog.indifferent_serve indifferent s at_ name bag).answerAlong_eq alike

end Sealed

end ControlPlane
