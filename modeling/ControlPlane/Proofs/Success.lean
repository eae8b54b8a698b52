import ControlPlane.Network.Lookup
import Mathlib.Data.List.Forall2
import Mathlib.Data.Set.Insert
import Mathlib.Tactic.Tauto

/-!
When a run succeeds, and with what. Each way of putting runs together has one equation for this: a
run of two parts succeeds if both do, a guard if its condition fails. For a computation that looks
things up, success is relative to a set of networks, any of which may answer any of the questions;
with all networks allowed nothing at all is known of the answers.
-/

namespace ControlPlane

section Except

variable {ε δ α β : Type}

theorem bind_eq_ok_iff {x : Except ε α} {f : α → Except ε β} {b : β} :
    x >>= f = .ok b ↔ ∃ a, x = .ok a ∧ f a = .ok b := by
  cases x with
  | error e => simp [bind, Except.bind]
  | ok a => simp [bind, Except.bind]

theorem pass_eq_ok_iff {x : Except ε Unit} {f : Unit → Except ε β} {b : β} :
    x >>= f = .ok b ↔ x = .ok () ∧ f () = .ok b :=
  bind_eq_ok_iff.trans ⟨fun ⟨_, hx, hf⟩ => ⟨hx, hf⟩, fun ⟨hx, hf⟩ => ⟨(), hx, hf⟩⟩

theorem pure_eq_ok_iff {a b : α} : (pure a : Except ε α) = .ok b ↔ a = b := by
  simp [pure, Except.pure]

theorem throw_eq_ok_iff {e : ε} {b : α} : (throw e : Except ε α) = .ok b ↔ False :=
  ⟨(fun h => nomatch h), False.elim⟩

theorem guard_eq_ok_iff {c : Prop} [Decidable c] {e : ε} {f : β → Except ε α} {y : Except ε α}
    {b : α} : (if c then throw e >>= f else y) = .ok b ↔ ¬c ∧ y = .ok b := by
  by_cases hc : c <;> simp [hc, bind_eq_ok_iff, throw_eq_ok_iff]

theorem refuse_eq_ok_iff {c : Prop} [Decidable c] {e : ε} {y : Except ε α} {b : α} :
    (if c then throw e else y) = .ok b ↔ ¬c ∧ y = .ok b := by
  by_cases hc : c <;> simp [hc, throw_eq_ok_iff]

theorem mapError_eq_ok_iff {f : ε → δ} {x : Except ε α} {b : α} :
    x.mapError f = .ok b ↔ x = .ok b := by
  cases x <;> simp [Except.mapError]

theorem map_eq_ok_iff {f : α → β} {x : Except ε α} {b : β} :
    x.map f = .ok b ↔ ∃ a, x = .ok a ∧ f a = b := by
  cases x <;> simp [Except.map]

end Except

theorem validate_eq_ok_iff {cs : List Check} {u : Unit} :
    validate cs = .ok u ↔ ∀ c ∈ cs, c.broken = none := by
  rw [validate_eq]
  split
  · rename_i h
    simp only [List.filterMap_eq_nil_iff, Check.violation?, Option.map_eq_none_iff] at h
    simpa using h
  · rename_i h
    simp only [List.filterMap_eq_nil_iff, Check.violation?, Option.map_eq_none_iff] at h
    simpa using h

namespace Lookup

variable {ε α β : Type}

/-- What a computation can end with when each question is answered by one of `views`. -/
def outcomes (views : Set NetworkView) : Lookup α → Set α
  | done a => {a}
  | vpc id next => {b | ∃ v ∈ views, b ∈ (next (v.vpc id)).outcomes views}
  | subnet id next => {b | ∃ v ∈ views, b ∈ (next (v.subnet id)).outcomes views}
  | securityGroup id next => {b | ∃ v ∈ views, b ∈ (next (v.securityGroup id)).outcomes views}

theorem mem_outcomes_pure_iff {views : Set NetworkView} {a b : α} :
    b ∈ (pure a : Lookup α).outcomes views ↔ b = a := Iff.rfl

theorem mem_outcomes_vpc_iff {views : Set NetworkView} {id : String}
    {next : Except NetworkFault Vpc → Lookup α} {b : α} :
    b ∈ (vpc id next).outcomes views ↔ ∃ v ∈ views, b ∈ (next (v.vpc id)).outcomes views := Iff.rfl

theorem mem_outcomes_subnet_iff {views : Set NetworkView} {id : String}
    {next : Except NetworkFault Subnet → Lookup α} {b : α} :
    b ∈ (subnet id next).outcomes views ↔ ∃ v ∈ views, b ∈ (next (v.subnet id)).outcomes views :=
  Iff.rfl

theorem mem_outcomes_securityGroup_iff {views : Set NetworkView} {id : String}
    {next : Except NetworkFault SecurityGroup → Lookup α} {b : α} :
    b ∈ (securityGroup id next).outcomes views ↔
      ∃ v ∈ views, b ∈ (next (v.securityGroup id)).outcomes views := Iff.rfl

theorem mem_outcomes_bind_iff {views : Set NetworkView} {q : Lookup α} {f : α → Lookup β} {b : β} :
    b ∈ (q >>= f).outcomes views ↔ ∃ a ∈ q.outcomes views, b ∈ (f a).outcomes views := by
  rw [bind_eq]
  induction q with
  | done a => simp [andThen, outcomes]
  | vpc id next ih =>
    simp only [andThen, mem_outcomes_vpc_iff, ih]
    tauto
  | subnet id next ih =>
    simp only [andThen, mem_outcomes_subnet_iff, ih]
    tauto
  | securityGroup id next ih =>
    simp only [andThen, mem_outcomes_securityGroup_iff, ih]
    tauto

theorem mem_outcomes_askVpc_iff {views : Set NetworkView} {id : String}
    {r : Except NetworkFault Vpc} :
    r ∈ (askVpc id).outcomes views ↔ ∃ v ∈ views, v.vpc id = r := by
  simp [askVpc, outcomes, eq_comm]

theorem mem_outcomes_askSubnet_iff {views : Set NetworkView} {id : String}
    {r : Except NetworkFault Subnet} :
    r ∈ (askSubnet id).outcomes views ↔ ∃ v ∈ views, v.subnet id = r := by
  simp [askSubnet, outcomes, eq_comm]

theorem mem_outcomes_askSubnets_iff {views : Set NetworkView} {ids : List String}
    {ns : List Subnet} :
    .ok ns ∈ (askSubnets ids).outcomes views ↔
      List.Forall₂ (fun id n => ∃ v ∈ views, v.subnet id = .ok n) ids ns := by
  induction ids generalizing ns with
  | nil =>
    rw [askSubnets, mem_outcomes_pure_iff, Except.ok.injEq, List.forall₂_nil_left_iff]
  | cons id rest ih =>
    simp only [askSubnets, mem_outcomes_bind_iff, mem_outcomes_askSubnet_iff,
      List.forall₂_cons_left_iff]
    refine ⟨?_, ?_⟩
    · intro ⟨r, told, h⟩
      cases r with
      | error e => cases h
      | ok n =>
        obtain ⟨r', others, h⟩ := mem_outcomes_bind_iff.mp h
        cases r' with
        | error e => cases h
        | ok rest' =>
          cases h
          exact ⟨n, rest', told, ih.mp others, rfl⟩
    · intro ⟨n, rest', told, others, h⟩
      refine ⟨.ok n, told, mem_outcomes_bind_iff.mpr ⟨.ok rest', ih.mpr others, ?_⟩⟩
      rw [h]
      rfl

theorem mem_outcomes_askZoneCount_iff {views : Set NetworkView} {ids : List String} {k : Nat} :
    .ok k ∈ (askZoneCount ids).outcomes views ↔
      ∃ ns, .ok ns ∈ (askSubnets ids).outcomes views ∧ zoneCount ns = k := by
  simp only [askZoneCount, mem_outcomes_bind_iff]
  refine ⟨?_, ?_⟩
  · intro ⟨r, told, h⟩
    cases r with
    | error e => cases h
    | ok ns =>
      cases h
      exact ⟨ns, told, rfl⟩
  · intro ⟨ns, told, h⟩
    exact ⟨.ok ns, told, h ▸ rfl⟩

theorem mem_outcomes_singleton_iff {view : NetworkView} {q : Lookup α} {a : α} :
    a ∈ q.outcomes {view} ↔ a = q.answer view := by
  induction q with
  | done b => exact Iff.rfl
  | vpc id next ih => simp [mem_outcomes_vpc_iff, answer, ih]
  | subnet id next ih => simp [mem_outcomes_subnet_iff, answer, ih]
  | securityGroup id next ih => simp [mem_outcomes_securityGroup_iff, answer, ih]

theorem answer_run_bind {view : NetworkView} (x : ExceptT ε Lookup α)
    (f : α → ExceptT ε Lookup β) :
    (x >>= f).run.answer view = x.run.answer view >>= fun a => (f a).run.answer view := by
  rw [ExceptT.run_bind, answer_bind]
  cases x.run.answer view with
  | ok a => rfl
  | error e => rfl

theorem answer_run_throw {view : NetworkView} (e : ε) :
    (throw e : ExceptT ε Lookup α).run.answer view = throw e := rfl

theorem answer_run_ite {view : NetworkView} {c : Prop} [Decidable c] (x y : ExceptT ε Lookup α) :
    (if c then x else y).run.answer view =
      if c then x.run.answer view else y.run.answer view := by
  split
  · rfl
  · rfl

/-- The outcome when the network may change between two questions: `views n` answers the one that
`n` others came before. -/
def answerAlong (views : Nat → NetworkView) : Lookup α → α
  | done a => a
  | vpc id next => (next ((views 0).vpc id)).answerAlong fun n => views (n + 1)
  | subnet id next => (next ((views 0).subnet id)).answerAlong fun n => views (n + 1)
  | securityGroup id next =>
    (next ((views 0).securityGroup id)).answerAlong fun n => views (n + 1)

theorem answerAlong_mem_outcomes {allowed : Set NetworkView} {views : Nat → NetworkView}
    (h : ∀ n, views n ∈ allowed) (q : Lookup α) : q.answerAlong views ∈ q.outcomes allowed := by
  induction q generalizing views with
  | done a => rfl
  | vpc id next ih => exact ⟨views 0, h 0, ih _ fun n => h (n + 1)⟩
  | subnet id next ih => exact ⟨views 0, h 0, ih _ fun n => h (n + 1)⟩
  | securityGroup id next ih => exact ⟨views 0, h 0, ih _ fun n => h (n + 1)⟩

def Succeeds (views : Set NetworkView) (x : ExceptT ε Lookup α) (a : α) : Prop :=
  Except.ok a ∈ outcomes views x.run

section Succeeds

variable {views : Set NetworkView}

theorem succeeds_bind_iff {x : ExceptT ε Lookup α} {f : α → ExceptT ε Lookup β} {b : β} :
    Succeeds views (x >>= f) b ↔ ∃ a, Succeeds views x a ∧ Succeeds views (f a) b := by
  simp only [Succeeds, ExceptT.run_bind, mem_outcomes_bind_iff]
  refine ⟨?_, ?_⟩
  · intro ⟨r, hr, hb⟩
    cases r with
    | error e => cases hb
    | ok a => exact ⟨a, hr, hb⟩
  · intro ⟨a, ha, hb⟩
    exact ⟨.ok a, ha, hb⟩

theorem succeeds_mk_pure_iff {r : Except ε α} {b : α} :
    Succeeds views (ExceptT.mk (pure r)) b ↔ r = .ok b := eq_comm

theorem succeeds_pure_iff {a b : α} :
    Succeeds views (pure a : ExceptT ε Lookup α) b ↔ a = b := by
  rw [Succeeds, ExceptT.run_pure, mem_outcomes_pure_iff, Except.ok.injEq, eq_comm]

theorem succeeds_throw_iff {e : ε} {b : α} :
    Succeeds views (throw e : ExceptT ε Lookup α) b ↔ False := by
  rw [Succeeds, ExceptT.run_throw, mem_outcomes_pure_iff]
  simp

theorem succeeds_guard_iff {c : Prop} [Decidable c] {e : ε} {f : β → ExceptT ε Lookup α}
    {y : ExceptT ε Lookup α} {b : α} :
    Succeeds views (if c then throw e >>= f else y) b ↔ ¬c ∧ Succeeds views y b := by
  by_cases hc : c <;> simp [hc, succeeds_throw_iff]

theorem succeeds_orElseFail_iff {q : Lookup (Except NetworkFault α)} {e : ε} {a : α} :
    Succeeds views (q.orElseFail e) a ↔ .ok a ∈ q.outcomes views := by
  simp only [Succeeds, orElseFail, ExceptT.run_mk, mem_outcomes_bind_iff]
  refine ⟨?_, ?_⟩
  · intro ⟨r, hr, ha⟩
    cases r with
    | error e => cases ha
    | ok b =>
      rw [mem_outcomes_pure_iff, Except.ok.injEq] at ha
      exact ha ▸ hr
  · intro h
    exact ⟨.ok a, h, rfl⟩

end Succeeds

end Lookup

end ControlPlane
