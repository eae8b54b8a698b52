import ControlPlane.Proofs.Success

/-!
What a run can fail with. Each way of putting runs together has one rule for this: a run of two
parts fails with what either part can fail with, the second after a success of the first. For a
computation that looks things up, the networks may answer anything.
-/

namespace ControlPlane

variable {ε δ α β : Type} {P : ε → Prop}

theorem map_eq_error_iff {f : α → β} {x : Except ε α} {e : ε} :
    x.map f = .error e ↔ x = .error e := by
  cases x <;> simp [Except.map]

/-- Every failure of the run is one of these. -/
def FailsIn (P : ε → Prop) (x : Except ε α) : Prop := ∀ e, x = .error e → P e

namespace FailsIn

theorem ok {a : α} : FailsIn P (.ok a) := fun _ h => nomatch h

theorem error {e : ε} (h : P e) : FailsIn P (.error e : Except ε α) := fun _ he =>
  Except.error.inj he ▸ h

theorem mono {Q : ε → Prop} {x : Except ε α} (h : FailsIn P x) (imp : ∀ e, P e → Q e) :
    FailsIn Q x := fun e he => imp e (h e he)

theorem bind {x : Except ε α} {f : α → Except ε β} (first : FailsIn P x)
    (rest : ∀ a, x = .ok a → FailsIn P (f a)) : FailsIn P (x >>= f) := by
  cases x with
  | error e => exact fun e' h => first e' (Except.error.inj h ▸ rfl)
  | ok a => exact rest a rfl

theorem map {x : Except ε α} {f : α → β} (h : FailsIn P x) : FailsIn P (x.map f) := by
  cases x with
  | error e => exact fun e' he => h e' (Except.error.inj he ▸ rfl)
  | ok a => exact ok

theorem guard {c : Prop} [Decidable c] {e : ε} {f : β → Except ε α} {y : Except ε α} (refused : P e)
    (rest : ¬c → FailsIn P y) : FailsIn P (if c then throw e >>= f else y) := by
  by_cases hc : c
  · rw [if_pos hc]
    exact error refused
  · rw [if_neg hc]
    exact rest hc

theorem refuse {c : Prop} [Decidable c] {e : ε} {y : Except ε α} (refused : P e)
    (rest : ¬c → FailsIn P y) : FailsIn P (if c then throw e else y) := by
  by_cases hc : c
  · rw [if_pos hc]
    exact error refused
  · rw [if_neg hc]
    exact rest hc

end FailsIn

namespace Lookup

def FailsIn (P : ε → Prop) (x : ExceptT ε Lookup α) : Prop :=
  ∀ r ∈ x.run.outcomes Set.univ, ControlPlane.FailsIn P r

namespace FailsIn

theorem lift {r : Except ε α} (h : ControlPlane.FailsIn P r) : FailsIn P (ExceptT.mk (pure r)) :=
  fun _ hr => (mem_outcomes_pure_iff.mp hr) ▸ h

theorem pure {a : α} : FailsIn P (pure a : ExceptT ε Lookup α) := lift .ok

theorem throw {e : ε} (h : P e) : FailsIn P (throw e : ExceptT ε Lookup α) := lift (.error h)

theorem bind {x : ExceptT ε Lookup α} {f : α → ExceptT ε Lookup β} (first : FailsIn P x)
    (rest : ∀ a, Succeeds Set.univ x a → FailsIn P (f a)) : FailsIn P (x >>= f) := by
  intro r hr
  rw [ExceptT.run_bind, mem_outcomes_bind_iff] at hr
  obtain ⟨known, told, hr⟩ := hr
  cases known with
  | error e =>
    cases hr
    exact .error (first _ told e rfl)
  | ok a => exact rest a told r hr

theorem guard {c : Prop} [Decidable c] {e : ε} {f : β → ExceptT ε Lookup α}
    {y : ExceptT ε Lookup α} (refused : P e) (rest : ¬c → FailsIn P y) :
    FailsIn P (if c then MonadExcept.throw e >>= f else y) := by
  by_cases hc : c
  · rw [if_pos hc]
    exact bind (throw refused) fun a h => (succeeds_throw_iff.mp h).elim
  · rw [if_neg hc]
    exact rest hc

theorem orElseFail {q : Lookup (Except NetworkFault α)} {e : ε} (h : P e) :
    FailsIn P (q.orElseFail e) := by
  intro r hr
  simp only [Lookup.orElseFail, ExceptT.run_mk, mem_outcomes_bind_iff] at hr
  obtain ⟨known, -, hr⟩ := hr
  cases known with
  | error e' =>
    cases hr
    exact .error h
  | ok a =>
    cases hr
    exact .ok

end FailsIn

end Lookup

end ControlPlane
