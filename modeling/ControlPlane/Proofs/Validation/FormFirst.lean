import ControlPlane.Operation
import ControlPlane.Proofs.Failure
import ControlPlane.Proofs.Validation.Requirement

/-!
Operations that put form before meaning: the request and the limit on its tags alone say whether it
is refused for its form, and how, before anything is looked up; a request in good form is never
refused for its form later.
-/

namespace ControlPlane

variable {σ ε : Type} [Fault ε]

/-- `rejection limit input` is what the form of a request is refused for, where `limit` is the most
tags that it may bring; `OfForm` are the failures for the sake of form. -/
structure FormFirst (op : Operation Lookup σ ε) (limit : σ → Nat)
    (rejection : Nat → op.Input → Option ε) (OfForm : ε → Prop) : Prop where
  -- nothing is asked of a network for a request in bad form
  rejected : ∀ s at_ input e, rejection (limit s) input = some e →
    OfForm e ∧ op.run s at_ input = .done (.error e)
  accepted : ∀ s at_ input, rejection (limit s) input = none → ∀ (views : Nat → NetworkView) e,
    (op.run s at_ input).answerAlong views = .error e →
      ¬OfForm e ∧ Fault.code e ≠ "ValidationException"
  -- two services and two networks, nothing of which needs to be the same but the limit
  alike : ∀ s s' at_ at' input (views views' : Nat → NetworkView) e, limit s = limit s' →
    OfForm e → ((op.run s at_ input).answerAlong views = .error e ↔
      (op.run s' at' input).answerAlong views' = .error e)

variable {op : Operation Lookup σ ε} {limit : σ → Nat} {rejection : Nat → op.Input → Option ε}
  {OfForm : ε → Prop}

theorem FormFirst.of_passes (named : ∀ e : ε, Fault.code e = "ValidationException" → OfForm e)
    (rejected : ∀ s at_ input e, rejection (limit s) input = some e →
      OfForm e ∧ op.run s at_ input = .done (.error e))
    (later : ∀ s at_ input, rejection (limit s) input = none →
      Lookup.FailsIn (fun e => ¬OfForm e) (ExceptT.mk (op.run s at_ input))) :
    FormFirst op limit rejection OfForm := by
  have accepted : ∀ s at_ input, rejection (limit s) input = none →
      ∀ (views : Nat → NetworkView) e, (op.run s at_ input).answerAlong views = .error e →
        ¬OfForm e := fun s at_ input passed views e failed =>
    later s at_ input passed _ (Lookup.answerAlong_mem_outcomes (fun _ => Set.mem_univ _) _)
      e failed
  -- a failure for the sake of form is the one that the request alone tells
  have told : ∀ s at_ input (views : Nat → NetworkView) e, OfForm e →
      ((op.run s at_ input).answerAlong views = .error e ↔ rejection (limit s) input = some e) := by
    intro s at_ input views e ofForm
    constructor
    · intro failed
      cases known : rejection (limit s) input with
      | none => exact absurd ofForm (accepted s at_ input known views e failed)
      | some e' =>
        rw [(rejected s at_ input e' known).2] at failed
        exact congrArg some (Except.error.inj failed)
    · intro known
      rw [(rejected s at_ input e known).2]
      rfl
  refine ⟨rejected, fun s at_ input passed views e failed => ?_, ?_⟩
  · have later := accepted s at_ input passed views e failed
    exact ⟨later, fun code => later (named e code)⟩
  · intro s s' at_ at' input views views' e same ofForm
    rw [told s at_ input views e ofForm, told s' at' input views' e ofForm, same]

end ControlPlane
