import ControlPlane.Validation.Rule
import ControlPlane.Validation.Violation

/-!
Checks in batches. The findings of a batch are the violations of the checks that fail, in the order
of the checks, and no check is left out; concluding reports all that was found and empties it.
-/

namespace ControlPlane

def Check.violation? (c : Check) : Option Violation :=
  c.broken.map fun constraint => ⟨c.field, c.value, constraint⟩

structure Findings where
  violations : List Violation
  deriving Repr, DecidableEq

namespace Findings

def empty : Findings := ⟨[]⟩

def record (f : Findings) (violation : Violation) : Findings :=
  ⟨f.violations ++ [violation]⟩

def check (f : Findings) (c : Check) : Findings :=
  match c.violation? with
  | some violation => f.record violation
  | none => f

def checkAll (f : Findings) (cs : List Check) : Findings :=
  cs.foldl check f

def isEmpty (f : Findings) : Bool := f.violations.isEmpty

def conclude (f : Findings) : Except ValidationError Unit × Findings :=
  if f.violations = [] then (.ok (), f) else (.error ⟨f.violations⟩, empty)

theorem violations_check (f : Findings) (c : Check) :
    (f.check c).violations = f.violations ++ c.violation?.toList := by
  unfold check
  split <;> simp_all [record]

theorem violations_checkAll (f : Findings) (cs : List Check) :
    (f.checkAll cs).violations = f.violations ++ cs.filterMap Check.violation? := by
  induction cs generalizing f with
  | nil => simp [checkAll]
  | cons c rest ih =>
    have step : f.checkAll (c :: rest) = (f.check c).checkAll rest := rfl
    rw [step, ih, violations_check]
    cases h : c.violation? <;> simp [h]

end Findings

def validate (cs : List Check) : Except ValidationError Unit :=
  (Findings.empty.checkAll cs).conclude.1

theorem validate_eq (cs : List Check) :
    validate cs =
      if cs.filterMap Check.violation? = [] then .ok ()
      else .error ⟨cs.filterMap Check.violation?⟩ := by
  simp only [validate, Findings.conclude, Findings.violations_checkAll, Findings.empty,
    List.nil_append]
  split <;> rfl

end ControlPlane
