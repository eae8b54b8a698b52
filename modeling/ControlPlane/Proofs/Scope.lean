import ControlPlane.Scope
import Mathlib.Logic.Function.Basic

/-!
Resource names tell the resource. Texts that start differently are different, however they go on.
-/

namespace ControlPlane

namespace Text

theorem append_right_injective (start : String) : Function.Injective fun s : String => start ++ s := by
  intro s t same
  have chars := congrArg String.toList same
  simp only [String.toList_append] at chars
  exact String.toList_inj.mp (List.append_cancel_left chars)

theorem append_ne_append {p q : String}
    (apart : ¬p.toList <+: q.toList ∧ ¬q.toList <+: p.toList) (s t : String) : p ++ s ≠ q ++ t := by
  intro same
  have first : p.toList <+: (p ++ s).toList := ⟨s.toList, String.toList_append.symm⟩
  have second : q.toList <+: (p ++ s).toList := ⟨t.toList, by rw [same, String.toList_append]⟩
  rcases List.prefix_or_prefix_of_prefix first second with h | h
  · exact apart.1 h
  · exact apart.2 h

end Text

theorem Scope.arn_injective (s : Scope) (service : String) : Function.Injective (s.arn service) :=
  Text.append_right_injective _

end ControlPlane
