/-!
What a request did wrong. A violation names a field, the text of its value and the constraint that
the value broke; an error lists all of them in one message. The field called `password` never shows
its value.
-/

namespace ControlPlane

structure Violation where
  field : String
  value : String
  constraint : String
  deriving Repr, DecidableEq

namespace Violation

def hidesValue (v : Violation) : Bool := v.field == "password"

def message (v : Violation) : String :=
  (if v.hidesValue then "Value at '" ++ v.field ++ "'"
    else "Value '" ++ v.value ++ "' at '" ++ v.field ++ "'")
    ++ " failed to satisfy constraint: Member must " ++ v.constraint

/-- The message about a secret field does not depend on its value. -/
theorem message_of_hidesValue {v : Violation} (h : v.hidesValue = true) (value : String) :
    message { v with value := value } = message v := by
  have h' : hidesValue { v with value := value } = true := h
  simp [message, h, h']

end Violation

structure ValidationError where
  violations : List Violation
  deriving Repr, DecidableEq

namespace ValidationError

def single (field value constraint : String) : ValidationError :=
  ⟨[⟨field, value, constraint⟩]⟩

def message (e : ValidationError) : String :=
  let n := e.violations.length
  toString n ++ " validation error" ++ (if n > 1 then "s" else "") ++ " detected: "
    ++ String.intercalate "; " (e.violations.map Violation.message)

end ValidationError

end ControlPlane
