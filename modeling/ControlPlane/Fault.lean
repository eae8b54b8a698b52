import ControlPlane.Json.Record
import ControlPlane.Validation.Violation

/-!
Failures as a caller sees them: a code, a message and a status. Every service has failures of its
own kind; crossing the boundary changes neither their code nor their message.
-/

namespace ControlPlane

structure ServiceError where
  code : String
  message : String
  status : Nat
  deriving Repr, DecidableEq

/-- A kind of failure that can cross the boundary of its service. -/
class Fault (ε : Type) where
  code : ε → String
  message : ε → String
  status : ε → Nat

namespace ServiceError

def badRequest : Nat := 400

def ofFault {ε : Type} [Fault ε] (e : ε) : ServiceError :=
  ⟨Fault.code e, Fault.message e, Fault.status e⟩

/-- The bag of parameters is no input of the operation. A member that is missing is named; a bag of
any other wrong shape has one text for all, which does not say what the reader came upon. -/
def undecodable (e : DecodeError) : ServiceError :=
  { code := "SerializationException"
    message := match e with
      | .missingField name => "missing field `" ++ name ++ "`"
      | .malformed => "invalid parameters"
    status := badRequest }

def invalidAction (operation : String) : ServiceError :=
  ⟨"InvalidAction", "The action " ++ operation ++ " is not valid for this web service.",
    badRequest⟩

def internalFailure (message : String) : ServiceError :=
  ⟨"InternalFailure", message, 500⟩

def unavailable : ServiceError :=
  ⟨"ServiceUnavailable", "Actor closed", 503⟩

def display (e : ServiceError) : String := e.code ++ ": " ++ e.message

/-- Only code and message travel; an error that is read has the status of a bad request. -/
def record : Record ServiceError ServiceError :=
  (Record.start fun code message => ⟨code, message, badRequest⟩)
    |>.required "code" .text (·.code)
    |>.required "message" .text (·.message)

end ServiceError

instance : Fault ValidationError where
  code _ := "ValidationException"
  message := ValidationError.message
  status _ := ServiceError.badRequest

end ControlPlane
