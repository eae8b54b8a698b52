import ControlPlane.Fault
import ControlPlane.Page

/-!
What can go wrong in the code signing service. Only a resource that is not there has a status of its
own, and a token that is no good counts as a validation failure.
-/

namespace ControlPlane

inductive SigningFault where
  | validation (e : ValidationError)
  | profileNotFound (name : String)
  | resourceNotFound (arn : String)
  | invalidNextToken
  deriving Repr, DecidableEq

namespace SigningFault

def message : SigningFault → String
  | validation e => e.message
  | profileNotFound name => "Signing profile " ++ name ++ " does not exist"
  | resourceNotFound arn => "Resource " ++ arn ++ " does not exist"
  | invalidNextToken => InvalidNextToken.message

def code : SigningFault → String
  | validation _ | invalidNextToken => "ValidationException"
  | profileNotFound _ | resourceNotFound _ => "ResourceNotFoundException"

def status : SigningFault → Nat
  | profileNotFound _ | resourceNotFound _ => 404
  | _ => ServiceError.badRequest

end SigningFault

instance : Fault SigningFault where
  code := SigningFault.code
  message := SigningFault.message
  status := SigningFault.status

end ControlPlane
