/-!
The account, region and partition that a service belongs to, the names of its resources and the
zones of its region.
-/

namespace ControlPlane

structure Scope where
  account : String
  region : String
  partition : String
  deriving Repr, DecidableEq, Inhabited

namespace Scope

/-- The resource name `arn:partition:service:region:account:resource`. -/
def arn (s : Scope) (service resource : String) : String :=
  "arn:" ++ s.partition ++ ":" ++ service ++ ":" ++ s.region ++ ":" ++ s.account ++ ":" ++ resource

def zones (s : Scope) : List String :=
  [s.region ++ "a", s.region ++ "b", s.region ++ "c"]

def label (s : Scope) : String :=
  s.account ++ "/" ++ s.region

end Scope

end ControlPlane
