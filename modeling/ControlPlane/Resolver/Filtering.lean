import ControlPlane.Resolver.Fault
import ControlPlane.Resolver.Input

/-!
Filters of listings. A filter names a member of a record's JSON form and holds if that member is
there and its text is one of the filter's values: a string as it is, a number in decimals, a list if
one of its strings is. Each kind of record says which names may be asked for.
-/

namespace ControlPlane.Filtering

def endpointNames : List String :=
  ["CreatorRequestId", "Direction", "HostVPCId", "IpAddressCount", "Name", "SecurityGroupIds",
    "Status"]

def ruleNames : List String :=
  ["CreatorRequestId", "DomainName", "Name", "ResolverEndpointId", "Status", "RuleType"]

def associationNames : List String := ["Name", "ResolverRuleId", "Status", "VPCId"]

def isOneOf (values : List String) : Json → Bool
  | .str s => values.contains s
  | _ => false

def valueHolds (values : List String) : Json → Bool
  | .str s => values.contains s
  | .int n => values.contains (toString n)
  | .arr items => items.any (isOneOf values)
  | _ => false

def holds (members : List (String × Json)) (f : Filter) : Bool :=
  (Json.member? f.name members).any (valueHolds f.values)

def select {α : Type} (r : Record α α) (allowed : List String) (filters : List Filter)
    (records : List α) : Except ResolverFault (List α) :=
  match filters.find? fun f => !allowed.contains f.name with
  | some bad => .error (.invalidFilter bad.name)
  | none => .ok (records.filter fun a => filters.all (holds (r.write a)))

end ControlPlane.Filtering
