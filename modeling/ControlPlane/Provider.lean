import ControlPlane.Configuration

/-!
All regions of all accounts. There is one region for each pair of an account and a region's name,
whatever is repeated in the configuration; none is ever added or taken away. Requests change the one
region they are addressed to, a reset changes that region in every account.
-/

namespace ControlPlane

structure UnknownRegion where
  account : String
  region : String
  deriving Repr, DecidableEq

def UnknownRegion.message (u : UnknownRegion) : String :=
  "No backends for account " ++ u.account ++ " in region " ++ u.region

structure Provider where
  defaultAccount : String
  regions : List Region

namespace Provider

def isAt (account region : String) (r : Region) : Bool :=
  r.scope.account == account && r.scope.region == region

def insert (regions : List Region) (r : Region) : List Region :=
  if regions.any (isAt r.scope.account r.scope.region) then
    regions.map fun r' => if isAt r.scope.account r.scope.region r' then r else r'
  else regions ++ [r]

def scopes (c : Configuration) : List Scope :=
  c.accounts.flatMap fun account =>
    c.partitions.flatMap fun partition =>
      ((Catalogue.regions? partition).getD []).map fun region => ⟨account, region, partition⟩

/-- A configuration that passes its check starts a region for each of its scopes. Only a capacity of
zero is refused. A capacity above `2 ^ 61 - 1` is more than a queue of requests can have, so that
nothing could be started with it; that is left out here. -/
def start (c : Configuration) : Except ConfigFault Provider :=
  c.check.map fun _ =>
    { defaultAccount := c.defaultAccount
      regions := ((scopes c).map fun scope => Region.new scope c.quotas).foldl insert [] }

def region (s : Provider) (account region : String) : Except UnknownRegion Region :=
  match s.regions.find? (isAt account region) with
  | some r => .ok r
  | none => .error ⟨account, region⟩

def put (s : Provider) (r : Region) : Provider :=
  { s with regions := insert s.regions r }

def serve (s : Provider) (account region : String) (at_ : Moment) (service : ServiceName)
    (action : String) (bag : Json) :
    Except UnknownRegion (Except ServiceError Json × Provider) :=
  (s.region account region).map fun r =>
    match r.serve at_ service action bag with
    | .ok (j, r') => (.ok j, s.put r')
    | .error e => (.error e, s)

/-- Resets a service in the region of that name in every account. -/
def reset (s : Provider) (region : String) (service : ServiceName) :
    Except UnknownRegion Provider :=
  if s.regions.any fun r => r.scope.region == region then
    .ok { s with
      regions := s.regions.map fun r =>
        if r.scope.region = region then r.reset service else r }
  else .error ⟨s.defaultAccount, region⟩

def restart (s : Provider) : Provider :=
  { s with regions := s.regions.map Region.restart }

/-- One request or reset of a provider's history. A reset is for the region of that name in every
account. -/
inductive Step where
  | request (account region : String) (at_ : Moment) (service : ServiceName) (action : String)
    (bag : Json)
  | reset (region : String) (service : ServiceName)
  | restart

/-- The provider after a step; a step that fails leaves it as it was. -/
def after (s : Provider) : Step → Provider
  | .request account region at_ service action bag =>
    match s.serve account region at_ service action bag with
    | .ok (_, s') => s'
    | .error _ => s
  | .reset region service =>
    match s.reset region service with
    | .ok s' => s'
    | .error _ => s
  | .restart => s.restart

end Provider

end ControlPlane
