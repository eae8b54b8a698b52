import ControlPlane.Delivery.Operations
import ControlPlane.Directory.Operations
import ControlPlane.Network.Operations
import ControlPlane.Resolver.Operations
import ControlPlane.Signing.Operations

/-!
One region of one account: five services side by side. Services that refer to the network ask the
network service of the same region, as it stands at that moment. A reset puts one service, or all of
them, back to the beginning.
-/

namespace ControlPlane

inductive ServiceName where
  | network
  | directory
  | resolver
  | delivery
  | signing
  deriving Repr, DecidableEq

namespace ServiceName

def text : ServiceName → String
  | network => "ec2"
  | directory => "ds"
  | resolver => "route53resolver"
  | delivery => "firehose"
  | signing => "signer"

def all : List ServiceName := [network, directory, resolver, delivery, signing]

def ofText? (s : String) : Option ServiceName := all.find? fun n => n.text == s

end ServiceName

def unknownService (name : String) : String := "Unknown service: " ++ name

structure Quotas where
  directory : DirectoryQuotas
  resolver : ResolverQuotas
  delivery : DeliveryQuotas
  deriving Repr, DecidableEq

namespace Quotas

def standard : Quotas := ⟨.standard, .standard, .standard⟩

def record : Record Quotas Quotas :=
  (Record.start Quotas.mk)
    |>.defaulted "directory" DirectoryQuotas.record.codec .standard (·.directory)
    |>.defaulted "resolver" ResolverQuotas.record.codec .standard (·.resolver)
    |>.defaulted "firehose" DeliveryQuotas.record.codec .standard (·.delivery)

end Quotas

structure Region where
  scope : Scope
  quotas : Quotas
  network : NetworkService
  directory : DirectoryService
  resolver : ResolverService
  delivery : DeliveryService
  signing : SigningService

namespace Region

def new (scope : Scope) (quotas : Quotas) : Region :=
  { scope := scope
    quotas := quotas
    network := .empty scope
    directory := .empty scope quotas.directory
    resolver := .empty scope quotas.resolver
    delivery := .empty scope quotas.delivery
    signing := .empty scope }

def label (r : Region) : String := r.scope.label

def serve (r : Region) (at_ : Moment) (service : ServiceName) (action : String) (bag : Json) :
    Except ServiceError (Json × Region) :=
  match service with
  | .network =>
    (NetworkService.operations.serve r.network at_ action bag).run.map fun (j, s) =>
      (j, { r with network := s })
  | .directory =>
    ((DirectoryService.operations.serve r.directory at_ action bag).answer r.network.view).map
      fun (j, s) => (j, { r with directory := s })
  | .resolver =>
    ((ResolverService.operations.serve r.resolver at_ action bag).answer r.network.view).map
      fun (j, s) => (j, { r with resolver := s })
  | .delivery =>
    (DeliveryService.operations.serve r.delivery at_ action bag).run.map fun (j, s) =>
      (j, { r with delivery := s })
  | .signing =>
    (SigningService.operations.serve r.signing at_ action bag).run.map fun (j, s) =>
      (j, { r with signing := s })

def reset (r : Region) : ServiceName → Region
  | .network => { r with network := .empty r.scope }
  | .directory => { r with directory := .empty r.scope r.quotas.directory }
  | .resolver => { r with resolver := .empty r.scope r.quotas.resolver }
  | .delivery => { r with delivery := .empty r.scope r.quotas.delivery }
  | .signing => { r with signing := .empty r.scope }

def restart (r : Region) : Region := new r.scope r.quotas

/-- One request or reset of a region's history. -/
inductive Step where
  | request (at_ : Moment) (service : ServiceName) (action : String) (bag : Json)
  | reset (service : ServiceName)
  | restart

/-- The region after a step; a request that fails leaves it as it was. -/
def after (r : Region) : Step → Region
  | .request at_ service action bag =>
    match r.serve at_ service action bag with
    | .ok (_, r') => r'
    | .error _ => r
  | .reset service => r.reset service
  | .restart => r.restart

end Region

end ControlPlane
