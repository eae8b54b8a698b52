import ControlPlane.Proofs.InPlace.Delivery
import ControlPlane.Proofs.InPlace.Directory
import ControlPlane.Proofs.InPlace.Network
import ControlPlane.Proofs.InPlace.Resolver
import ControlPlane.Proofs.InPlace.Signing
import ControlPlane.Region

/-!
A region in place. A request works on the state of one service while the network, as it stands,
answers the questions of the others. Main statement: whatever a request that fails has gone through,
it leaves all five services as they were, and so does every request that only reads.
-/

namespace ControlPlane.Region

open Program

variable {action : String}

abbrev Task (α : Type) := Program Region ServiceError α

def dispatch (at_ : Moment) (service : ServiceName) (action : String) (bag : Json) : Task Json :=
  match service with
  | .network =>
    within (·.network) (fun r s => { r with network := s })
      (Procedure.serveBy NetworkService.InPlace.procedures at_ action bag)
  | .directory => do
    let view ← reads fun r => r.network.view
    within (·.directory) (fun r s => { r with directory := s })
      (Procedure.serveBy (DirectoryService.InPlace.procedures view) at_ action bag)
  | .resolver => do
    let view ← reads fun r => r.network.view
    within (·.resolver) (fun r s => { r with resolver := s })
      (Procedure.serveBy (ResolverService.InPlace.procedures view) at_ action bag)
  | .delivery =>
    within (·.delivery) (fun r s => { r with delivery := s })
      (Procedure.serveBy DeliveryService.InPlace.procedures at_ action bag)
  | .signing =>
    within (·.signing) (fun r s => { r with signing := s })
      (Procedure.serveBy SigningService.InPlace.procedures at_ action bag)

theorem does_dispatch (at_ : Moment) (service : ServiceName) (action : String) (bag : Json) :
    Does (dispatch at_ service action bag) fun r => r.serve at_ service action bag := by
  intro r
  cases service with
  | network =>
    have done := NetworkService.InPlace.procedures_sound.does_serveBy at_ action bag r.network
    exact done.within (fun r s => { r with network := s }) fun _ => rfl
  | directory =>
    have sound := DirectoryService.InPlace.procedures_sound r.network.view
    have done := sound.does_serveBy at_ action bag r.directory
    exact .reads_bind (done.within (fun r s => { r with directory := s }) fun _ => rfl)
  | resolver =>
    have sound := ResolverService.InPlace.procedures_sound r.network.view
    have done := sound.does_serveBy at_ action bag r.resolver
    exact .reads_bind (done.within (fun r s => { r with resolver := s }) fun _ => rfl)
  | delivery =>
    have done := DeliveryService.InPlace.procedures_sound.does_serveBy at_ action bag r.delivery
    exact done.within (fun r s => { r with delivery := s }) fun _ => rfl
  | signing =>
    have done := SigningService.InPlace.procedures_sound.does_serveBy at_ action bag r.signing
    exact done.within (fun r s => { r with signing := s }) fun _ => rfl

theorem exec_dispatch (r : Region) (at_ : Moment) (service : ServiceName) (action : String)
    (bag : Json) :
    (dispatch at_ service action bag).exec r = outcome r (r.serve at_ service action bag) :=
  does_dispatch at_ service action bag r

theorem state_of_reading (reading : Procedure.isReading action = true) (r : Region) (at_ : Moment)
    (service : ServiceName) (bag : Json) : ((dispatch at_ service action bag).exec r).2 = r := by
  cases service with
  | network =>
    have same := NetworkService.InPlace.procedures_sound.state_of_reading reading at_ bag r.network
    exact congrArg (fun s => { r with network := s }) same
  | directory =>
    have sound := DirectoryService.InPlace.procedures_sound r.network.view
    have same := sound.state_of_reading reading at_ bag r.directory
    exact congrArg (fun s => { r with directory := s }) same
  | resolver =>
    have sound := ResolverService.InPlace.procedures_sound r.network.view
    have same := sound.state_of_reading reading at_ bag r.resolver
    exact congrArg (fun s => { r with resolver := s }) same
  | delivery =>
    have same := DeliveryService.InPlace.procedures_sound.state_of_reading reading at_ bag r.delivery
    exact congrArg (fun s => { r with delivery := s }) same
  | signing =>
    have same := SigningService.InPlace.procedures_sound.state_of_reading reading at_ bag r.signing
    exact congrArg (fun s => { r with signing := s }) same

structure Transactional (r : Region) (at_ : Moment) (service : ServiceName) (action : String)
    (bag : Json) : Prop where
  answered : ((dispatch at_ service action bag).exec r).1 =
    (r.serve at_ service action bag).map Prod.fst
  left : ((dispatch at_ service action bag).exec r).2 = r.after (.request at_ service action bag)
  refused : ∀ e, ((dispatch at_ service action bag).exec r).1 = .error e →
    ((dispatch at_ service action bag).exec r).2 = r
  looked : Procedure.isReading action = true → ((dispatch at_ service action bag).exec r).2 = r

/-- In every region, a request served in place is answered as in one stroke and leaves the same
region behind; if it fails, or only reads, it leaves the region as it was. -/
theorem dispatch_transactional (r : Region) (at_ : Moment) (service : ServiceName)
    (action : String) (bag : Json) : Transactional r at_ service action bag where
  answered := by
    rw [exec_dispatch]
    cases r.serve at_ service action bag with
    | ok answer => rfl
    | error e => rfl
  left := by
    rw [exec_dispatch, after]
    cases r.serve at_ service action bag with
    | ok answer => rfl
    | error e => rfl
  refused := fun _ failed => (does_dispatch at_ service action bag).state_of_error failed
  looked := fun reading => state_of_reading reading r at_ service bag

end ControlPlane.Region
