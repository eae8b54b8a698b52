import ControlPlane.Proofs.Operation
import ControlPlane.Region

/-!
The places of the five services in a region. What a request does to a region is what the operation
of its name does to one service, so it is said here once, whichever the service is.
-/

namespace ControlPlane

/-- The place of a service in a region: its part of the region, and how the region answers what an
operation asks of the outside. -/
structure Seat (m : Type → Type) [Monad m] (σ ε : Type) [Fault ε] where
  service : ServiceName
  operations : Catalog m σ ε
  state : Region → σ
  put : Region → σ → Region
  put_state : ∀ r, put r (state r) = r
  answer : Region → {α : Type} → m α → α
  answer_pure : ∀ (r : Region) {α : Type} (a : α), answer r (pure a : m α) = a
  answer_bind : ∀ (r : Region) {α β : Type} (x : m α) (f : α → m β),
    answer r (x >>= f) = answer r (f (answer r x))
  serve_eq : ∀ (r : Region) (at_ : Moment) (action : String) (bag : Json),
    r.serve at_ service action bag =
      (answer r (operations.serve (state r) at_ action bag)).map fun (j, s) => (j, put r s)

namespace Seat

def network : Seat Id NetworkService NetworkFault where
  service := .network
  operations := NetworkService.operations
  state := Region.network
  put r s := { r with network := s }
  put_state _ := rfl
  answer _ _ x := x.run
  answer_pure _ _ _ := rfl
  answer_bind _ _ _ _ _ := rfl
  serve_eq _ _ _ _ := rfl

def directory : Seat Lookup DirectoryService DirectoryFault where
  service := .directory
  operations := DirectoryService.operations
  state := Region.directory
  put r s := { r with directory := s }
  put_state _ := rfl
  answer r _ q := q.answer r.network.view
  answer_pure _ _ _ := rfl
  answer_bind r _ _ := Lookup.answer_bind r.network.view
  serve_eq _ _ _ _ := rfl

def resolver : Seat Lookup ResolverService ResolverFault where
  service := .resolver
  operations := ResolverService.operations
  state := Region.resolver
  put r s := { r with resolver := s }
  put_state _ := rfl
  answer r _ q := q.answer r.network.view
  answer_pure _ _ _ := rfl
  answer_bind r _ _ := Lookup.answer_bind r.network.view
  serve_eq _ _ _ _ := rfl

def delivery : Seat Id DeliveryService DeliveryFault where
  service := .delivery
  operations := DeliveryService.operations
  state := Region.delivery
  put r s := { r with delivery := s }
  put_state _ := rfl
  answer _ _ x := x.run
  answer_pure _ _ _ := rfl
  answer_bind _ _ _ _ _ := rfl
  serve_eq _ _ _ _ := rfl

def signing : Seat Id SigningService SigningFault where
  service := .signing
  operations := SigningService.operations
  state := Region.signing
  put r s := { r with signing := s }
  put_state _ := rfl
  answer _ _ x := x.run
  answer_pure _ _ _ := rfl
  answer_bind _ _ _ _ _ := rfl
  serve_eq _ _ _ _ := rfl

variable {m : Type → Type} [Monad m] {σ ε : Type} [Fault ε] (seat : Seat m σ ε)

def run (op : Operation m σ ε) (input : op.Input) (r : Region) (at_ : Moment) :
    Except ServiceError (op.Output × Region) :=
  ((seat.answer r (op.run (seat.state r) at_ input)).mapError .ofFault).map fun (o, s) =>
    (o, seat.put r s)

theorem run_eq_ok_iff {op : Operation m σ ε} {input : op.Input} {r r' : Region} {at_ : Moment}
    {o : op.Output} : seat.run op input r at_ = .ok (o, r') ↔
      ∃ s, seat.answer r (op.run (seat.state r) at_ input) = .ok (o, s) ∧ seat.put r s = r' := by
  simp only [run, map_eq_ok_iff, mapError_eq_ok_iff, Prod.mk.injEq]
  constructor
  · rintro ⟨⟨_, s⟩, ran, rfl, rfl⟩
    exact ⟨s, ran, rfl⟩
  · rintro ⟨s, ran, rfl⟩
    exact ⟨(o, s), ran, rfl, rfl⟩

theorem serve_eq_map_run {action : String} {op : Operation m σ ε}
    (listed : seat.operations action = some op) {bag : Json} {input : op.Input}
    (read : op.input.decodeBag bag = .ok input) (r : Region) (at_ : Moment) :
    r.serve at_ seat.service action bag =
      (seat.run op input r at_).map fun (o, r') => (op.output.encode o, r') := by
  simp only [seat.serve_eq, Catalog.serve, listed, Operation.serve, read, seat.answer_bind, run]
  cases seat.answer r (op.run (seat.state r) at_ input) with
  | error e =>
    simp only [seat.answer_pure]
    rfl
  | ok result =>
    simp only [seat.answer_pure]
    rfl

end Seat

end ControlPlane
