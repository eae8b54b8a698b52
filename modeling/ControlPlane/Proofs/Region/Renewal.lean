import ControlPlane.Proofs.Region.Run

/-!
Resets. What becomes of one service of a region is decided by that service and the network alone, so
that a service which has been reset goes on as one that was built over the network as it stands. The
other services are not touched.
-/

namespace ControlPlane

def ServiceName.State : ServiceName → Type
  | network => NetworkService
  | directory => DirectoryService
  | resolver => ResolverService
  | delivery => DeliveryService
  | signing => SigningService

namespace Region

variable {r r' : Region} {service other : ServiceName}

def part (r : Region) : (service : ServiceName) → service.State
  | .network => r.network
  | .directory => r.directory
  | .resolver => r.resolver
  | .delivery => r.delivery
  | .signing => r.signing

theorem part_reset_of_ne (r : Region) (different : other ≠ service) :
    (r.reset service).part other = r.part other := by
  cases service <;> cases other <;> first | rfl | exact absurd rfl different

theorem part_after_of_ne (r : Region) (at_ : Moment) (action : String) (bag : Json)
    (different : other ≠ service) :
    (r.after (.request at_ service action bag)).part other = r.part other := by
  rw [after]
  cases served : r.serve at_ service action bag with
  | error e => rfl
  | ok answered =>
    cases service with
    | network =>
      obtain ⟨⟨_, s⟩, -, rfl⟩ := map_eq_ok_iff.mp served
      cases other <;> first | rfl | exact absurd rfl different
    | directory =>
      obtain ⟨⟨_, s⟩, -, rfl⟩ := map_eq_ok_iff.mp served
      cases other <;> first | rfl | exact absurd rfl different
    | resolver =>
      obtain ⟨⟨_, s⟩, -, rfl⟩ := map_eq_ok_iff.mp served
      cases other <;> first | rfl | exact absurd rfl different
    | delivery =>
      obtain ⟨⟨_, s⟩, -, rfl⟩ := map_eq_ok_iff.mp served
      cases other <;> first | rfl | exact absurd rfl different
    | signing =>
      obtain ⟨⟨_, s⟩, -, rfl⟩ := map_eq_ok_iff.mp served
      cases other <;> first | rfl | exact absurd rfl different

theorem signing_after {p : SigningService → Prop} (start : ∀ scope, p (.empty scope))
    (kept : ∀ {s s' : SigningService} {at_ : Moment}, p s → ∀ {name : String} {bag j : Json},
      (SigningService.operations.serve s at_ name bag).run = .ok (j, s') → p s')
    (h : p r.signing) (step : Step) : p (r.after step).signing := by
  cases step with
  | request at_ service action bag =>
    by_cases other : .signing = service
    · subst other
      rw [after]
      cases served : r.serve at_ .signing action bag with
      | error e => exact h
      | ok answered =>
        obtain ⟨⟨j, s⟩, answer, rfl⟩ := map_eq_ok_iff.mp served
        have held : p s := kept h answer
        exact held
    · have same : (r.after (.request at_ service action bag)).signing = r.signing :=
        part_after_of_ne r at_ action bag other
      rw [same]
      exact h
  | reset service =>
    cases service with
    | signing => exact start r.scope
    | _ => exact h
  | restart => exact start r.scope

/-- The two regions are of the same place, and agree in the network and in one service. -/
structure AgreeOn (service : ServiceName) (r r' : Region) : Prop where
  scope : r.scope = r'.scope
  quotas : r.quotas = r'.quotas
  network : r.part .network = r'.part .network
  self : r.part service = r'.part service

theorem AgreeOn.onNetwork (h : AgreeOn service r r') : AgreeOn .network r r' :=
  { h with self := h.network }

theorem AgreeOn.serve (h : AgreeOn service r r') (at_ : Moment) (action : String) (bag : Json) :
    (r.serve at_ service action bag).map (fun a => (a.1, a.2.part service)) =
      (r'.serve at_ service action bag).map fun a => (a.1, a.2.part service) := by
  obtain ⟨scope, quotas, network, directory, resolver, delivery, signing⟩ := r
  obtain ⟨-, -, same, self⟩ := h
  cases same
  cases service with
  | network =>
    simp only [Region.serve]
    cases (NetworkService.operations.serve r'.network at_ action bag).run <;> rfl
  | directory =>
    cases self
    simp only [Region.serve]
    cases (DirectoryService.operations.serve r'.directory at_ action bag).answer r'.network.view <;>
      rfl
  | resolver =>
    cases self
    simp only [Region.serve]
    cases (ResolverService.operations.serve r'.resolver at_ action bag).answer r'.network.view <;>
      rfl
  | delivery =>
    cases self
    simp only [Region.serve]
    cases (DeliveryService.operations.serve r'.delivery at_ action bag).run <;> rfl
  | signing =>
    cases self
    simp only [Region.serve]
    cases (SigningService.operations.serve r'.signing at_ action bag).run <;> rfl

theorem AgreeOn.reply (h : AgreeOn service r r') (at_ : Moment) (action : String) (bag : Json) :
    r.reply (.request at_ service action bag) = r'.reply (.request at_ service action bag) := by
  have served := congrArg (Except.map Prod.fst) (h.serve at_ action bag)
  simp only [Region.reply, Option.some.injEq]
  revert served
  cases r.serve at_ service action bag <;> cases r'.serve at_ service action bag <;> exact id

theorem AgreeOn.part_served (h : AgreeOn service r r') (at_ : Moment) (action : String) (bag : Json) :
    (r.after (.request at_ service action bag)).part service =
      (r'.after (.request at_ service action bag)).part service := by
  have served := h.serve at_ action bag
  rw [after, after]
  revert served
  cases r.serve at_ service action bag with
  | error e =>
    cases r'.serve at_ service action bag with
    | error e' => exact fun _ => h.self
    | ok answered =>
      intro same
      cases same
  | ok answered =>
    cases r'.serve at_ service action bag with
    | error e' =>
      intro same
      cases same
    | ok answered' =>
      intro same
      simp only [Except.map, Except.ok.injEq, Prod.mk.injEq] at same
      exact same.2

theorem AgreeOn.part_request (h : AgreeOn service r r') (at_ : Moment) (asked : ServiceName)
    (action : String) (bag : Json) :
    (r.after (.request at_ asked action bag)).part service =
      (r'.after (.request at_ asked action bag)).part service := by
  by_cases same : service = asked
  · subst same
    exact h.part_served at_ action bag
  · rw [part_after_of_ne r at_ action bag same, part_after_of_ne r' at_ action bag same]
    exact h.self

theorem part_reset (r : Region) (service : ServiceName) :
    (r.reset service).part service = (new r.scope r.quotas).part service := by
  cases service <;> rfl

theorem AgreeOn.part_step (h : AgreeOn service r r') (step : Step) :
    (r.after step).part service = (r'.after step).part service := by
  cases step with
  | request at_ asked action bag => exact h.part_request at_ asked action bag
  | reset renewed =>
    rw [after, after]
    by_cases same : service = renewed
    · subst same
      rw [part_reset, part_reset, h.scope, h.quotas]
    · rw [part_reset_of_ne r same, part_reset_of_ne r' same]
      exact h.self
  | restart => rw [after, after, restart, restart, h.scope, h.quotas]

theorem AgreeOn.after (h : AgreeOn service r r') (step : Step) :
    AgreeOn service (r.after step) (r'.after step) where
  scope := by rw [(change_after r step).scope_eq, (change_after r' step).scope_eq, h.scope]
  quotas := by rw [(change_after r step).quotas_eq, (change_after r' step).quotas_eq, h.quotas]
  network := h.onNetwork.part_step step
  self := h.part_step step

def Step.asks (service : ServiceName) : Step → Bool
  | .request _ asked _ _ => asked == service
  | .reset _ => false
  | .restart => false

def repliesOf (service : ServiceName) (r : Region) : List Step → List (Option (Except ServiceError Json))
  | [] => []
  | step :: rest =>
    if step.asks service then r.reply step :: (r.after step).repliesOf service rest
    else (r.after step).repliesOf service rest

theorem AgreeOn.repliesOf (h : AgreeOn service r r') (steps : List Step) :
    r.repliesOf service steps = r'.repliesOf service steps := by
  induction steps generalizing r r' with
  | nil => rfl
  | cons step rest ih =>
    rw [Region.repliesOf, Region.repliesOf, ih (h.after step)]
    split
    · rename_i asks
      cases step with
      | request at_ asked action bag =>
        rw [Step.asks, beq_iff_eq] at asks
        subst asks
        rw [h.reply]
      | reset renewed => cases asks
      | restart => cases asks
    · rfl

/-- A service has been built anew: it is empty and the others are what they were, and from then on
it answers as in a region in which nothing is left but the network. -/
structure Renewed (r : Region) (service : ServiceName) : Prop where
  self : (r.reset service).part service = (new r.scope r.quotas).part service
  others : ∀ other, other ≠ service → (r.reset service).part other = r.part other
  answers : ∀ later, (r.reset service).repliesOf service later =
    { new r.scope r.quotas with network := (r.reset service).network }.repliesOf service later

theorem renewed (r : Region) (service : ServiceName) : Renewed r service where
  self := part_reset r service
  others := fun _ different => part_reset_of_ne r different
  answers := by
    have agree : AgreeOn service (r.reset service)
        { new r.scope r.quotas with network := (r.reset service).network } := by
      cases service <;> exact ⟨rfl, rfl, rfl, rfl⟩
    exact agree.repliesOf

end Region

end ControlPlane
