import ControlPlane.Proofs.InPlace.Directory
import ControlPlane.Proofs.InPlace.Rehearsal
import ControlPlane.Proofs.InPlace.Resolver

/-!
The operations that ask the network, in place and with a script in its stead: the creation of a
directory of any type, of an endpoint, of an address of an endpoint and of an association of a rule.
A script of what a network was asked and answered does for it whatever its state; a script that goes
another way is found out at the first entry that differs, with nothing written.
-/

namespace ControlPlane

open Program Rehearsal

structure Scripted (σ ε : Type) where
  op : Operation Lookup σ ε
  rehearse : Moment → op.Input → Rehearsal σ ε op.Output

/-- What is seen of the operations of a service when scripts take the place of any network: those
with a rehearsal play what they ask, and all others ask nothing. -/
structure Scripted.Faithful {σ ε : Type} (rehearsals : String → Option (Scripted σ ε))
    (c : Catalog Lookup σ ε) : Prop where
  ops : ∀ name p, rehearsals name = some p → c name = some p.op
  plays : ∀ name p, rehearsals name = some p → ∀ s at_ input script,
    (p.rehearse at_ input).exec ⟨s, script⟩ = performed s ((p.op.run s at_ input).replay script)
  rehearsed : ∀ name p, rehearsals name = some p → ∀ (network : NetworkService) s at_ input,
    Rehearsed network.view s (p.rehearse at_ input) (p.op.run s at_ input)
  silent : ∀ name op, rehearsals name = none → c name = some op → ∀ view s at_ input,
    (op.run s at_ input).trace view = []

namespace DirectoryService.InPlace

def rehearseCreate (at_ : Moment) (draft : Except DirectoryFault DirectoryDraft) :
    Rehearsal DirectoryService DirectoryFault String := do
  let d ← work (look fun _ => draft)
  work (look fun _ => d.accept)
  let subnets ← ask fun _ => locate d.vpc d.subnets
  work (look fun s => s.requireRoom d.type)
  work (look fun _ => requireFewTags d.tags)
  work (commit at_ d subnets)

theorem rehearseCreate_plays (s : DirectoryService) (at_ : Moment)
    (draft : Except DirectoryFault DirectoryDraft) :
    Plays s (rehearseCreate at_ draft) (s.create at_ draft) := by
  refine Plays.look_bind fun d _ => ?_
  refine Plays.look_bind fun _ _ => ?_
  refine Plays.ask_bind fun subnets => ?_
  refine Plays.look_bind fun _ _ => ?_
  refine Plays.look_bind fun _ _ => ?_
  exact Plays.work (does_commit at_ d subnets s)

def rehearsals : String → Option (Scripted DirectoryService DirectoryFault)
  | "CreateDirectory" =>
    some ⟨createDirectoryOp, fun at_ input => rehearseCreate at_ input.draft⟩
  | "CreateMicrosoftAD" =>
    some ⟨createMicrosoftOp, fun at_ input => rehearseCreate at_ input.draft⟩
  | "ConnectDirectory" =>
    some ⟨connectDirectoryOp, fun at_ input => rehearseCreate at_ input.draft⟩
  | _ => none

theorem rehearsals_play {name : String} {p : Scripted DirectoryService DirectoryFault}
    (hp : rehearsals name = some p) (s : DirectoryService) (at_ : Moment) (input : p.op.Input) :
    Plays s (p.rehearse at_ input) (ExceptT.mk (p.op.run s at_ input)) := by
  simp only [rehearsals] at hp
  split at hp <;> cases hp
  case h_1 => exact rehearseCreate_plays s at_ _
  case h_2 => exact rehearseCreate_plays s at_ _
  case h_3 => exact rehearseCreate_plays s at_ _

theorem rehearsals_faithful : Scripted.Faithful rehearsals operations where
  ops := by
    intro name p hp
    simp only [rehearsals] at hp
    split at hp <;> cases hp <;> rfl
  plays := fun name p hp s at_ input => rehearsals_play hp s at_ input
  rehearsed := fun name p hp network s at_ input =>
    (rehearsals_play hp s at_ input).rehearsed network.view
  silent := by
    intro name op none hop view s at_ input
    simp only [operations] at hop
    split at hop <;> cases hop
    case h_1 => cases none
    case h_2 => cases none
    case h_3 => cases none
    all_goals rfl

end DirectoryService.InPlace

namespace ResolverService.InPlace

open ResolverConstraint

def rehearseCreateEndpoint (at_ : Moment) (input : CreateEndpoint) :
    Rehearsal ResolverService ResolverFault Endpoint := do
  work (look fun s => s.acceptEndpoint input)
  let limit ← work (reads fun s => s.quotas.endpoints)
  let size ← work (reads fun s => s.endpoints.size)
  let fault ← work (reads fun s => s.limitFault "max-endpoints")
  if limit ≤ size then throw (.refused fault)
  if input.addresses.length < minAddresses then throw (.refused .tooFewAddresses)
  let assigned ← Rehearsal.ask fun s => assign s.heldAddresses input.addresses
  Rehearsal.ask fun _ => acceptGroups input.groups
  let known ← work (reads fun s =>
    (s.endpoints.find? fun e => e.requestId == input.requestId).isSome)
  if known then throw (.refused (.endpointExists input.requestId))
  work do
    let e ← reads fun s => (s.registerEndpoint at_ input assigned).1
    write fun s => { s with tags := s.tags.tag e.arn input.tags }
    write fun s => { s with endpoints := s.endpoints.insert e }
    return e

theorem rehearseCreateEndpoint_plays (s : ResolverService) (at_ : Moment) (input : CreateEndpoint) :
    Plays s (rehearseCreateEndpoint at_ input) (s.createEndpoint at_ input) := by
  refine Plays.look_bind fun _ _ => ?_
  refine Plays.reads_bind <| Plays.reads_bind <| Plays.reads_bind ?_
  refine Plays.guard fun _ => ?_
  refine Plays.guard fun _ => ?_
  refine Plays.ask_bind fun assigned => ?_
  refine Plays.ask_bind fun _ => ?_
  refine Plays.reads_bind ?_
  refine Plays.guard fun _ => ?_
  exact Plays.work (r := .ok (s.registerEndpoint at_ input assigned)) rfl

def rehearseAssociateAddress (at_ : Moment) (input : ChangeAddress) :
    Rehearsal ResolverService ResolverFault Endpoint := do
  let e ← work (look fun s => s.endpoint input.endpoint)
  match input.address.subnet with
  | none => throw (.refused .subnetRequired)
  | some subnet =>
    let fault ← work (reads fun s => s.limitFault "max-ip-addresses-per-endpoint")
    if maxAddresses ≤ e.addresses.length then throw (.refused fault)
    let assigned ← Rehearsal.ask fun s => assign s.heldAddresses [⟨subnet, input.address.ip⟩]
    work do
      let e ← look fun s => s.endpoint input.endpoint
      replaceEndpoint
        (withAddresses e at_.now (e.addresses ++ (attachAll at_.now assigned at_.draws).1))

theorem rehearseAssociateAddress_plays (s : ResolverService) (at_ : Moment)
    (input : ChangeAddress) :
    Plays s (rehearseAssociateAddress at_ input) (s.associateAddress at_ input) := by
  refine Plays.look_bind fun e found => ?_
  cases input.address.subnet with
  | none => exact fun script => rfl
  | some subnet =>
    refine Plays.reads_bind ?_
    refine Plays.guard fun _ => ?_
    refine Plays.ask_bind fun assigned => ?_
    refine Plays.work ?_
    simp only [Ends, exec_bind, exec_look, found]
    rfl

def rehearseAssociateRule (at_ : Moment) (input : AssociateRule) :
    Rehearsal ResolverService ResolverFault RuleAssociation := do
  work (checked (associationChecks input))
  let _ ← work (look fun s => s.rule input.rule)
  let _ ← Rehearsal.ask fun _ =>
    (Lookup.askVpc input.vpc).orElseFail (ResolverFault.unknownVpc input.vpc)
  let known ← work (reads fun s => (s.findAssociation input.rule input.vpc).isSome)
  if known then throw (.refused (.alreadyAssociated input.rule input.vpc))
  let limit ← work (reads fun s => s.quotas.associations)
  let size ← work (reads fun s => s.associations.size)
  let fault ← work (reads fun s => s.limitFault "max-rule-association")
  if limit ≤ size then throw (.refused fault)
  work do
    let a ← reads fun s => s.newAssociation at_ input
    write fun s => { s with associations := s.associations.insert a }
    return a

theorem rehearseAssociateRule_plays (s : ResolverService) (at_ : Moment) (input : AssociateRule) :
    Plays s (rehearseAssociateRule at_ input) (s.associateRule at_ input) := by
  refine Plays.look_bind fun _ _ => ?_
  refine Plays.look_bind fun _ _ => ?_
  refine Plays.ask_bind fun _ => ?_
  refine Plays.reads_bind ?_
  refine Plays.guard fun _ => ?_
  refine Plays.reads_bind <| Plays.reads_bind <| Plays.reads_bind ?_
  refine Plays.guard fun _ => ?_
  exact Plays.work rfl

def rehearsals : String → Option (Scripted ResolverService ResolverFault)
  | "CreateResolverEndpoint" => some ⟨createEndpointOp, rehearseCreateEndpoint⟩
  | "AssociateResolverEndpointIpAddress" => some ⟨associateAddressOp, rehearseAssociateAddress⟩
  | "AssociateResolverRule" => some ⟨associateRuleOp, rehearseAssociateRule⟩
  | _ => none

theorem rehearsals_play {name : String} {p : Scripted ResolverService ResolverFault}
    (hp : rehearsals name = some p) (s : ResolverService) (at_ : Moment) (input : p.op.Input) :
    Plays s (p.rehearse at_ input) (ExceptT.mk (p.op.run s at_ input)) := by
  simp only [rehearsals] at hp
  split at hp <;> cases hp
  case h_1 => exact rehearseCreateEndpoint_plays s at_ input
  case h_2 => exact rehearseAssociateAddress_plays s at_ input
  case h_3 => exact rehearseAssociateRule_plays s at_ input

theorem rehearsals_faithful : Scripted.Faithful rehearsals operations where
  ops := by
    intro name p hp
    simp only [rehearsals] at hp
    split at hp <;> cases hp <;> rfl
  plays := fun name p hp s at_ input => rehearsals_play hp s at_ input
  rehearsed := fun name p hp network s at_ input =>
    (rehearsals_play hp s at_ input).rehearsed network.view
  silent := by
    intro name op none hop view s at_ input
    simp only [operations] at hop
    split at hop <;> cases hop
    case h_1 => cases none
    case h_7 => cases none
    case h_13 => cases none
    all_goals rfl

end ResolverService.InPlace

/-- Scripts do for a network in both services that ask one. -/
theorem script_replaces_network :
    Scripted.Faithful DirectoryService.InPlace.rehearsals DirectoryService.operations ∧
      Scripted.Faithful ResolverService.InPlace.rehearsals ResolverService.operations :=
  ⟨DirectoryService.InPlace.rehearsals_faithful, ResolverService.InPlace.rehearsals_faithful⟩

end ControlPlane
