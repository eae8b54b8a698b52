import ControlPlane.Proofs.InPlace.Procedure
import ControlPlane.Proofs.Resolver.Change

/-!
The name resolver service in place. The tags of a new endpoint or rule are written before its
record; an endpoint that is to be changed is looked up again once all checks are done.
-/

namespace ControlPlane.ResolverService.InPlace

open Program ResolverConstraint

abbrev Task (α : Type) := Program ResolverService ResolverFault α

def checked (cs : List Check) : Task Unit := look fun _ => runChecks cs

def ask {α : Type} (view : NetworkView)
    (question : ResolverService → ExceptT ResolverFault Lookup α) : Task α :=
  look fun s => (question s).run.answer view

def clearTags (arn : String) : Task Unit := write fun s => { s with tags := s.tags.clear arn }

def createEndpoint (view : NetworkView) (at_ : Moment) (input : CreateEndpoint) :
    Task Endpoint := do
  look fun s => s.acceptEndpoint input
  let limit ← reads fun s => s.quotas.endpoints
  let size ← reads fun s => s.endpoints.size
  let fault ← reads fun s => s.limitFault "max-endpoints"
  if limit ≤ size then throw fault
  if input.addresses.length < minAddresses then throw .tooFewAddresses
  let assigned ← ask view fun s => assign s.heldAddresses input.addresses
  ask view fun _ => acceptGroups input.groups
  let known ← reads fun s => (s.endpoints.find? fun e => e.requestId == input.requestId).isSome
  if known then throw (.endpointExists input.requestId)
  let e ← reads fun s => (s.registerEndpoint at_ input assigned).1
  write fun s => { s with tags := s.tags.tag e.arn input.tags }
  write fun s => { s with endpoints := s.endpoints.insert e }
  return e

theorem does_createEndpoint (view : NetworkView) (at_ : Moment) (input : CreateEndpoint) :
    Does (createEndpoint view at_ input) fun s => (s.createEndpoint at_ input).run.answer view := by
  intro s
  simp only [ResolverService.createEndpoint, Lookup.answer_run_bind, Lookup.answer_run_ite,
    Lookup.answer_run_throw]
  refine Ends.look_bind fun _ _ => ?_
  refine Ends.reads_bind <| Ends.reads_bind <| Ends.reads_bind ?_
  refine Ends.guard fun _ => ?_
  refine Ends.guard fun _ => ?_
  refine Ends.look_bind fun assigned _ => ?_
  refine Ends.look_bind fun _ _ => ?_
  refine Ends.reads_bind ?_
  refine Ends.guard fun _ => ?_
  rfl

def replaceEndpoint (e : Endpoint) : Task Endpoint := do
  write fun s => { s with endpoints := s.endpoints.insert e }
  return e

def updateEndpoint (at_ : Moment) (input : UpdateEndpoint) : Task Endpoint := do
  checked (idCheck "resolverEndpointId" input.endpoint :: nameChecks input.name)
  let e ← look fun s => s.endpoint input.endpoint
  replaceEndpoint
    { e with name := input.name.orElse fun _ => e.name, modificationTime := at_.now }

theorem does_updateEndpoint (at_ : Moment) (input : UpdateEndpoint) :
    Does (updateEndpoint at_ input) fun s => s.updateEndpoint at_ input := by
  intro s
  refine Ends.look_bind fun _ _ => ?_
  refine Ends.look_bind fun e _ => ?_
  rfl

def deleteEndpoint (id : String) : Task Endpoint := do
  let _ ← look fun s => s.endpoint id
  let users ← reads fun s => s.rulesOf id
  if users ≠ [] then throw (.endpointInUse (users.map (·.id)))
  let e ← takeOut (·.endpoints) (fun s endpoints => { s with endpoints := endpoints }) id
    (.endpointNotFound id)
  clearTags e.arn
  return { e with status := "DELETING", statusMessage := "Deleting the Resolver Endpoint" }

theorem does_deleteEndpoint (id : String) :
    Does (deleteEndpoint id) fun s => s.deleteEndpoint id := by
  intro s
  refine Ends.look_bind fun e found => ?_
  refine Ends.reads_bind ?_
  refine Ends.guard fun _ => ?_
  exact Ends.takeOut_found (endpoint_eq_ok_iff.mp found).2 rfl

def associateAddress (view : NetworkView) (at_ : Moment) (input : ChangeAddress) :
    Task Endpoint := do
  let e ← look fun s => s.endpoint input.endpoint
  match input.address.subnet with
  | none => throw .subnetRequired
  | some subnet =>
    let fault ← reads fun s => s.limitFault "max-ip-addresses-per-endpoint"
    if maxAddresses ≤ e.addresses.length then throw fault
    let assigned ← ask view fun s => assign s.heldAddresses [⟨subnet, input.address.ip⟩]
    let e ← look fun s => s.endpoint input.endpoint
    replaceEndpoint
      (withAddresses e at_.now (e.addresses ++ (attachAll at_.now assigned at_.draws).1))

theorem does_associateAddress (view : NetworkView) (at_ : Moment) (input : ChangeAddress) :
    Does (associateAddress view at_ input) fun s =>
      (s.associateAddress at_ input).run.answer view := by
  intro s
  simp only [ResolverService.associateAddress, Lookup.answer_run_bind]
  refine Ends.look_bind fun e found => ?_
  cases input.address.subnet with
  | none => rfl
  | some subnet =>
    simp only [Lookup.answer_run_bind, Lookup.answer_run_ite, Lookup.answer_run_throw]
    refine Ends.reads_bind ?_
    refine Ends.guard fun _ => ?_
    refine Ends.look_bind fun assigned _ => ?_
    simp only [Ends, exec_bind, exec_look, found]
    rfl

def disassociateAddress (at_ : Moment) (input : ChangeAddress) : Task Endpoint := do
  let e ← look fun s => s.endpoint input.endpoint
  match e.addresses.findIdx? (isMeant input.address) with
  | none =>
    throw (.addressNotFound ((input.address.id.orElse fun _ => input.address.ip).getD "") e.id)
  | some i =>
    if e.addresses.length ≤ minAddresses then throw .lastAddresses
    replaceEndpoint (withAddresses e at_.now (e.addresses.eraseIdx i))

theorem does_disassociateAddress (at_ : Moment) (input : ChangeAddress) :
    Does (disassociateAddress at_ input) fun s => s.disassociateAddress at_ input := by
  intro s
  refine Ends.look_bind fun e _ => ?_
  cases e.addresses.findIdx? (isMeant input.address) with
  | none => rfl
  | some i =>
    refine Ends.guard fun _ => ?_
    rfl

def createRule (at_ : Moment) (input : CreateRule) : Task ForwardingRule := do
  look fun s => s.acceptRule input
  let limit ← reads fun s => s.quotas.rules
  let size ← reads fun s => s.rules.size
  let fault ← reads fun s => s.limitFault "max-rules"
  if limit ≤ size then throw fault
  if input.type = "SYSTEM" ∧ (input.targets ≠ [] ∨ input.endpoint ≠ none) then throw .systemRule
  match input.targets.find? fun t => (Ipv4.parse? t.ip).isNone with
  | some bad => throw (.invalidTarget bad.ip)
  | none =>
    look fun s => s.requireOutbound input.endpoint
    let known ← reads fun s => (s.rules.find? fun r => r.requestId == input.requestId).isSome
    if known then throw (.ruleExists input.requestId)
    let id ← reads fun s => (Identifier.fresh s.rules "rslvr-rr" idDigits at_.draws).1
    let r ← reads fun s => s.buildRule at_ input id
    write fun s => { s with tags := s.tags.tag r.arn input.tags }
    write fun s => { s with rules := s.rules.insert r }
    return r

theorem does_createRule (at_ : Moment) (input : CreateRule) :
    Does (createRule at_ input) fun s => s.createRule at_ input := by
  intro s
  refine Ends.look_bind fun _ _ => ?_
  refine Ends.reads_bind <| Ends.reads_bind <| Ends.reads_bind ?_
  refine Ends.guard fun _ => ?_
  refine Ends.guard fun _ => ?_
  cases input.targets.find? fun t => (Ipv4.parse? t.ip).isNone with
  | some bad => rfl
  | none =>
    refine Ends.look_bind fun _ _ => ?_
    refine Ends.reads_bind ?_
    refine Ends.guard fun _ => ?_
    rfl

def deleteRule (id : String) : Task ForwardingRule := do
  let _ ← look fun s => s.rule id
  let used ← reads fun s => (s.associations.find? fun a => a.rule == id).isSome
  if used then throw .ruleInUse
  let r ← takeOut (·.rules) (fun s rules => { s with rules := rules }) id (.ruleNotFound id)
  clearTags r.arn
  return { r with status := "DELETING", statusMessage := "Deleting Resolver Rule" }

theorem does_deleteRule (id : String) : Does (deleteRule id) fun s => s.deleteRule id := by
  intro s
  refine Ends.look_bind fun r found => ?_
  refine Ends.reads_bind ?_
  refine Ends.guard fun _ => ?_
  exact Ends.takeOut_found (rule_eq_ok_iff.mp found).2 rfl

def associateRule (view : NetworkView) (at_ : Moment) (input : AssociateRule) :
    Task RuleAssociation := do
  checked (associationChecks input)
  let _ ← look fun s => s.rule input.rule
  let _ ← ask view fun _ =>
    (Lookup.askVpc input.vpc).orElseFail (ResolverFault.unknownVpc input.vpc)
  let known ← reads fun s => (s.findAssociation input.rule input.vpc).isSome
  if known then throw (.alreadyAssociated input.rule input.vpc)
  let limit ← reads fun s => s.quotas.associations
  let size ← reads fun s => s.associations.size
  let fault ← reads fun s => s.limitFault "max-rule-association"
  if limit ≤ size then throw fault
  let a ← reads fun s => s.newAssociation at_ input
  write fun s => { s with associations := s.associations.insert a }
  return a

theorem does_associateRule (view : NetworkView) (at_ : Moment) (input : AssociateRule) :
    Does (associateRule view at_ input) fun s => (s.associateRule at_ input).run.answer view := by
  intro s
  simp only [ResolverService.associateRule, Lookup.answer_run_bind, Lookup.answer_run_ite,
    Lookup.answer_run_throw]
  refine Ends.look_bind fun _ _ => ?_
  refine Ends.look_bind fun _ _ => ?_
  refine Ends.look_bind fun _ _ => ?_
  refine Ends.reads_bind ?_
  refine Ends.guard fun _ => ?_
  refine Ends.reads_bind <| Ends.reads_bind <| Ends.reads_bind ?_
  refine Ends.guard fun _ => ?_
  rfl

def disassociateRule (input : DisassociateRule) : Task RuleAssociation := do
  checked [idCheck "vPCId" input.vpc, idCheck "resolverRuleId" input.rule]
  let _ ← look fun s => s.rule input.rule
  let known ← reads fun s => s.findAssociation input.rule input.vpc
  match known with
  | none => throw (.notAssociated input.rule input.vpc)
  | some known =>
    let a ← takeOut (·.associations) (fun s associations => { s with associations := associations })
      known.id (.associationNotFound known.id)
    return { a with status := "DELETING", statusMessage := "Deleting Association" }

theorem does_disassociateRule (input : DisassociateRule) :
    Does (disassociateRule input) fun s => s.disassociateRule input := by
  intro s
  refine Ends.look_bind fun _ _ => ?_
  refine Ends.look_bind fun _ _ => ?_
  refine Ends.reads_bind ?_
  cases known : s.findAssociation input.rule input.vpc with
  | none => rfl
  | some a =>
    have live : s.associations.get? a.id = some a :=
      Registry.get?_eq_some_iff.mpr ⟨List.mem_of_find?_eq_some known, rfl⟩
    exact Ends.takeOut_found live rfl

def tagResource (input : TagByArn) : Task Unit := do
  look fun s => s.requireResource input.arn
  look fun s => s.acceptTags input.tags
  let existing ← reads fun s => s.tags.tags input.arn
  let limit ← reads fun s => s.quotas.tagsPerResource
  let fault ← reads fun s => s.limitFault "max-tags-per-resource"
  if existing.length + Tag.addedCount existing input.tags > limit then throw fault
  write fun s => { s with tags := s.tags.tag input.arn input.tags }

theorem does_tagResource (input : TagByArn) :
    Does (tagResource input) fun s => s.tagResource input := by
  intro s
  refine Ends.look_bind fun _ _ => ?_
  refine Ends.look_bind fun _ _ => ?_
  refine Ends.reads_bind <| Ends.reads_bind <| Ends.reads_bind ?_
  refine Ends.guard fun _ => ?_
  rfl

def untagResource (input : UntagByArn) : Task Unit := do
  look fun s => s.requireResource input.arn
  write fun s => { s with tags := s.tags.untag input.arn input.keys }

theorem does_untagResource (input : UntagByArn) :
    Does (untagResource input) fun s => s.untagResource input := by
  intro s
  refine Ends.look_bind fun _ _ => ?_
  rfl

abbrev Proc := Procedure Lookup ResolverService ResolverFault

def procedures (view : NetworkView) : String → Option Proc
  | "CreateResolverEndpoint" => some ⟨createEndpointOp, createEndpoint view⟩
  | "GetResolverEndpoint" => some ⟨getEndpointOp, fun _ id => look fun s => s.endpoint id⟩
  | "UpdateResolverEndpoint" => some ⟨updateEndpointOp, updateEndpoint⟩
  | "DeleteResolverEndpoint" => some ⟨deleteEndpointOp, fun _ id => deleteEndpoint id⟩
  | "ListResolverEndpoints" =>
    some ⟨listEndpointsOp, fun _ input => look fun s => s.listEndpoints input⟩
  | "ListResolverEndpointIpAddresses" =>
    some ⟨listAddressesOp, fun _ input => look fun s => s.listAddresses input⟩
  | "AssociateResolverEndpointIpAddress" => some ⟨associateAddressOp, associateAddress view⟩
  | "DisassociateResolverEndpointIpAddress" =>
    some ⟨disassociateAddressOp, disassociateAddress⟩
  | "CreateResolverRule" => some ⟨createRuleOp, createRule⟩
  | "GetResolverRule" => some ⟨getRuleOp, fun _ id => look fun s => s.rule id⟩
  | "DeleteResolverRule" => some ⟨deleteRuleOp, fun _ id => deleteRule id⟩
  | "ListResolverRules" => some ⟨listRulesOp, fun _ input => look fun s => s.listRules input⟩
  | "AssociateResolverRule" => some ⟨associateRuleOp, associateRule view⟩
  | "DisassociateResolverRule" =>
    some ⟨disassociateRuleOp, fun _ input => disassociateRule input⟩
  | "GetResolverRuleAssociation" =>
    some ⟨getAssociationOp, fun _ id => look fun s => s.association id⟩
  | "ListResolverRuleAssociations" =>
    some ⟨listAssociationsOp, fun _ input => look fun s => s.listAssociations input⟩
  | "TagResource" => some ⟨tagResourceOp, fun _ input => tagResource input⟩
  | "UntagResource" => some ⟨untagResourceOp, fun _ input => untagResource input⟩
  | "ListTagsForResource" => some ⟨listTagsOp, fun _ input => look fun s => s.listTags input⟩
  | _ => none

theorem procedures_sound (view : NetworkView) :
    Procedure.Sound (.answering view) (procedures view) operations where
  ops := by
    intro name
    simp only [procedures]
    split
    case h_20 => simp only [operations, Option.map_none]
    all_goals rfl
  does := by
    intro name p hp at_ input
    simp only [procedures] at hp
    split at hp <;> cases hp
    case h_1 => exact does_createEndpoint view at_ input
    case h_2 => exact does_look _
    case h_3 => exact does_updateEndpoint at_ input
    case h_4 => exact does_deleteEndpoint input
    case h_5 => exact does_look _
    case h_6 => exact does_look _
    case h_7 => exact does_associateAddress view at_ input
    case h_8 => exact does_disassociateAddress at_ input
    case h_9 => exact does_createRule at_ input
    case h_10 => exact does_look _
    case h_11 => exact does_deleteRule input
    case h_12 => exact does_look _
    case h_13 => exact does_associateRule view at_ input
    case h_14 => exact does_disassociateRule input
    case h_15 => exact does_look _
    case h_16 => exact does_look _
    case h_17 => exact does_tagResource input
    case h_18 => exact does_untagResource input
    case h_19 => exact does_look _
  looks := by
    intro name p hp reading at_ input s
    simp only [procedures] at hp
    split at hp <;> cases hp
    case h_2 => exact snd_exec_look s _
    case h_5 => exact snd_exec_look s _
    case h_6 => exact snd_exec_look s _
    case h_10 => exact snd_exec_look s _
    case h_12 => exact snd_exec_look s _
    case h_15 => exact snd_exec_look s _
    case h_16 => exact snd_exec_look s _
    case h_19 => exact snd_exec_look s _
    all_goals exact absurd reading (by decide)

end ControlPlane.ResolverService.InPlace
