import ControlPlane.Directory.Operations
import ControlPlane.Proofs.Directory.Form
import ControlPlane.Proofs.Network.Indifferent
import ControlPlane.Proofs.Resolver.Form
import ControlPlane.Resolver.Operations

/-!
The two services that ask the network. Neither lets a failure of the network through, nor tells one
such failure from another; and both look at the form of a request before they ask anything.
-/

namespace ControlPlane

open Lookup

def DirectoryFault.codes : List String :=
  ["ValidationException", "InvalidParameterException", "ClientException",
    "DirectoryLimitExceededException", "TagLimitExceededException", "EntityDoesNotExistException",
    "EntityAlreadyExistsException", "InvalidNextTokenException"]

theorem DirectoryFault.code_mem (e : DirectoryFault) : Fault.code e ∈ codes := by
  cases e <;> simp [Fault.code, code, codes]

namespace DirectoryService

theorem indifferent_locate (vpc : String) (ids : List String) :
    Indifferent (locate vpc ids).run := by
  refine .guard ?_
  refine .run_bind (.orElseFail (indifferent_askZoneCount ids) _) fun zones => ?_
  refine .guard ?_
  refine .run_bind (.orElseFail (indifferent_askVpc vpc) _) fun _ => ?_
  refine .run_bind (.orElseFail (indifferent_askSubnets ids) _) fun subnets => ?_
  split
  · exact .throw _
  · exact .pure _

theorem indifferent_create (s : DirectoryService) (at_ : Moment)
    (draft : Except DirectoryFault DirectoryDraft) : Indifferent (s.create at_ draft).run := by
  refine .run_bind (.lift draft) fun d => ?_
  refine .run_bind (.lift d.accept) fun _ => ?_
  refine .run_bind (indifferent_locate d.vpc d.subnets) fun subnets => ?_
  refine .run_bind (.lift _) fun _ => ?_
  refine .run_bind (.lift _) fun _ => ?_
  exact .lift _

theorem operations_sealed : operations.Sealed DirectoryFault.codes := by
  refine Catalog.sealed_of_indifferent DirectoryFault.code_mem (by decide) ?_
  intro name op known s at_ input
  simp only [operations] at known
  split at known <;> cases known
  case h_1 => exact indifferent_create s at_ _
  case h_2 => exact indifferent_create s at_ _
  case h_3 => exact indifferent_create s at_ _
  all_goals exact .done _

end DirectoryService

def ResolverFault.codes : List String :=
  ["ValidationException", "InvalidParameterException", "InvalidRequestException",
    "ResourceExistsException", "LimitExceededException", "ResourceInUseException",
    "ResourceNotFoundException", "InvalidNextTokenException"]

theorem ResolverFault.code_mem (e : ResolverFault) : Fault.code e ∈ codes := by
  cases e <;> simp [Fault.code, code, codes]

namespace ResolverService

theorem indifferent_assign (taken : List (String × String)) (requests : List AddressRequest) :
    Indifferent (assign taken requests).run := by
  induction requests generalizing taken with
  | nil => exact .pure _
  | cons request rest ih =>
    refine .run_bind (.orElseFail (indifferent_askSubnet request.subnet) _) fun n => ?_
    refine .run_bind (.lift _) fun ip => ?_
    exact .run_bind (ih _) fun _ => .pure _

theorem indifferent_acceptEachGroup (ids : List String) :
    Indifferent (acceptEachGroup ids).run := by
  induction ids with
  | nil => exact .pure _
  | cons id rest ih =>
    refine .run_bind ?_ fun _ => ih
    refine .guard ?_
    exact .run_bind (.orElseFail (indifferent_askSecurityGroup id) _) fun _ => .pure _

variable (s : ResolverService) (at_ : Moment)

theorem indifferent_createEndpoint (input : CreateEndpoint) :
    Indifferent (s.createEndpoint at_ input).run := by
  refine .run_bind (.lift _) fun _ => ?_
  refine .guard ?_
  refine .guard ?_
  refine .run_bind (indifferent_assign _ _) fun assigned => ?_
  refine .run_bind (.guard (indifferent_acceptEachGroup _)) fun _ => ?_
  exact .guard (.pure _)

theorem indifferent_associateAddress (input : ChangeAddress) :
    Indifferent (s.associateAddress at_ input).run := by
  refine .run_bind (.lift _) fun e => ?_
  split
  · exact .throw _
  · refine .guard ?_
    exact .run_bind (indifferent_assign _ _) fun assigned => .pure _

theorem indifferent_associateRule (input : AssociateRule) :
    Indifferent (s.associateRule at_ input).run := by
  refine .run_bind (.lift _) fun _ => ?_
  refine .run_bind (.lift _) fun _ => ?_
  refine .run_bind (.orElseFail (indifferent_askVpc _) _) fun _ => ?_
  refine .guard ?_
  exact .guard (.pure _)

theorem operations_sealed : operations.Sealed ResolverFault.codes := by
  refine Catalog.sealed_of_indifferent ResolverFault.code_mem (by decide) ?_
  intro name op known s at_ input
  simp only [operations] at known
  split at known <;> cases known
  case h_1 => exact indifferent_createEndpoint s at_ input
  case h_7 => exact indifferent_associateAddress s at_ input
  case h_13 => exact indifferent_associateRule s at_ input
  all_goals exact .done _

end ResolverService

theorem network_failures_sealed :
    DirectoryService.operations.Sealed DirectoryFault.codes ∧
      ResolverService.operations.Sealed ResolverFault.codes :=
  ⟨DirectoryService.operations_sealed, ResolverService.operations_sealed⟩

/-- The operations that look at the form of a request first, each with what it refuses. -/
structure FormComesFirst : Prop where
  createDirectory : FormFirst DirectoryService.createDirectoryOp (fun _ => 0)
    (fun _ => CreateDirectory.rejection) DirectoryFault.OfForm
  createMicrosoft : FormFirst DirectoryService.createMicrosoftOp (fun _ => 0)
    (fun _ => CreateMicrosoftDirectory.rejection) DirectoryFault.OfForm
  connectDirectory : FormFirst DirectoryService.connectDirectoryOp (fun _ => 0)
    (fun _ => ConnectDirectory.rejection) DirectoryFault.OfForm
  createEndpoint : FormFirst ResolverService.createEndpointOp (·.quotas.tagsPerResource)
    CreateEndpoint.rejection ResolverFault.OfForm
  createRule : FormFirst ResolverService.createRuleOp (·.quotas.tagsPerResource)
    CreateRule.rejection ResolverFault.OfForm
  associateRule : FormFirst ResolverService.associateRuleOp (fun _ => 0)
    (fun _ => AssociateRule.rejection) ResolverFault.OfForm

theorem form_comes_first : FormComesFirst where
  createDirectory := DirectoryService.createDirectory_formFirst
  createMicrosoft := DirectoryService.createMicrosoft_formFirst
  connectDirectory := DirectoryService.connectDirectory_formFirst
  createEndpoint := ResolverService.createEndpoint_formFirst
  createRule := ResolverService.createRule_formFirst
  associateRule := ResolverService.associateRule_formFirst

end ControlPlane
