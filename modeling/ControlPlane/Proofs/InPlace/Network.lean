import ControlPlane.Proofs.InPlace.Procedure
import ControlPlane.Proofs.Network.Change

/-!
The network service in place. A change of the tags of several resources goes over them twice: once
to see that all are there, and only then to write.
-/

namespace ControlPlane.NetworkService.InPlace

open Program

abbrev Task (α : Type) := Program NetworkService NetworkFault α

def clearTags (id : String) : Task Unit := write fun s => { s with tags := s.tags.clear id }

def createVpc (at_ : Moment) (cidr : String) : Task Vpc := do
  let block ← look fun _ => readBlock cidr
  if !allowedSize block then throw (.vpcRange cidr)
  let id ← reads fun s => (Identifier.fresh s.vpcs "vpc" idDigits at_.draws).1
  let owner ← reads fun s => s.scope.account
  let v : Vpc :=
    { id := id
      cidr := block
      state := "available"
      owner := owner
      isDefault := false
      createTime := at_.now }
  write fun s => { s with vpcs := s.vpcs.insert v }
  return v

theorem does_createVpc (at_ : Moment) (cidr : String) :
    Does (createVpc at_ cidr) fun s => s.createVpc at_ cidr := by
  intro s
  refine Ends.look_bind fun block _ => ?_
  refine Ends.guard fun _ => ?_
  rfl

def takeVpc (id : String) : Task Vpc :=
  takeOut (·.vpcs) (fun s vpcs => { s with vpcs := vpcs }) id (.vpcNotFound id)

def deleteVpc (id : String) : Task Unit := do
  let _ ← look fun s => s.vpc id
  let dependents ← reads fun s => s.dependents id
  if dependents > 0 then throw (.dependencyViolation id)
  let _ ← takeVpc id
  clearTags id

theorem does_deleteVpc (id : String) : Does (deleteVpc id) fun s => s.deleteVpc id := by
  intro s
  refine Ends.look_bind fun v found => ?_
  refine Ends.reads_bind ?_
  refine Ends.guard fun _ => ?_
  exact Ends.takeOut_found (vpc_eq_ok_iff.mp found) rfl

def createSubnet (at_ : Moment) (input : CreateSubnet) : Task Subnet := do
  let v ← look fun s => s.vpc input.vpc
  let block ← look fun s => s.placeBlock v input
  let zone ← look fun s => chooseZone s.scope input.zone
  let id ← reads fun s => (Identifier.fresh s.subnets "subnet" idDigits at_.draws).1
  let owner ← reads fun s => s.scope.account
  let n : Subnet :=
    { id := id
      vpc := input.vpc
      cidr := block
      zone := zone
      availableAddresses := block.size - reservedAddresses
      state := "available"
      owner := owner }
  write fun s => { s with subnets := s.subnets.insert n }
  return n

theorem does_createSubnet (at_ : Moment) (input : CreateSubnet) :
    Does (createSubnet at_ input) fun s => s.createSubnet at_ input := by
  intro s
  refine Ends.look_bind fun v _ => ?_
  refine Ends.look_bind fun block _ => ?_
  refine Ends.look_bind fun zone _ => ?_
  rfl

def deleteSubnet (id : String) : Task Unit := do
  let _ ← takeOut (·.subnets) (fun s subnets => { s with subnets := subnets }) id
    (.subnetNotFound id)
  clearTags id

theorem does_deleteSubnet (id : String) : Does (deleteSubnet id) fun s => s.deleteSubnet id := by
  intro s
  simp only [NetworkService.deleteSubnet, subnet]
  cases live : s.subnets.get? id with
  | none => exact Ends.takeOut_missing rfl live
  | some n => exact Ends.takeOut_found live rfl

def createSecurityGroup (at_ : Moment) (input : CreateSecurityGroup) : Task SecurityGroup := do
  let _ ← look fun s => s.vpc input.vpc
  let taken ← reads fun s =>
    (s.groups.find? fun g => g.vpc == input.vpc && g.name == input.name).isSome
  if taken then throw (.duplicateSecurityGroup input.name input.vpc)
  let id ← reads fun s => (Identifier.fresh s.groups "sg" idDigits at_.draws).1
  let owner ← reads fun s => s.scope.account
  let g : SecurityGroup :=
    { id := id
      name := input.name
      description := input.description
      vpc := input.vpc
      owner := owner }
  write fun s => { s with groups := s.groups.insert g }
  return g

theorem does_createSecurityGroup (at_ : Moment) (input : CreateSecurityGroup) :
    Does (createSecurityGroup at_ input) fun s => s.createSecurityGroup at_ input := by
  intro s
  refine Ends.look_bind fun v _ => ?_
  refine Ends.reads_bind ?_
  refine Ends.guard fun _ => ?_
  rfl

def deleteSecurityGroup (id : String) : Task Unit := do
  let _ ← takeOut (·.groups) (fun s groups => { s with groups := groups }) id
    (.securityGroupNotFound id)
  clearTags id

theorem does_deleteSecurityGroup (id : String) :
    Does (deleteSecurityGroup id) fun s => s.deleteSecurityGroup id := by
  intro s
  simp only [NetworkService.deleteSecurityGroup, securityGroup]
  cases live : s.groups.get? id with
  | none => exact Ends.takeOut_missing rfl live
  | some n => exact Ends.takeOut_found live rfl

def requireTaggable (id : String) : Task Unit := do
  let taggable ← reads fun s => s.isTaggable id
  if !taggable then throw (.invalidId id)

def changeTags (ids : List String) (change : TagStore → String → TagStore) : Task Unit := do
  forM ids requireTaggable
  forM ids fun id => write fun s => { s with tags := change s.tags id }

/-- The first resource that is not there ends the check of all, before anything is written. -/
theorem exec_requireAll (s : NetworkService) (ids : List String) :
    (forM ids requireTaggable).exec s =
      match ids.find? fun id => !s.isTaggable id with
      | some bad => (.error (.invalidId bad), s)
      | none => (.ok (), s) := by
  induction ids with
  | nil => rfl
  | cons id rest ih =>
    rw [List.forM_cons, exec_bind, requireTaggable, exec_bind, exec_reads, List.find?_cons]
    cases s.isTaggable id with
    | false => rfl
    | true => exact ih

theorem foldl_tags (s : NetworkService) (ids : List String)
    (change : TagStore → String → TagStore) :
    ids.foldl (fun s id => { s with tags := change s.tags id }) s =
      { s with tags := ids.foldl change s.tags } := by
  induction ids generalizing s with
  | nil => rfl
  | cons id rest ih => exact ih { s with tags := change s.tags id }

theorem does_changeTags (ids : List String) (change : TagStore → String → TagStore) :
    Does (changeTags ids change) fun s => s.changeTags ids change := by
  intro s
  simp only [Ends, changeTags, exec_bind, exec_requireAll, NetworkService.changeTags]
  cases ids.find? fun id => !s.isTaggable id with
  | some bad => rfl
  | none => simp only [exec_forM_write, foldl_tags, outcome]

def createTags (input : ResourceTags) : Task Unit :=
  changeTags input.resources fun store id => store.tag id input.tags

theorem does_createTags (input : ResourceTags) :
    Does (createTags input) fun s => s.createTags input :=
  does_changeTags _ _

def deleteTags (input : ResourceTags) : Task Unit :=
  changeTags input.resources fun store id =>
    if input.tags = [] then store.clear id else store.untag id (input.tags.map (·.key))

theorem does_deleteTags (input : ResourceTags) :
    Does (deleteTags input) fun s => s.deleteTags input :=
  does_changeTags _ _

abbrev Proc := Procedure Id NetworkService NetworkFault

def procedures : String → Option Proc
  | "CreateVpc" => some ⟨createVpcOp, createVpc⟩
  | "DescribeVpcs" => some ⟨describeVpcsOp, fun _ ids => look fun s => s.describeVpcs ids⟩
  | "DeleteVpc" => some ⟨deleteVpcOp, fun _ id => deleteVpc id⟩
  | "CreateSubnet" => some ⟨createSubnetOp, createSubnet⟩
  | "DescribeSubnets" =>
    some ⟨describeSubnetsOp, fun _ input => look fun s => s.describeSubnets input⟩
  | "DeleteSubnet" => some ⟨deleteSubnetOp, fun _ id => deleteSubnet id⟩
  | "CreateSecurityGroup" =>
    some ⟨createSecurityGroupOp, fun at_ input => return (← createSecurityGroup at_ input).id⟩
  | "DescribeSecurityGroups" =>
    some ⟨describeSecurityGroupsOp, fun _ ids => look fun s => s.describeSecurityGroups ids⟩
  | "DeleteSecurityGroup" => some ⟨deleteSecurityGroupOp, fun _ id => deleteSecurityGroup id⟩
  | "CreateTags" => some ⟨createTagsOp, fun _ input => createTags input⟩
  | "DeleteTags" => some ⟨deleteTagsOp, fun _ input => deleteTags input⟩
  | _ => none

theorem procedures_sound : Procedure.Sound .id procedures operations where
  ops := by
    intro name
    simp only [procedures]
    split
    case h_12 => simp only [operations, Option.map_none]
    all_goals rfl
  does := by
    intro name p hp at_ input
    simp only [procedures] at hp
    split at hp <;> cases hp
    case h_1 => exact does_createVpc at_ input
    case h_2 => exact does_look _
    case h_3 => exact does_deleteVpc input
    case h_4 => exact does_createSubnet at_ input
    case h_5 => exact does_look _
    case h_6 => exact does_deleteSubnet input
    case h_7 => exact (does_createSecurityGroup at_ input).map _
    case h_8 => exact does_look _
    case h_9 => exact does_deleteSecurityGroup input
    case h_10 => exact does_createTags input
    case h_11 => exact does_deleteTags input
  looks := by
    intro name p hp reading at_ input s
    simp only [procedures] at hp
    split at hp <;> cases hp
    case h_2 => exact snd_exec_look s _
    case h_5 => exact snd_exec_look s _
    case h_8 => exact snd_exec_look s _
    all_goals exact absurd reading (by decide)

end ControlPlane.NetworkService.InPlace
