import ControlPlane.Proofs.Directory.Change
import ControlPlane.Proofs.InPlace.Procedure

/-!
The directory service in place. The network answers while the service works; the addresses of a new
directory are found before its record and then its tags are written.
-/

namespace ControlPlane.DirectoryService.InPlace

open Program DirectoryConstraint

abbrev Task (α : Type) := Program DirectoryService DirectoryFault α

def clearTags (id : String) : Task Unit := write fun s => { s with tags := s.tags.clear id }

def validated (cs : List Check) : Task Unit := look fun _ => (validate cs).mapError .validation

def commit (at_ : Moment) (d : DirectoryDraft) (subnets : List Subnet) : Task String := do
  let addresses ← look fun s => allocate s.usedAddresses subnets
  let id ← reads fun s => (Identifier.fresh s.directories "d" idDigits at_.draws).1
  let new := build d id at_.now subnets addresses
  write fun s => { s with directories := s.directories.insert new }
  write fun s => { s with tags := s.tags.tag id d.tags }
  return id

theorem does_commit (at_ : Moment) (d : DirectoryDraft) (subnets : List Subnet) :
    Does (commit at_ d subnets) fun s => s.register at_ d subnets := by
  intro s
  refine Ends.look_bind fun addresses _ => ?_
  rfl

def create (view : NetworkView) (at_ : Moment) (draft : Except DirectoryFault DirectoryDraft) :
    Task String := do
  let d ← look fun _ => draft
  look fun _ => d.accept
  let subnets ← look fun _ => (locate d.vpc d.subnets).run.answer view
  look fun s => s.requireRoom d.type
  look fun _ => requireFewTags d.tags
  commit at_ d subnets

theorem does_create (view : NetworkView) (at_ : Moment)
    (draft : Except DirectoryFault DirectoryDraft) :
    Does (create view at_ draft) fun s => (s.create at_ draft).run.answer view := by
  intro s
  simp only [DirectoryService.create, Lookup.answer_run_bind]
  refine Ends.look_bind fun d _ => ?_
  refine Ends.look_bind fun _ _ => ?_
  refine Ends.look_bind fun subnets _ => ?_
  refine Ends.look_bind fun _ _ => ?_
  refine Ends.look_bind fun _ _ => ?_
  exact does_commit at_ d subnets s

def deleteDirectory (id : String) : Task String := do
  validated [directoryIdCheck id]
  let d ← takeOut (·.directories) (fun s directories => { s with directories := directories }) id
    (.notFound id)
  clearTags id
  return d.id

theorem does_deleteDirectory (id : String) :
    Does (deleteDirectory id) fun s => s.deleteDirectory id := by
  intro s
  refine Ends.look_bind fun _ _ => ?_
  simp only [directory]
  cases live : s.directories.get? id with
  | none => exact Ends.takeOut_missing rfl live
  | some d => exact Ends.takeOut_found live rfl

def addTags (input : AddTags) : Task Unit := do
  look fun s => s.requireDirectory input.directory
  look fun _ => (Tag.validate input.tags 0).mapError .validation
  let existing ← reads fun s => s.tags.tags input.directory
  if existing.length + Tag.addedCount existing input.tags > maxTags then throw .tagLimit
  write fun s => { s with tags := s.tags.tag input.directory input.tags }

theorem does_addTags (input : AddTags) : Does (addTags input) fun s => s.addTags input := by
  intro s
  refine Ends.look_bind fun _ _ => ?_
  refine Ends.look_bind fun _ _ => ?_
  refine Ends.reads_bind ?_
  refine Ends.guard fun _ => ?_
  rfl

def removeTags (input : RemoveTags) : Task Unit := do
  look fun s => s.requireDirectory input.directory
  write fun s => { s with tags := s.tags.untag input.directory input.keys }

theorem does_removeTags (input : RemoveTags) :
    Does (removeTags input) fun s => s.removeTags input := by
  intro s
  refine Ends.look_bind fun _ _ => ?_
  rfl

def modifyDirectory (id : String) (change : Directory → Directory) : Task Unit := do
  let d ← look fun s => s.directory id
  write fun s => { s with directories := s.directories.insert (change d) }

def createAlias (input : CreateAlias) : Task CreateAlias := do
  validated (directoryIdCheck input.directory :: aliasChecks input.aliasName)
  let d ← look fun s => s.directory input.directory
  if d.hasOwnAlias then throw .aliasPresent
  let taken ← reads fun s =>
    (s.directories.find? fun e => e.aliasName == input.aliasName).isSome
  if taken then throw (.aliasTaken input.aliasName)
  modifyDirectory input.directory fun d => d.withAlias input.aliasName
  return input

theorem does_createAlias (input : CreateAlias) :
    Does (createAlias input) fun s => s.createAlias input := by
  intro s
  refine Ends.look_bind fun _ _ => ?_
  refine Ends.look_bind fun d found => ?_
  refine Ends.guard fun _ => ?_
  refine Ends.reads_bind ?_
  refine Ends.guard fun _ => ?_
  -- the directory is looked up once more to be changed, and it is still the same
  simp only [Ends, modifyDirectory, exec_bind, exec_look, found]
  rfl

def enableSso (input : SwitchSso) : Task Unit := do
  look fun _ => acceptSwitch input
  let d ← look fun s => s.directory input.directory
  if !d.hasOwnAlias then throw (.aliasRequired input.directory)
  write fun s => { s with directories := s.directories.insert { d with ssoEnabled := true } }

theorem does_enableSso (input : SwitchSso) : Does (enableSso input) fun s => s.enableSso input := by
  intro s
  refine Ends.look_bind fun _ _ => ?_
  refine Ends.look_bind fun d _ => ?_
  refine Ends.guard fun _ => ?_
  rfl

def disableSso (input : SwitchSso) : Task Unit := do
  look fun _ => acceptSwitch input
  modifyDirectory input.directory fun d => { d with ssoEnabled := false }

theorem does_disableSso (input : SwitchSso) :
    Does (disableSso input) fun s => s.disableSso input := by
  intro s
  refine Ends.look_bind fun _ _ => ?_
  refine Ends.look_bind fun d _ => ?_
  rfl

abbrev Proc := Procedure Lookup DirectoryService DirectoryFault

def procedures (view : NetworkView) : String → Option Proc
  | "CreateDirectory" => some ⟨createDirectoryOp, fun at_ input => create view at_ input.draft⟩
  | "CreateMicrosoftAD" => some ⟨createMicrosoftOp, fun at_ input => create view at_ input.draft⟩
  | "ConnectDirectory" => some ⟨connectDirectoryOp, fun at_ input => create view at_ input.draft⟩
  | "DeleteDirectory" => some ⟨deleteDirectoryOp, fun _ id => deleteDirectory id⟩
  | "DescribeDirectories" =>
    some ⟨describeDirectoriesOp, fun _ input => look fun s => s.describeDirectories input⟩
  | "GetDirectoryLimits" => some ⟨limitsOp, fun _ _ => look fun s => .ok s.limits⟩
  | "AddTagsToResource" => some ⟨addTagsOp, fun _ input => addTags input⟩
  | "RemoveTagsFromResource" => some ⟨removeTagsOp, fun _ input => removeTags input⟩
  | "ListTagsForResource" => some ⟨listTagsOp, fun _ input => look fun s => s.listTags input⟩
  | "CreateAlias" => some ⟨createAliasOp, fun _ input => createAlias input⟩
  | "EnableSso" => some ⟨enableSsoOp, fun _ input => enableSso input⟩
  | "DisableSso" => some ⟨disableSsoOp, fun _ input => disableSso input⟩
  | _ => none

theorem procedures_sound (view : NetworkView) :
    Procedure.Sound (.answering view) (procedures view) operations where
  ops := by
    intro name
    simp only [procedures]
    split
    case h_13 => simp only [operations, Option.map_none]
    all_goals rfl
  does := by
    intro name p hp at_ input
    simp only [procedures] at hp
    split at hp <;> cases hp
    case h_1 => exact does_create view at_ _
    case h_2 => exact does_create view at_ _
    case h_3 => exact does_create view at_ _
    case h_4 => exact does_deleteDirectory input
    case h_5 => exact does_look _
    case h_6 => exact does_look fun s : DirectoryService => .ok s.limits
    case h_7 => exact does_addTags input
    case h_8 => exact does_removeTags input
    case h_9 => exact does_look _
    case h_10 => exact does_createAlias input
    case h_11 => exact does_enableSso input
    case h_12 => exact does_disableSso input
  looks := by
    intro name p hp reading at_ input s
    simp only [procedures] at hp
    split at hp <;> cases hp
    case h_5 => exact snd_exec_look s _
    case h_6 => exact snd_exec_look s _
    case h_9 => exact snd_exec_look s _
    all_goals exact absurd reading (by decide)

end ControlPlane.DirectoryService.InPlace
