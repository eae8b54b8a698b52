import ControlPlane.Proofs.Directory.Change
import ControlPlane.Proofs.Region.Note

/-!
What a request to the directory service tells is what becomes of its ids.
-/

namespace ControlPlane.DirectoryService

open Lookup hiding vpc subnet securityGroup

variable {views : Set NetworkView} {s s' : DirectoryService} {at_ : Moment}

def Noted (s s' : DirectoryService) (notes : ResourceKind → Note) : Prop :=
  s'.directories.keys = (notes .directory).apply s.directories.keys

theorem keys_of_create {draft : Except DirectoryFault DirectoryDraft} {id : String}
    (h : Succeeds views (s.create at_ draft) (id, s')) :
    s'.directories.keys = s.directories.keys ++ [id] := by
  obtain ⟨d, subnets, -, -, -, -, -, registered⟩ := succeeds_create_iff.mp h
  obtain ⟨texts, -, rfl, rfl⟩ := register_eq_ok_iff.mp registered
  exact Registry.keys_insert_of_not_contains
    (Identifier.contains_fresh s.directories "d" idDigits at_.draws)

theorem noted_of_run {name : String} {op : Op} {input : op.Input} {output : op.Output}
    (hop : operations name = some op)
    (h : .ok (output, s') ∈ (op.run s at_ input).outcomes views) (bag : Json) :
    Noted s s' fun kind => kind.note name bag (op.output.encode output) := by
  simp only [operations] at hop
  split at hop <;> cases hop
  case h_1 => exact keys_of_create h
  case h_2 => exact keys_of_create h
  case h_3 => exact keys_of_create h
  case h_4 =>
    obtain ⟨-, d, found, rfl, rfl⟩ := deleteDirectory_eq_ok_iff.mp h.symm
    have same : d.id = input := Registry.key_of_get? found
    subst same
    exact Registry.keys_remove _ _
  case h_5 => exact state_of_look h.symm ▸ rfl
  case h_6 => exact state_of_look h.symm ▸ rfl
  case h_7 =>
    obtain ⟨-, -, -, rfl⟩ := addTags_eq_ok_iff.mp h.symm
    rfl
  case h_8 =>
    obtain ⟨-, rfl⟩ := removeTags_eq_ok_iff.mp h.symm
    rfl
  case h_9 => exact state_of_look h.symm ▸ rfl
  case h_10 =>
    obtain ⟨-, d, found, -, -, -, rfl⟩ := createAlias_eq_ok_iff.mp h.symm
    exact Registry.keys_insert_of_get? (live_of_get? found).1
  case h_11 =>
    obtain ⟨-, d, found, -, rfl⟩ := enableSso_eq_ok_iff.mp h.symm
    exact Registry.keys_insert_of_get? (live_of_get? found).1
  case h_12 =>
    obtain ⟨-, d, found, rfl⟩ := disableSso_eq_ok_iff.mp h.symm
    exact Registry.keys_insert_of_get? (live_of_get? found).1

end ControlPlane.DirectoryService
