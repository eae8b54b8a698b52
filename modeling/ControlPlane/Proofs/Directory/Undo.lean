import ControlPlane.Proofs.Directory.Listing
import ControlPlane.Proofs.Directory.Tags

/-!
To delete a directory that has just been created gives back the service as it was, as long as there
are ids for all directories: an id that has been drawn has the form that a deletion asks for.
-/

namespace ControlPlane.DirectoryService

open DirectoryConstraint
open Lookup hiding vpc subnet securityGroup

variable {views : Set NetworkView} {s s' : DirectoryService} {at_ : Moment} {id : String}

theorem deleteDirectory_of_create {draft : Except DirectoryFault DirectoryDraft} (hl : Labelled s)
    (h : Succeeds views (s.create at_ draft) (id, s'))
    (fits : s'.directories.size ≤ 16 ^ idDigits) : s'.deleteDirectory id = .ok (id, s) := by
  obtain ⟨d, subnets, -, -, -, -, -, registered⟩ := succeeds_create_iff.mp h
  obtain ⟨texts, -, same, rfl⟩ := register_eq_ok_iff.mp registered
  have free : s.directories.contains id = false := by
    rw [same]
    exact Identifier.contains_fresh _ _ _ _
  have numbered : Identifier.IsNumbered "d" idDigits s.directories.size id := by
    rw [same]
    exact Identifier.isNumbered_fresh _ _ _ _
  have new : s.directories.contains (build d id at_.now subnets texts).id = false := free
  have drawn := numbered.isDrawn (Registry.size_lt_of_insert new fits)
  have records : (s.directories.insert (build d id at_.now subnets texts)).remove id =
      s.directories := Registry.remove_insert new
  have tags : s.tags.clear id = s.tags := TagStore.OwnedBy.clear_eq hl (Bool.eq_false_iff.mp free)
  refine deleteDirectory_eq_ok_iff.mpr ⟨?_, _, Registry.get?_insert _ _, rfl, ?_⟩
  · exact validate_eq_ok_iff.mpr (List.forall_mem_singleton.mpr (check_of_isDrawn drawn))
  · simp only [records, TagStore.clear_tag, tags]

theorem exists_undo {kind : ResourceKind} (kept : kind.service = .directory)
    {creation deletion : String} (creates : creation ∈ kind.creations)
    (deletes : deletion ∈ kind.deletions) (hl : Labelled s)
    (fits : s'.directories.size ≤ 16 ^ idDigits) {bag answer : Json}
    (served : .ok (answer, s') ∈ (operations.serve s at_ creation bag).outcomes views) :
    ∃ undo gone, kind.deletionBag? bag answer = some undo ∧
      ∀ later, operations.serve s' later deletion undo = pure (.ok (gone, s)) := by
  obtain ⟨op, input, output, hop, -, ran, rfl⟩ := Catalog.exists_of_mem_outcomes_serve served
  cases kind with
  | directory =>
    rw [List.mem_singleton.mp deletes]
    simp only [ResourceKind.creations, List.mem_cons, List.not_mem_nil, or_false] at creates
    rcases creates with rfl | rfl | rfl
    · cases hop
      exact ⟨_, _, rfl, fun later =>
        Catalog.serve_writing rfl rfl (deleteDirectory_of_create hl ran fits)⟩
    · cases hop
      exact ⟨_, _, rfl, fun later =>
        Catalog.serve_writing rfl rfl (deleteDirectory_of_create hl ran fits)⟩
    · cases hop
      exact ⟨_, _, rfl, fun later =>
        Catalog.serve_writing rfl rfl (deleteDirectory_of_create hl ran fits)⟩
  | _ => cases kept

end ControlPlane.DirectoryService
