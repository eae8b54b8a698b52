import ControlPlane.Proofs.Directory.Record
import ControlPlane.Proofs.Region.Run

/-!
Directories in the history of a region. Main statement: the record of every live directory is well
formed, its place and its addresses are those that the network had for it when it was created, and
no directory goes by the name or the id of another.
-/

namespace ControlPlane.Region

variable {scope : Scope} {quotas : Quotas} {r r' : Region}

theorem Change.recorded (h : Change r r') (hc : r.network.Consistent)
    (same : r.network.scope = scope) (hr : DirectoryService.Recorded scope r.directory) :
    DirectoryService.Recorded scope r'.directory := by
  subst same
  rcases h.directory_change with change | empty
  · exact change.recorded hc hr
  · rw [empty]
    exact DirectoryService.recorded_empty _ _

theorem recorded (scope : Scope) (quotas : Quotas) (steps : List Step) :
    DirectoryService.Recorded scope (run scope quotas steps).directory := by
  induction steps using List.reverseRecOn with
  | nil => exact DirectoryService.recorded_empty _ _
  | append_singleton steps step ih =>
    rw [run_concat]
    exact (change_after _ step).recorded (network_consistent scope quotas steps)
      (network_scope scope quotas steps) ih

/-- Some step gave out the id, took the place and the addresses from the network as it was then, and
the directory has kept them ever since. -/
def CreatedOn (scope : Scope) (quotas : Quotas) (steps : List Step) (d : Directory) : Prop :=
  ∃ before step since, steps = before ++ step :: since ∧
    (run scope quotas before).directory.directories.contains d.id = false ∧
    (∀ part, part <+: since →
      (run scope quotas (before ++ step :: part)).directory.Keeps d) ∧
    ∃ p, d.place? = some p ∧
      DirectoryService.PlacedOn (run scope quotas before).network p d.occupied

theorem Change.placedOn_of_not_keeps (h : Change r r') {d : Directory}
    (now : r'.directory.Keeps d) (before : ¬r.directory.Keeps d) :
    r.directory.directories.contains d.id = false ∧
      ∃ p, d.place? = some p ∧ DirectoryService.PlacedOn r.network p d.occupied := by
  rcases h.directory_change with change | empty
  · exact change.placedOn_of_not_keeps now before
  · rw [empty] at now
    obtain ⟨e, he, -⟩ := now
    cases he

theorem createdOn_of_mem {steps : List Step} {d : Directory}
    (hd : d ∈ (run scope quotas steps).directory.directories.records) :
    CreatedOn scope quotas steps d := by
  have start : ¬(new scope quotas).directory.Keeps d := fun ⟨_, he, _⟩ => nomatch he
  obtain ⟨before, step, since, rfl, absent, kept⟩ :=
    exists_onset (fun r => r.directory.Keeps d) start ⟨d, hd, rfl, rfl, rfl⟩
  have created := kept [] List.nil_prefix
  rw [run_concat] at created
  obtain ⟨free, placed⟩ := (change_after _ step).placedOn_of_not_keeps created absent
  exact ⟨before, step, since, rfl, free, kept, placed⟩

structure DirectoriesSound (scope : Scope) (quotas : Quotas) (steps : List Step)
    (s : DirectoryService) : Prop where
  formed : ∀ d ∈ s.directories.records, DirectoryService.WellFormed scope d
  created : ∀ d ∈ s.directories.records, CreatedOn scope quotas steps d
  aliases : (s.directories.records.map Directory.aliasName).Nodup
  ids : ∀ d ∈ s.directories.records, ∀ e ∈ s.directories.records, d ≠ e → d.aliasName ≠ e.id

/-- In every region that steps lead to, directories have well-formed records, places and addresses
from the network at their creation, and names that are all different. -/
theorem directory_records_sound (scope : Scope) (quotas : Quotas) (steps : List Step) :
    DirectoriesSound scope quotas steps (run scope quotas steps).directory where
  formed := (recorded scope quotas steps).formed
  created := fun _ hd => createdOn_of_mem hd
  aliases := (recorded scope quotas steps).aliases
  ids := by
    intro d hd e he other
    have kept := recorded scope quotas steps
    have known : d.id ≠ e.id := fun same => other (Registry.eq_of_key_eq hd he same)
    exact kept.aliasName_ne_id hd (kept.kind e he) known

end ControlPlane.Region
