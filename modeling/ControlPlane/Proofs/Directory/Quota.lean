import ControlPlane.Proofs.Directory.Change

/-!
Directories are counted by type, and there are never more of a type than the quota allows.
-/

namespace ControlPlane.DirectoryService

variable {views : Set NetworkView} {s s' : DirectoryService} {type : DirectoryType}

def WithinQuota (s : DirectoryService) : Prop :=
  ∀ type, s.count type ≤ s.quotas.limit type

theorem withinQuota_empty (scope : Scope) (quotas : DirectoryQuotas) :
    WithinQuota (empty scope quotas) :=
  fun _ => Nat.zero_le _

theorem count_insert {d : Directory} (free : s.directories.contains d.id = false)
    (tags : TagStore) :
    count { s with directories := s.directories.insert d, tags := tags } type =
      s.count type + if d.type = type then 1 else 0 := by
  simp only [count, Registry.count, Registry.records_insert_of_not_contains free,
    List.countP_append, List.countP_singleton, beq_iff_eq]

theorem count_replace {old new : Directory} (live : s.directories.get? new.id = some old)
    (same : new.type = old.type) :
    count { s with directories := s.directories.insert new } type = s.count type := by
  obtain ⟨before, after, hr, hi⟩ := Registry.records_insert_of_get? live
  simp only [count, Registry.count, hr, hi, List.countP_append, List.countP_cons, same]

theorem count_remove_le (id : String) (tags : TagStore) :
    count { s with directories := s.directories.remove id, tags := tags } type ≤ s.count type :=
  (s.directories.records_remove_sublist id).countP_le

theorem count_remove {d : Directory} (live : s.directories.get? d.id = some d) (tags : TagStore) :
    s.count type =
      count { s with directories := s.directories.remove d.id, tags := tags } type +
        if d.type = type then 1 else 0 := by
  obtain ⟨before, after, hr, hi⟩ := Registry.records_remove_of_get? live
  simp only [count, Registry.count, hr, hi, List.countP_append, List.countP_cons, beq_iff_eq]
  omega

theorem Change.quotas_eq (h : Change views s s') : s'.quotas = s.quotas := by
  cases h <;> rfl

theorem Change.withinQuota (h : Change views s s') (hw : WithinQuota s) : WithinQuota s' := by
  intro type
  cases h with
  | created draft id now m n a b typed accepted free named located room few first second =>
    refine Nat.le_trans (Nat.le_of_eq (count_insert free _)) ?_
    change s.count type + (if draft.type = type then 1 else 0) ≤ s.quotas.limit type
    split
    · rename_i same
      exact same ▸ room
    · exact hw type
  | deleted d live => exact (count_remove_le d.id _).trans (hw type)
  | aliased d name live plain allowed new =>
    have same : count { s with directories := s.directories.insert (d.withAlias name) } type =
        s.count type := count_replace live rfl
    exact (Nat.le_of_eq same).trans (hw type)
  | ssoSwitched d enabled live named =>
    have same : (s.switchSso d enabled).count type = s.count type := count_replace live rfl
    exact (Nat.le_of_eq same).trans (hw type)
  | looked => exact hw type
  | tagged id tags live valid room => exact hw type
  | untagged id keys live => exact hw type

end ControlPlane.DirectoryService
