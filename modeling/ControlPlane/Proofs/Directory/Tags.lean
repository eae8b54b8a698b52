import ControlPlane.Proofs.Directory.Change
import ControlPlane.Proofs.Tag.Store

/-!
The tags of directories, which are kept by id. Histories of the service alone: the network may be
another one at each question.
-/

namespace ControlPlane.DirectoryService

open Lookup hiding vpc subnet securityGroup

variable {views : Set NetworkView} {s s' : DirectoryService}

def Labelled (s : DirectoryService) : Prop :=
  s.tags.OwnedBy fun id => s.directories.contains id = true

theorem labelled_empty (scope : Scope) (quotas : DirectoryQuotas) :
    Labelled (empty scope quotas) :=
  TagStore.ownedBy_empty _

theorem Labelled.replace (hl : Labelled s) (d : Directory) :
    Labelled { s with directories := s.directories.insert d } :=
  TagStore.OwnedBy.mono hl fun _ live => Registry.contains_insert_iff.mpr (Or.inl live)

theorem Change.labelled (h : Change views s s') (hl : Labelled s) : Labelled s' := by
  cases h with
  | looked => exact hl
  | created draft id now m n a b typed accepted free named located room few first second =>
    have held := hl.replace (build draft id now [m, n] [a.text, b.text])
    exact TagStore.OwnedBy.tag held (Registry.contains_insert_iff.mpr (Or.inr rfl)) draft.tags
  | deleted d live =>
    exact TagStore.OwnedBy.clear hl d.id fun _ live other =>
      Registry.contains_remove_iff.mpr ⟨live, other⟩
  | aliased d name live plain allowed new => exact hl.replace _
  | ssoSwitched d enabled live named => exact hl.replace _
  | tagged id tags live valid room => exact TagStore.OwnedBy.tag hl live tags
  | untagged id keys live => exact TagStore.OwnedBy.untag hl id keys

/-- The service after a request whose questions meet one network after the other. -/
def after (s : DirectoryService) (q : Request × (Nat → NetworkView)) : DirectoryService :=
  match (operations.serve s q.1.at_ q.1.action q.1.bag).answerAlong q.2 with
  | .ok (_, s') => s'
  | .error _ => s

theorem change_after (s : DirectoryService) (q : Request × (Nat → NetworkView)) :
    Change Set.univ s (s.after q) := by
  have outcome := Lookup.answerAlong_mem_outcomes (fun n => Set.mem_univ (q.2 n))
    (operations.serve s q.1.at_ q.1.action q.1.bag)
  rw [after]
  split
  · rename_i j s' h
    rw [h] at outcome
    exact change_of_serve outcome
  · exact .looked

def run (scope : Scope) (quotas : DirectoryQuotas) (qs : List (Request × (Nat → NetworkView))) :
    DirectoryService :=
  qs.foldl after (empty scope quotas)

theorem run_concat (scope : Scope) (quotas : DirectoryQuotas)
    (qs : List (Request × (Nat → NetworkView))) (q : Request × (Nat → NetworkView)) :
    run scope quotas (qs ++ [q]) = (run scope quotas qs).after q := by
  rw [run, run, List.foldl_append, List.foldl_cons, List.foldl_nil]

theorem labelled_run (scope : Scope) (quotas : DirectoryQuotas)
    (qs : List (Request × (Nat → NetworkView))) : Labelled (run scope quotas qs) := by
  induction qs using List.reverseRecOn with
  | nil => exact labelled_empty scope quotas
  | append_singleton qs q ih =>
    rw [run_concat]
    exact (change_after _ q).labelled ih

theorem tags_of_createDirectory {input : CreateDirectory} {d : DirectoryDraft}
    (h : input.draft = .ok d) : d.tags = input.tags := by
  rw [CreateDirectory.draft] at h
  split at h <;> cases h
  rfl

theorem tags_of_createMicrosoft {input : CreateMicrosoftDirectory} {d : DirectoryDraft}
    (h : input.draft = .ok d) : d.tags = input.tags := by
  rw [CreateMicrosoftDirectory.draft] at h
  split at h <;> cases h
  rfl

theorem tags_of_connectDirectory {input : ConnectDirectory} {d : DirectoryDraft}
    (h : input.draft = .ok d) : d.tags = input.tags := by
  rw [ConnectDirectory.draft] at h
  split at h <;> cases h
  rfl

/-- The directory is there and has just these tags. -/
def HasTags (s : DirectoryService) (id : String) (tags : List Tag) : Prop :=
  s.directories.contains id = true ∧ s.tags.tags id = Tag.settled tags

theorem Labelled.hasTags_of_create (hl : Labelled s) {at_ : Moment}
    {draft : Except DirectoryFault DirectoryDraft} {tags : List Tag}
    (brought : ∀ d, draft = .ok d → d.tags = tags) {id : String}
    (h : Succeeds views (s.create at_ draft) (id, s')) : HasTags s' id tags := by
  obtain ⟨d, subnets, drafted, -, -, -, -, registered⟩ := succeeds_create_iff.mp h
  obtain ⟨texts, -, rfl, rfl⟩ := register_eq_ok_iff.mp registered
  have free := Identifier.contains_fresh s.directories "d" idDigits at_.draws
  rw [brought d drafted]
  exact ⟨Registry.contains_insert_iff.mpr (Or.inr rfl),
    TagStore.OwnedBy.tags_tag hl (Bool.eq_false_iff.mp free) tags⟩

/-- What holds of the tags of a directory service: each entry belongs to a live directory, and a new
one has the tags that its request brings, whatever network answers. -/
structure TagsSound (s : DirectoryService) : Prop where
  owned : ∀ id, s.tags.has id = true → s.directories.contains id = true
  simple : ∀ at_ (input : CreateDirectory) id s',
    Succeeds Set.univ (s.create at_ input.draft) (id, s') → HasTags s' id input.tags
  microsoft : ∀ at_ (input : CreateMicrosoftDirectory) id s',
    Succeeds Set.univ (s.create at_ input.draft) (id, s') → HasTags s' id input.tags
  connected : ∀ at_ (input : ConnectDirectory) id s',
    Succeeds Set.univ (s.create at_ input.draft) (id, s') → HasTags s' id input.tags

theorem Labelled.tagsSound (hl : Labelled s) : TagsSound s where
  owned := hl
  simple := fun _ _ _ _ => hl.hasTags_of_create fun _ => tags_of_createDirectory
  microsoft := fun _ _ _ _ => hl.hasTags_of_create fun _ => tags_of_createMicrosoft
  connected := fun _ _ _ _ => hl.hasTags_of_create fun _ => tags_of_connectDirectory

end ControlPlane.DirectoryService
