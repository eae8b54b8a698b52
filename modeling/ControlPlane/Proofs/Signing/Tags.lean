import ControlPlane.Proofs.Signing.Change
import ControlPlane.Proofs.Tag.Store
import Mathlib.Data.List.Induction

/-!
The tags of signing profiles, which are kept by the resource name of the profile, also when they are
written by the name of its version. Putting a profile starts from no tags, whatever stood there.
-/

namespace ControlPlane.SigningService

variable {s s' : SigningService} {arn : String}

def Owns (s : SigningService) (arn : String) : Prop := ∃ p ∈ s.profiles.records, p.arn = arn

/-- The resource name of a profile is that of its name, and every entry of the tag store is one of a
profile. -/
structure Labelled (s : SigningService) : Prop where
  profiles : ∀ p ∈ s.profiles.records, p.arn = s.arn p.name
  owned : s.tags.OwnedBy s.Owns

theorem labelled_empty (scope : Scope) : Labelled (empty scope) where
  profiles := fun _ hp => nomatch hp
  owned := TagStore.ownedBy_empty _

theorem Labelled.exists_mem_insert (hl : Labelled s) {new : SigningProfile}
    (h : new.arn = s.arn new.name) (old : s.Owns arn) :
    ∃ p ∈ (s.profiles.insert new).records, p.arn = arn := by
  cases found : s.profiles.get? new.name with
  | none =>
    obtain ⟨p, hp, same⟩ := old
    exact ⟨p, (Registry.mem_insert_iff (Registry.get?_eq_none_iff.mp found)).mpr (Or.inl hp), same⟩
  | some p =>
    obtain ⟨hp, name⟩ := Registry.get?_eq_some_iff.mp found
    have kept : new.arn = p.arn := by
      rw [h, hl.profiles p hp]
      exact congrArg s.arn name.symm
    exact Registry.exists_mem_insert_of_get? found (fun same => kept.trans same) old

theorem Change.labelled (h : Change s s') (hl : Labelled s) : Labelled s' := by
  cases h with
  | looked => exact hl
  | put p tags arn active valid =>
    have more : ∀ key, s.Owns key → ∃ q ∈ (s.profiles.insert p).records, q.arn = key := fun _ =>
      hl.exists_mem_insert arn
    refine ⟨?_, TagStore.OwnedBy.tag (hl.owned.clear p.arn fun key live _ => more key live) ?_ tags⟩
    · intro q hq
      rcases Registry.eq_or_mem_of_mem_insert hq with rfl | old
      · exact arn
      · exact hl.profiles q old
    · exact ⟨p, Registry.self_mem_insert _ p, rfl⟩
  | canceled p live =>
    have arn := hl.profiles p (Registry.mem_of_get? live)
    refine ⟨?_, hl.owned.mono fun key => hl.exists_mem_insert arn⟩
    intro q hq
    rcases Registry.eq_or_mem_of_mem_insert hq with rfl | old
    · exact arn
    · exact hl.profiles q old
  | tagged p tags live valid => exact { hl with owned := hl.owned.tag ⟨p, live, rfl⟩ tags }
  | untagged p keys live => exact { hl with owned := hl.owned.untag p.arn keys }

theorem labelled_run (scope : Scope) (qs : List Request) : Labelled (run scope qs) := by
  induction qs using List.reverseRecOn with
  | nil => exact labelled_empty scope
  | append_singleton qs q ih =>
    rw [run_concat]
    exact (change_after _ q).labelled ih

/-- What holds of the tags of a signing service: each entry belongs to a profile, and a profile that
is put has the tags that its request brings and no others. -/
structure TagsSound (s : SigningService) : Prop where
  owned : ∀ arn, s.tags.has arn = true → s.Owns arn
  profile : ∀ at_ input p s', s.putProfile at_ input = .ok (p, s') →
    p ∈ s'.profiles.records ∧ s'.tags.tags p.arn = Tag.settled (Tag.ofMap input.tags)

theorem Labelled.tagsSound (hl : Labelled s) : TagsSound s where
  owned := hl.owned
  profile := by
    intro at_ input p s' h
    obtain ⟨-, -, rfl, rfl⟩ := putProfile_eq_ok_iff.mp h
    exact ⟨Registry.self_mem_insert _ _, TagStore.tags_tag_of_not_has (TagStore.not_has_clear ..) _⟩

end ControlPlane.SigningService
