import ControlPlane.Proofs.Directory.Listing
import ControlPlane.Proofs.Directory.Tags
import ControlPlane.Proofs.Tag.Limit

/-!
Directories that are tagged when they are created and directories that are tagged right afterwards.
A new directory has no tags yet and an id that can be looked up, so both ways accept the same tags
and write them into the same place.
-/

namespace ControlPlane

def DirectoryDraft.withTags (d : DirectoryDraft) (tags : List Tag) : DirectoryDraft :=
  { d with tags := tags }

theorem CreateDirectory.draft_withTags (input : CreateDirectory) (tags : List Tag) :
    { input with tags := tags }.draft = input.draft.map (·.withTags tags) := by
  rw [CreateDirectory.draft, CreateDirectory.draft]
  cases input.settings with
  | none => rfl
  | some settings => rfl

theorem CreateMicrosoftDirectory.draft_withTags (input : CreateMicrosoftDirectory)
    (tags : List Tag) : { input with tags := tags }.draft = input.draft.map (·.withTags tags) := by
  rw [CreateMicrosoftDirectory.draft, CreateMicrosoftDirectory.draft]
  cases input.settings with
  | none => rfl
  | some settings => rfl

theorem ConnectDirectory.draft_withTags (input : ConnectDirectory) (tags : List Tag) :
    { input with tags := tags }.draft = input.draft.map (·.withTags tags) := by
  rw [ConnectDirectory.draft, ConnectDirectory.draft]
  cases input.settings with
  | none => rfl
  | some settings => rfl

namespace DirectoryService

open Lookup hiding vpc subnet securityGroup

variable {views : Set NetworkView} {s s' : DirectoryService} {at_ : Moment} {id : String}
  {draft : Except DirectoryFault DirectoryDraft} {tags : List Tag}

/-- The tags that a directory without any can get. -/
def Taggable (tags : List Tag) : Prop := Tag.validate tags 0 = .ok () ∧ tags.length ≤ maxTags

theorem taggable_nil : Taggable [] := ⟨Tag.validate_nil 0, Nat.zero_le _⟩

theorem accept_withTags_iff {d : DirectoryDraft} :
    (d.withTags tags).accept = .ok () ↔
      (validate d.checks).mapError DirectoryFault.validation = .ok () ∧
        Tag.validate tags 0 = .ok () := by
  have checks : (d.withTags tags).checks = d.checks := rfl
  rw [DirectoryDraft.accept, pass_eq_ok_iff, checks, mapError_eq_ok_iff (x := Tag.validate _ _)]
  rfl

theorem succeeds_create_withTags_iff :
    Succeeds views (s.create at_ (draft.map (·.withTags tags))) (id, s') ↔
      Taggable tags ∧ ∃ t, Succeeds views (s.create at_ (draft.map (·.withTags []))) (id, t) ∧
        s' = { t with tags := t.tags.tag id tags } := by
  simp only [succeeds_create_iff, map_eq_ok_iff, register_eq_ok_iff, requireFewTags_eq_ok_iff]
  constructor
  · rintro ⟨_, subnets, ⟨d, drafted, rfl⟩, accepted, located, room, few, texts, given, named, rfl⟩
    obtain ⟨checked, valid⟩ := accept_withTags_iff.mp accepted
    have bare := accept_withTags_iff.mpr ⟨checked, taggable_nil.1⟩
    exact ⟨⟨valid, few⟩, _, ⟨_, subnets, ⟨d, drafted, rfl⟩, bare, located, room, taggable_nil.2,
      texts, given, named, rfl⟩, rfl⟩
  · rintro ⟨⟨valid, few⟩, _, ⟨_, subnets, ⟨d, drafted, rfl⟩, accepted, located, room, -, texts,
      given, named, rfl⟩, rfl⟩
    have brought := accept_withTags_iff.mpr ⟨(accept_withTags_iff.mp accepted).1, valid⟩
    exact ⟨_, subnets, ⟨d, drafted, rfl⟩, brought, located, room, few, texts, given, named, rfl⟩

theorem exists_create_at (h : Succeeds views (s.create at_ draft) (id, s')) (now : Moment) :
    ∃ other t, Succeeds views (s.create now draft) (other, t) := by
  obtain ⟨d, subnets, drafted, accepted, located, room, few, registered⟩ :=
    succeeds_create_iff.mp h
  obtain ⟨texts, given, -, -⟩ := register_eq_ok_iff.mp registered
  have again : s.register now d subnets = .ok (_, _) :=
    register_eq_ok_iff.mpr ⟨texts, given, rfl, rfl⟩
  exact ⟨_, _, succeeds_create_iff.mpr
    ⟨d, subnets, drafted, accepted, located, room, few, again⟩⟩

theorem Labelled.addTags_iff (hl : Labelled s) (fits : s.directories.size < 16 ^ idDigits)
    (h : Succeeds views (s.create at_ (draft.map (·.withTags []))) (id, s'))
    {t : DirectoryService} :
    (∃ u, s'.addTags ⟨id, tags⟩ = .ok (u, t)) ↔
      Taggable tags ∧ t = { s' with tags := s'.tags.tag id tags } := by
  obtain ⟨_, subnets, drafted, -, -, -, -, registered⟩ := succeeds_create_iff.mp h
  obtain ⟨d, -, rfl⟩ := map_eq_ok_iff.mp drafted
  obtain ⟨texts, -, rfl, rfl⟩ := register_eq_ok_iff.mp registered
  have free := Identifier.contains_fresh s.directories "d" idDigits at_.draws
  have drawn := (Identifier.isNumbered_fresh s.directories "d" idDigits at_.draws).isDrawn fits
  have checked := validate_eq_ok_iff (u := ()).mpr
    (List.forall_mem_singleton.mpr (check_of_isDrawn drawn))
  have none := TagStore.OwnedBy.tags_eq_nil hl (Bool.eq_false_iff.mp free)
  simp only [addTags_eq_ok_iff, requireDirectory_eq_ok_iff, exists_const]
  rw [TagStore.tag, if_pos (show (d.withTags []).tags = [] from rfl), none, Tag.addedCount_nil,
    List.length_nil, Nat.zero_add]
  constructor
  · rintro ⟨-, valid, few, state⟩
    exact ⟨⟨valid, few⟩, state⟩
  · rintro ⟨⟨valid, few⟩, state⟩
    exact ⟨⟨checked, Registry.contains_insert_iff.mpr (Or.inr rfl)⟩, valid, few, state⟩

end DirectoryService

end ControlPlane
