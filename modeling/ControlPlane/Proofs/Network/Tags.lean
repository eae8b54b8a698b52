import ControlPlane.Proofs.Network.Graph
import ControlPlane.Proofs.Tag.Store

/-!
The tags of clouds, subnets and security groups. Tags are kept by id, and an id shows the kind of
what it names, so that a new resource never finds the tags of one of another kind.
-/

namespace ControlPlane.NetworkService

variable {s s' : NetworkService} {at_ : Moment} {id : String}

theorem isTaggable_iff :
    s.isTaggable id = true ↔
      s.vpcs.contains id = true ∨ s.subnets.contains id = true ∨ s.groups.contains id = true := by
  simp only [isTaggable, Bool.or_eq_true, or_assoc]

/-- Ids show the kinds of what they name, and every entry of the tag store is the id of something
that is there. -/
structure Labelled (s : NetworkService) : Prop where
  vpcs : ∀ v ∈ s.vpcs.records, Identifier.IsOfKind "vpc" v.id
  subnets : ∀ n ∈ s.subnets.records, Identifier.IsOfKind "subnet" n.id
  groups : ∀ g ∈ s.groups.records, Identifier.IsOfKind "sg" g.id
  owned : s.tags.OwnedBy fun id => s.isTaggable id = true

theorem labelled_empty (scope : Scope) : Labelled (empty scope) where
  vpcs := fun _ hv => nomatch hv
  subnets := fun _ hn => nomatch hn
  groups := fun _ hg => nomatch hg
  owned := TagStore.ownedBy_empty _

theorem Change.labelled (h : Change s s') (hl : Labelled s) : Labelled s' := by
  cases h with
  | looked => exact hl
  | vpcCreated v free numbered placeable =>
    refine { hl with vpcs := ?_, owned := hl.owned.mono ?_ }
    · intro w hw
      rcases (Registry.mem_insert_iff free).mp hw with hw | rfl
      · exact hl.vpcs w hw
      · exact numbered.isOfKind
    · intro key
      rw [isTaggable_iff, isTaggable_iff, Registry.contains_insert_iff]
      exact Or.imp_left Or.inl
  | vpcDeleted id live unused =>
    refine { hl with vpcs := ?_, owned := hl.owned.clear id ?_ }
    · exact fun w hw => hl.vpcs w (Registry.mem_remove_iff.mp hw).1
    · intro key hk other
      rw [isTaggable_iff] at hk ⊢
      exact hk.imp_left fun hv => Registry.contains_remove_iff.mpr ⟨hv, other⟩
  | subnetCreated n v cloud free numbered placeable inside apart zone available =>
    refine { hl with subnets := ?_, owned := hl.owned.mono ?_ }
    · intro m hm
      rcases (Registry.mem_insert_iff free).mp hm with hm | rfl
      · exact hl.subnets m hm
      · exact numbered.isOfKind
    · intro key
      rw [isTaggable_iff, isTaggable_iff, Registry.contains_insert_iff]
      exact Or.imp_right (Or.imp_left Or.inl)
  | subnetDeleted id live =>
    refine { hl with subnets := ?_, owned := hl.owned.clear id ?_ }
    · exact fun m hm => hl.subnets m (Registry.mem_remove_iff.mp hm).1
    · intro key hk other
      rw [isTaggable_iff] at hk ⊢
      exact hk.imp_right (Or.imp_left fun hn => Registry.contains_remove_iff.mpr ⟨hn, other⟩)
  | groupCreated g v cloud free numbered named =>
    refine { hl with groups := ?_, owned := hl.owned.mono ?_ }
    · intro h hh
      rcases (Registry.mem_insert_iff free).mp hh with hh | rfl
      · exact hl.groups h hh
      · exact numbered.isOfKind
    · intro key
      rw [isTaggable_iff, isTaggable_iff, Registry.contains_insert_iff]
      exact Or.imp_right (Or.imp_right Or.inl)
  | groupDeleted id live =>
    refine { hl with groups := ?_, owned := hl.owned.clear id ?_ }
    · exact fun h hh => hl.groups h (Registry.mem_remove_iff.mp hh).1
    · intro key hk other
      rw [isTaggable_iff] at hk ⊢
      exact hk.imp_right (Or.imp_right fun hg => Registry.contains_remove_iff.mpr ⟨hg, other⟩)
  | tagged ids tags live =>
    have owned := List.foldlRecOn ids (fun store id => store.tag id tags) hl.owned
      fun _ held id hid => held.tag (live id hid) tags
    exact { hl with owned := owned }
  | untagged ids keys live =>
    have owned := List.foldlRecOn ids (fun store id => store.untag id keys) hl.owned
      fun _ held id _ => held.untag id keys
    exact { hl with owned := owned }
  | cleared ids live =>
    have owned := List.foldlRecOn ids TagStore.clear hl.owned
      fun _ held id _ => held.clear id fun _ hk _ => hk
    exact { hl with owned := owned }

theorem labelled_run (scope : Scope) (qs : List Request) : Labelled (run scope qs) := by
  induction qs using List.reverseRecOn with
  | nil => exact labelled_empty scope
  | append_singleton qs q ih =>
    rw [run_concat]
    exact (change_after _ q).labelled ih

theorem not_contains_of_isOfKind {α : Type} [Keyed α] {r : Registry α} {kind other : String}
    (kinds : ∀ a ∈ r.records, Identifier.IsOfKind other (Keyed.key a))
    (h : Identifier.IsOfKind kind id)
    (apart : ¬(kind ++ "-").toList <+: (other ++ "-").toList ∧
      ¬(other ++ "-").toList <+: (kind ++ "-").toList) : ¬r.contains id = true := by
  intro live
  obtain ⟨a, found⟩ := Registry.contains_eq_true_iff.mp live
  obtain ⟨ha, rfl⟩ := Registry.get?_eq_some_iff.mp found
  exact h.not_isOfKind apart (kinds a ha)

theorem Labelled.not_isTaggable_of_vpc (hl : Labelled s) (free : s.vpcs.contains id = false)
    (kind : Identifier.IsOfKind "vpc" id) : ¬s.isTaggable id = true := by
  rw [isTaggable_iff]
  rintro (vpc | subnet | group)
  · exact absurd vpc (Bool.eq_false_iff.mp free)
  · exact not_contains_of_isOfKind hl.subnets kind (by decide) subnet
  · exact not_contains_of_isOfKind hl.groups kind (by decide) group

theorem Labelled.not_isTaggable_of_subnet (hl : Labelled s) (free : s.subnets.contains id = false)
    (kind : Identifier.IsOfKind "subnet" id) : ¬s.isTaggable id = true := by
  rw [isTaggable_iff]
  rintro (vpc | subnet | group)
  · exact not_contains_of_isOfKind hl.vpcs kind (by decide) vpc
  · exact absurd subnet (Bool.eq_false_iff.mp free)
  · exact not_contains_of_isOfKind hl.groups kind (by decide) group

theorem Labelled.not_isTaggable_of_group (hl : Labelled s) (free : s.groups.contains id = false)
    (kind : Identifier.IsOfKind "sg" id) : ¬s.isTaggable id = true := by
  rw [isTaggable_iff]
  rintro (vpc | subnet | group)
  · exact not_contains_of_isOfKind hl.vpcs kind (by decide) vpc
  · exact not_contains_of_isOfKind hl.subnets kind (by decide) subnet
  · exact absurd group (Bool.eq_false_iff.mp free)

/-- What holds of the tags of a network service: each entry belongs to something that is there, and
what is created has no tags to begin with. -/
structure TagsSound (s : NetworkService) : Prop where
  owned : ∀ id, s.tags.has id = true → s.isTaggable id = true
  vpc : ∀ at_ cidr v s', s.createVpc at_ cidr = .ok (v, s') →
    v ∈ s'.vpcs.records ∧ s'.tags.tags v.id = []
  subnet : ∀ at_ input n s', s.createSubnet at_ input = .ok (n, s') →
    n ∈ s'.subnets.records ∧ s'.tags.tags n.id = []
  group : ∀ at_ input g s', s.createSecurityGroup at_ input = .ok (g, s') →
    g ∈ s'.groups.records ∧ s'.tags.tags g.id = []

theorem Labelled.tagsSound (hl : Labelled s) : TagsSound s where
  owned := hl.owned
  vpc := by
    intro at_ cidr v s' h
    obtain ⟨block, -, -, rfl, rfl⟩ := createVpc_eq_ok_iff.mp h
    have free : s.vpcs.contains (s.newVpc at_ block).id = false :=
      Identifier.contains_fresh _ _ _ _
    have kind := (Identifier.isNumbered_fresh s.vpcs "vpc" idDigits at_.draws).isOfKind
    exact ⟨(Registry.mem_insert_iff free).mpr (Or.inr rfl),
      hl.owned.tags_eq_nil (hl.not_isTaggable_of_vpc free kind)⟩
  subnet := by
    intro at_ input n s' h
    obtain ⟨v, block, zone, -, -, -, rfl, rfl⟩ := createSubnet_eq_ok_iff.mp h
    have free : s.subnets.contains (s.newSubnet at_ input.vpc block zone).id = false :=
      Identifier.contains_fresh _ _ _ _
    have kind := (Identifier.isNumbered_fresh s.subnets "subnet" idDigits at_.draws).isOfKind
    exact ⟨(Registry.mem_insert_iff free).mpr (Or.inr rfl),
      hl.owned.tags_eq_nil (hl.not_isTaggable_of_subnet free kind)⟩
  group := by
    intro at_ input g s' h
    obtain ⟨-, -, rfl, rfl⟩ := createSecurityGroup_eq_ok_iff.mp h
    have free : s.groups.contains (s.newGroup at_ input).id = false :=
      Identifier.contains_fresh _ _ _ _
    have kind := (Identifier.isNumbered_fresh s.groups "sg" idDigits at_.draws).isOfKind
    exact ⟨(Registry.mem_insert_iff free).mpr (Or.inr rfl),
      hl.owned.tags_eq_nil (hl.not_isTaggable_of_group free kind)⟩

end ControlPlane.NetworkService
