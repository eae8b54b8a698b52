import ControlPlane.Proofs.Delivery.Tags
import ControlPlane.Proofs.Tag.Limit

/-!
Delivery streams that are tagged when they are created and streams that are tagged right afterwards.
Both ways have the same checks, and the later one counts the tags besides, also where the quota is
zero.
-/

namespace ControlPlane.DeliveryService

variable {s s' : DeliveryService} {at_ : Moment} {input : CreateStream} {t : DeliveryStream}
  {tags : List Tag}

theorem createStream_withTags_iff :
    s.createStream at_ { input with tags := tags } = .ok (t, s') ↔
      Tag.validate tags s.quotas.tagsPerStream = .ok () ∧
        ∃ u, s.createStream at_ { input with tags := [] } = .ok (t, u) ∧
          s' = { u with tags := u.tags.tag t.arn tags } := by
  simp only [createStream_eq_ok_iff]
  constructor
  · rintro ⟨checked, free, room, source, destination, hs, hd, valid, rfl, rfl⟩
    exact ⟨valid, _, ⟨checked, free, room, source, destination, hs, hd, Tag.validate_nil _, rfl,
      rfl⟩, rfl⟩
  · rintro ⟨valid, _, ⟨checked, free, room, source, destination, hs, hd, -, rfl, rfl⟩, rfl⟩
    exact ⟨checked, free, room, source, destination, hs, hd, valid, rfl, rfl⟩

/-- Neither the time nor the draws decide on a creation. -/
theorem exists_createStream_at (h : s.createStream at_ input = .ok (t, s')) (now : Moment) :
    ∃ other u, s.createStream now input = .ok (other, u) := by
  obtain ⟨checked, free, room, source, destination, hs, hd, valid, -, -⟩ :=
    createStream_eq_ok_iff.mp h
  obtain ⟨other, hother⟩ := exists_chooseSource_iff.mpr (exists_chooseSource_iff.mp ⟨source, hs⟩)
  exact ⟨_, _, createStream_eq_ok_iff.mpr
    ⟨checked, free, room, other, destination, hother, hd, valid, rfl, rfl⟩⟩

theorem Labelled.tagStream_iff (hl : Labelled s)
    (h : s.createStream at_ { input with tags := [] } = .ok (t, s')) {u : DeliveryService} :
    (∃ o, s'.tagStream ⟨input.name, tags⟩ = .ok (o, u)) ↔
      (Tag.validate tags s.quotas.tagsPerStream = .ok () ∧
        tags.length ≤ s.quotas.tagsPerStream) ∧
          u = { s' with tags := s'.tags.tag t.arn tags } := by
  obtain ⟨-, free, -, source, destination, -, -, -, rfl, rfl⟩ := createStream_eq_ok_iff.mp h
  generalize made : s.newStream at_ { input with tags := [] } source destination = t
  have named : t.name = input.name := made ▸ rfl
  have arn : t.arn = s.arn input.name := made ▸ rfl
  have new : s.streams.contains t.name = false := by
    rw [named]
    exact free
  have found : (s.streams.insert t).get? input.name = some t := by
    rw [← named]
    exact Registry.get?_insert _ _
  have none : s.tags.tags t.arn = [] := hl.owned.tags_eq_nil (arn ▸ hl.not_owns free)
  simp only [tagStream_eq_ok_iff, exists_const, found, Option.some.injEq, exists_eq_left',
    TagStore.tag, if_true, none, Tag.addedCount_nil, List.length_nil, Nat.zero_add, and_assoc]

end ControlPlane.DeliveryService
