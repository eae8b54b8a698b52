import ControlPlane.Proofs.Delivery.Change
import ControlPlane.Proofs.Scope
import ControlPlane.Proofs.Tag.Store
import Mathlib.Data.List.Induction

/-!
The tags of delivery streams, which are kept by resource name. A stream that is made anew under an
old name has the resource name of the one before.
-/

namespace ControlPlane.DeliveryService

variable {s s' : DeliveryService} {arn : String}

def Owns (s : DeliveryService) (arn : String) : Prop := ∃ t ∈ s.streams.records, t.arn = arn

/-- Resource names tell the names of streams, and every entry of the tag store is one of a live
stream. -/
structure Labelled (s : DeliveryService) : Prop where
  streams : ∀ t ∈ s.streams.records, t.arn = s.arn t.name
  owned : s.tags.OwnedBy s.Owns

theorem labelled_empty (scope : Scope) (quotas : DeliveryQuotas) : Labelled (empty scope quotas) where
  streams := fun _ ht => nomatch ht
  owned := TagStore.ownedBy_empty _

theorem owns_of_get? {t : DeliveryStream} (live : s.streams.get? t.name = some t) : s.Owns t.arn :=
  ⟨t, Registry.mem_of_get? live, rfl⟩

theorem Change.labelled (h : Change s s') (hl : Labelled s) : Labelled s' := by
  cases h with
  | looked => exact hl
  | created t tags free room arn valid =>
    have mem : ∀ u, u ∈ (s.streams.insert t).records ↔ u ∈ s.streams.records ∨ u = t := fun u =>
      Registry.mem_insert_iff free
    refine ⟨?_, TagStore.OwnedBy.tag (hl.owned.mono ?_) ?_ tags⟩
    · intro u hu
      rcases (mem u).mp hu with hu | rfl
      · exact hl.streams u hu
      · exact arn
    · exact fun _ ⟨u, hu, same⟩ => ⟨u, (mem u).mpr (Or.inl hu), same⟩
    · exact ⟨t, (mem t).mpr (Or.inr rfl), rfl⟩
  | deleted t live =>
    refine ⟨?_, hl.owned.clear t.arn ?_⟩
    · exact fun u hu => hl.streams u (Registry.mem_remove_iff.mp hu).1
    · rintro _ ⟨u, hu, rfl⟩ other
      have apart : u.name ≠ t.name := fun same =>
        other (congrArg DeliveryStream.arn (Registry.eq_of_key_eq hu (Registry.mem_of_get? live) same))
      exact ⟨u, Registry.mem_remove_iff.mpr ⟨hu, apart⟩, rfl⟩
  | tagged t tags live valid room =>
    exact { hl with owned := hl.owned.tag (owns_of_get? live) tags }
  | untagged t keys live => exact { hl with owned := hl.owned.untag t.arn keys }

theorem labelled_run (scope : Scope) (quotas : DeliveryQuotas) (qs : List Request) :
    Labelled (run scope quotas qs) := by
  induction qs using List.reverseRecOn with
  | nil => exact labelled_empty scope quotas
  | append_singleton qs q ih =>
    rw [run_concat]
    exact (change_after _ q).labelled ih

theorem arn_injective {name other : String} (same : s.arn name = s.arn other) : name = other :=
  Text.append_right_injective _ (s.scope.arn_injective _ same)

theorem Labelled.not_owns (hl : Labelled s) {name : String}
    (free : s.streams.contains name = false) : ¬s.Owns (s.arn name) := by
  rintro ⟨t, ht, same⟩
  rw [hl.streams t ht] at same
  exact Registry.contains_eq_false_iff.mp free t ht (arn_injective same)

/-- What holds of the tags of a delivery service: each entry belongs to a live stream, and a new
stream has the tags that its request brings. -/
structure TagsSound (s : DeliveryService) : Prop where
  owned : ∀ arn, s.tags.has arn = true → s.Owns arn
  stream : ∀ at_ input t s', s.createStream at_ input = .ok (t, s') →
    t ∈ s'.streams.records ∧ s'.tags.tags t.arn = Tag.settled input.tags

theorem Labelled.tagsSound (hl : Labelled s) : TagsSound s where
  owned := hl.owned
  stream := by
    intro at_ input t s' h
    obtain ⟨-, free, -, source, destination, -, -, -, rfl, rfl⟩ := createStream_eq_ok_iff.mp h
    exact ⟨(Registry.mem_insert_iff free).mpr (Or.inr rfl),
      hl.owned.tags_tag (hl.not_owns free) input.tags⟩

end ControlPlane.DeliveryService
