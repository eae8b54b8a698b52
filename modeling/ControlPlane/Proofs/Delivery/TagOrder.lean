import ControlPlane.Proofs.Delivery.Listing
import ControlPlane.Proofs.Delivery.Tags
import ControlPlane.Proofs.Tag.Order

/-!
The tags of one delivery stream, in their order, and the pages in which they are listed. A page goes
on behind the tag whose key is given, wherever that stands now; with a key that no tag has it starts
over.
-/

namespace ControlPlane.DeliveryService

variable {s s' : DeliveryService} {name : String}

theorem Change.distinct (h : Change s s') (hd : s.tags.Distinct) : s'.tags.Distinct := by
  cases h with
  | looked => exact hd
  | created t tags free room arn valid => exact hd.tag t.arn tags
  | deleted t live => exact hd.clear t.arn
  | tagged t tags live valid room => exact hd.tag t.arn tags
  | untagged t keys live => exact hd.untag t.arn keys

/-- A request that does not delete a stream writes some tags of it, or takes some away. -/
theorem Change.tags_of_kept (h : Change s s') (hl : Labelled s) (live : name ∈ s.streams.keys)
    (kept : name ∈ s'.streams.keys) :
    (∃ new, s'.tags.tags (s.arn name) = Tag.upsertAll (s.tags.tags (s.arn name)) new) ∨
      ∃ keys, s'.tags.tags (s.arn name) = Tag.withoutKeys (s.tags.tags (s.arn name)) keys := by
  have apart : ∀ t ∈ s.streams.records, t.name ≠ name → s.arn name ≠ t.arn := by
    intro t ht other same
    rw [hl.streams t ht] at same
    exact other (arn_injective same).symm
  cases h with
  | looked => exact Or.inl ⟨[], rfl⟩
  | created t tags free room arn valid =>
    left
    refine ⟨[], s.tags.tags_tag_of_ne ?_ tags⟩
    intro same
    have named : name = t.name := arn_injective (same.trans arn)
    have absent := Bool.eq_false_iff.mp free
    exact absent (Registry.contains_iff.mpr (named ▸ live))
  | deleted t found =>
    left
    have other : name ≠ t.name :=
      (Registry.contains_remove_iff.mp (Registry.contains_iff.mpr kept)).2
    exact ⟨[], s.tags.tags_clear_of_ne (apart t (Registry.mem_of_get? found) other.symm)⟩
  | tagged t tags found valid room =>
    left
    have ht := Registry.mem_of_get? found
    by_cases same : t.name = name
    · rw [hl.streams t ht, same]
      exact ⟨tags, s.tags.tags_tag _ tags⟩
    · exact ⟨[], s.tags.tags_tag_of_ne (apart t ht same) tags⟩
  | untagged t keys found =>
    have ht := Registry.mem_of_get? found
    by_cases same : t.name = name
    · rw [hl.streams t ht, same]
      exact Or.inr ⟨keys, s.tags.tags_untag _ keys⟩
    · exact Or.inl ⟨[], s.tags.tags_untag_of_ne (apart t ht same) keys⟩

theorem tagsAfter_of_not_mem {tags : List Tag} {key : String} (absent : key ∉ tags.map Tag.key) :
    tagsAfter tags (some key) = tags := by
  have none : (tags.findIdx? fun t => t.key == key) = none := by
    rw [List.findIdx?_eq_none_iff]
    intro t ht
    exact beq_eq_false_iff_ne.mpr fun same => absent (same ▸ List.mem_map_of_mem ht)
  rw [tagsAfter, none]

theorem exists_tagsAfter {tags : List Tag} {key : String} (known : key ∈ tags.map Tag.key) :
    ∃ before t after, tags = before ++ t :: after ∧ t.key = key ∧
      tagsAfter tags (some key) = after := by
  cases found : tags.findIdx? fun t => t.key == key with
  | none =>
    rw [List.findIdx?_eq_none_iff] at found
    obtain ⟨t, ht, rfl⟩ := List.mem_map.mp known
    simpa using found t ht
  | some i =>
    obtain ⟨inside, same, -⟩ := List.findIdx?_eq_some_iff_getElem.mp found
    refine ⟨tags.take i, tags[i], tags.drop (i + 1), ?_, by simpa using same, ?_⟩
    · rw [List.getElem_cons_drop, List.take_append_drop]
    · rw [tagsAfter, found]

theorem mem_tagsAfter_iff {tags : List Tag} {start key : String}
    (distinct : (tags.map Tag.key).Nodup) (known : start ∈ tags.map Tag.key) :
    key ∈ (tagsAfter tags (some start)).map Tag.key ↔ [start, key].Sublist (tags.map Tag.key) := by
  obtain ⟨before, t, after, rfl, rfl, behind⟩ := exists_tagsAfter known
  rw [behind]
  rw [List.map_append, List.map_cons] at distinct ⊢
  exact (pair_sublist_iff_mem_after distinct).symm

theorem tagsAfter_suffix (tags : List Tag) (place : Option String) :
    tagsAfter tags place <:+ tags := by
  cases place with
  | none => exact List.suffix_refl _
  | some key =>
    rw [tagsAfter]
    split
    · exact List.drop_suffix _ _
    · exact List.suffix_refl _

theorem listTags_eq_ok_iff {input : ListStreamTags} {p : StreamTags} :
    s.listTags input = .ok p ↔
      runChecks (limitChecks input.limit greatestTagLimit) = .ok () ∧
        ∃ t, s.streams.get? input.name = some t ∧
          p = ⟨(tagsAfter (s.tags.tags t.arn) input.after).take
              (input.limit.getD s.quotas.tagsPerStream),
            input.limit.getD s.quotas.tagsPerStream <
              (tagsAfter (s.tags.tags t.arn) input.after).length⟩ := by
  rw [listTags, pass_eq_ok_iff, bind_eq_ok_iff]
  refine and_congr_right fun _ => exists_congr fun t => ?_
  rw [stream_eq_ok_iff, pure_eq_ok_iff]
  exact and_congr_right fun _ => eq_comm

end ControlPlane.DeliveryService
