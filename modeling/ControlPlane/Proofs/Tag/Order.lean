import ControlPlane.Proofs.Tag.Limit
import Mathlib.Data.List.Nodup

/-!
The order of the tags of a resource. To write tags leaves the keys that are there where they are and
puts new ones behind them; to take some away leaves the others in their order. So of two keys that
stay, the one that comes first goes on to come first.
-/

namespace ControlPlane

section Pairs

variable {α : Type} {before after l : List α} {a b c : α}

theorem pair_sublist_iff_mem_after (distinct : (before ++ a :: after).Nodup) :
    [a, b].Sublist (before ++ a :: after) ↔ b ∈ after := by
  refine ⟨?_, ?_⟩
  · intro h
    have other : a ∉ before := fun ha =>
      (List.nodup_append.mp distinct).2.2 a ha a List.mem_cons_self rfl
    obtain ⟨front, rest, parts, left, right⟩ := List.sublist_append_iff.mp h
    cases front with
    | nil =>
      rw [List.nil_append] at parts
      rw [← parts, List.cons_sublist_cons, List.singleton_sublist] at right
      exact right
    | cons first front =>
      obtain rfl := (List.cons_eq_cons.mp parts).1
      exact absurd (left.subset List.mem_cons_self) other
  · intro hb
    have behind : [a, b].Sublist (a :: after) :=
      List.cons_sublist_cons.mpr (List.singleton_sublist.mpr hb)
    exact behind.trans (List.sublist_append_right _ _)

theorem pair_sublist_iff_mem_before (distinct : (before ++ b :: after).Nodup) :
    [a, b].Sublist (before ++ b :: after) ↔ a ∈ before := by
  have turned : (after.reverse ++ b :: before.reverse).Nodup := by
    simpa using List.nodup_reverse.mpr distinct
  rw [← List.reverse_sublist, ← List.mem_reverse, ← pair_sublist_iff_mem_after turned]
  simp

theorem not_pair_sublist_swap (distinct : l.Nodup) (h : [a, b].Sublist l) : ¬[b, a].Sublist l := by
  intro swapped
  obtain ⟨before, after, rfl⟩ := List.append_of_mem (h.subset List.mem_cons_self)
  have behind := (pair_sublist_iff_mem_after distinct).mp h
  have ahead := (pair_sublist_iff_mem_before distinct).mp swapped
  exact (List.nodup_append.mp distinct).2.2 b ahead b (List.mem_cons_of_mem _ behind) rfl

theorem pair_sublist_trans (distinct : l.Nodup) (h : [a, b].Sublist l) (h' : [b, c].Sublist l) :
    [a, c].Sublist l := by
  obtain ⟨before, after, rfl⟩ := List.append_of_mem (h'.subset List.mem_cons_self)
  have ahead := (pair_sublist_iff_mem_before distinct).mp h
  have behind := (pair_sublist_iff_mem_after distinct).mp h'
  exact (List.singleton_sublist.mpr ahead).append
    (List.singleton_sublist.mpr (List.mem_cons_of_mem _ behind))

end Pairs

namespace Tag

variable {ts new : List Tag} {a b : String}

theorem keys_upsert (ts : List Tag) (t : Tag) :
    (upsert ts t).map key =
      if t.key ∈ ts.map key then ts.map key else ts.map key ++ [t.key] := by
  have known : ts.any (·.key == t.key) = true ↔ t.key ∈ ts.map key := by simp
  rw [upsert]
  by_cases h : t.key ∈ ts.map key
  · rw [if_pos (known.mpr h), if_pos h, List.map_map]
    refine List.map_congr_left fun u _ => ?_
    simp only [Function.comp_apply]
    split
    · rfl
    · rfl
  · rw [if_neg (mt known.mp h), if_neg h, List.map_append, List.map_singleton]

theorem nodup_keys_upsertAll (h : (ts.map key).Nodup) (new : List Tag) :
    ((upsertAll ts new).map key).Nodup := by
  induction new generalizing ts with
  | nil => exact h
  | cons t rest ih =>
    refine ih ?_
    rw [keys_upsert]
    split
    · exact h
    · rename_i fresh
      rw [List.nodup_append]
      refine ⟨h, List.nodup_singleton _, ?_⟩
      intro known hk other ho same
      exact fresh (List.mem_singleton.mp ho ▸ same ▸ hk)

theorem keys_prefix_upsertAll (ts new : List Tag) : ts.map key <+: (upsertAll ts new).map key := by
  induction new generalizing ts with
  | nil => exact List.prefix_refl _
  | cons t rest ih =>
    refine List.IsPrefix.trans ?_ (ih (upsert ts t))
    rw [keys_upsert]
    split
    · exact List.prefix_refl _
    · exact List.prefix_append _ _

theorem keys_withoutKeys (ts : List Tag) (keys : List String) :
    (withoutKeys ts keys).map key = (ts.map key).filter fun k => !keys.contains k := by
  rw [withoutKeys, List.filter_map]
  rfl

end Tag

namespace TagStore

variable {s : TagStore}

def Distinct (s : TagStore) : Prop := ∀ resource, ((s.tags resource).map Tag.key).Nodup

theorem distinct_empty : Distinct empty := fun _ => List.nodup_nil

theorem Distinct.tag (h : Distinct s) (resource : String) (new : List Tag) :
    Distinct (s.tag resource new) := by
  intro other
  by_cases same : other = resource
  · rw [same, tags_tag]
    exact Tag.nodup_keys_upsertAll (h resource) new
  · rw [tags_tag_of_ne s same]
    exact h other

theorem Distinct.untag (h : Distinct s) (resource : String) (keys : List String) :
    Distinct (s.untag resource keys) := by
  intro other
  by_cases same : other = resource
  · rw [same, tags_untag, Tag.keys_withoutKeys]
    exact (h resource).filter _
  · rw [tags_untag_of_ne s same]
    exact h other

theorem Distinct.clear (h : Distinct s) (resource : String) : Distinct (s.clear resource) := by
  intro other
  by_cases same : other = resource
  · rw [same, tags_eq_nil_of_not_has (not_has_clear s resource)]
    exact List.nodup_nil
  · rw [tags_clear_of_ne s same]
    exact h other

end TagStore

end ControlPlane
