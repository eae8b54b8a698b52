import ControlPlane.Registry
import Mathlib.Data.List.Nodup

/-!
What a registry holds after an insertion or a removal. A record under a new key goes to the end; a
record under a live key takes the place of the one that was there, and all that stands before and
after it stays. Removing a key takes away at most that one record.
-/

namespace ControlPlane.Registry

variable {α : Type} [Keyed α]

theorem eq_of_key_eq {r : Registry α} {a b : α} (ha : a ∈ r.records) (hb : b ∈ r.records)
    (h : Keyed.key a = Keyed.key b) : a = b :=
  List.inj_on_of_nodup_map r.nodup ha hb h

theorem length_keys (r : Registry α) : r.keys.length = r.size :=
  List.length_map _

theorem contains_eq_false_iff {r : Registry α} {key : String} :
    r.contains key = false ↔ ∀ a ∈ r.records, Keyed.key a ≠ key := by
  simp [contains]

theorem get?_eq_some_iff {r : Registry α} {key : String} {a : α} :
    r.get? key = some a ↔ a ∈ r.records ∧ Keyed.key a = key := by
  refine ⟨?_, ?_⟩
  · intro h
    exact ⟨mem_of_get? h, key_of_get? h⟩
  · intro ⟨ha, rfl⟩
    cases hg : r.get? (Keyed.key a) with
    | none =>
      rw [get?_eq_none_iff, contains_eq_false_iff] at hg
      exact absurd rfl (hg a ha)
    | some b => rw [eq_of_key_eq (mem_of_get? hg) ha (key_of_get? hg)]

theorem contains_eq_true_iff {r : Registry α} {key : String} :
    r.contains key = true ↔ ∃ a, r.get? key = some a := by
  simp only [contains, get?, List.any_eq_true, ← Option.isSome_iff_exists, List.find?_isSome]

theorem contains_insert_iff {r : Registry α} {a : α} {key : String} :
    (r.insert a).contains key = true ↔ r.contains key = true ∨ key = Keyed.key a := by
  rw [contains_iff, contains_iff, keys_insert]
  split
  · rename_i live
    refine ⟨Or.inl, ?_⟩
    rintro (old | rfl)
    · exact old
    · exact contains_iff.mp live
  · rw [List.mem_append, List.mem_singleton]

theorem contains_remove_iff {r : Registry α} {key other : String} :
    (r.remove key).contains other = true ↔ r.contains other = true ∧ other ≠ key := by
  rw [contains_iff, contains_iff, keys_remove, List.mem_filter, bne_iff_ne]

theorem find?_isSome_eq_false_iff {r : Registry α} {p : α → Bool} :
    (r.find? p).isSome = false ↔ ∀ a ∈ r.records, p a = false := by
  simp [find?]

theorem eq_or_mem_of_mem_insert {r : Registry α} {a b : α} (h : b ∈ (r.insert a).records) :
    b = a ∨ b ∈ r.records := by
  rw [insert] at h
  split at h
  · obtain ⟨c, hc, rfl⟩ := List.mem_map.mp h
    split
    · exact Or.inl rfl
    · exact Or.inr hc
  · rcases List.mem_append.mp h with old | new
    · exact Or.inr old
    · exact Or.inl (List.mem_singleton.mp new)

theorem forall_mem_insert {r : Registry α} {a : α} {p : α → Prop} (h : ∀ b ∈ r.records, p b)
    (new : p a) : ∀ b ∈ (r.insert a).records, p b := by
  intro b hb
  rcases eq_or_mem_of_mem_insert hb with rfl | hb
  · exact new
  · exact h b hb

theorem mem_insert_iff {r : Registry α} {a b : α} (h : r.contains (Keyed.key a) = false) :
    b ∈ (r.insert a).records ↔ b ∈ r.records ∨ b = a := by
  simp [records_insert_of_not_contains h]

theorem keys_insert_of_not_contains {r : Registry α} {a : α}
    (h : r.contains (Keyed.key a) = false) : (r.insert a).keys = r.keys ++ [Keyed.key a] := by
  rw [keys_insert, h]
  rfl

theorem keys_insert_of_get? {r : Registry α} {old new : α}
    (h : r.get? (Keyed.key new) = some old) : (r.insert new).keys = r.keys := by
  rw [keys_insert, contains_eq_true_iff.mpr ⟨old, h⟩]
  rfl

theorem size_insert {r : Registry α} {a : α} (h : r.contains (Keyed.key a) = false) :
    (r.insert a).size = r.size + 1 := by
  simp [size, records_insert_of_not_contains h]

theorem size_lt_of_insert {r : Registry α} {a : α} {n : Nat}
    (free : r.contains (Keyed.key a) = false) (fits : (r.insert a).size ≤ n) : r.size < n := by
  rw [size_insert free] at fits
  exact fits

theorem flatMap_insert {β : Type} {r : Registry α} {a : α} (f : α → List β)
    (h : r.contains (Keyed.key a) = false) :
    (r.insert a).records.flatMap f = r.records.flatMap f ++ f a := by
  rw [records_insert_of_not_contains h, List.flatMap_append, List.flatMap_singleton]

theorem nodup_map_insert {β : Type} {r : Registry α} {a : α} {f : α → β}
    (free : r.contains (Keyed.key a) = false) (new : ∀ b ∈ r.records, f b ≠ f a)
    (h : (r.records.map f).Nodup) : ((r.insert a).records.map f).Nodup := by
  rw [records_insert_of_not_contains free, List.map_append, List.nodup_append]
  refine ⟨h, List.nodup_singleton _, ?_⟩
  intro x hx y hy
  obtain ⟨b, hb, rfl⟩ := List.mem_map.mp hx
  rw [List.map_singleton, List.mem_singleton] at hy
  exact hy ▸ new b hb

theorem replaced_of_not_mem {a : α} {records : List α}
    (h : ∀ b ∈ records, Keyed.key b ≠ Keyed.key a) : replaced a records = records := by
  have same : ∀ b ∈ records, (if Keyed.key b = Keyed.key a then a else b) = id b := by
    intro b hb
    rw [if_neg (h b hb), id]
  rw [replaced, List.map_congr_left same, List.map_id]

theorem records_insert_of_get? {r : Registry α} {old new : α}
    (h : r.get? (Keyed.key new) = some old) :
    ∃ before after, r.records = before ++ old :: after ∧
      (r.insert new).records = before ++ new :: after := by
  obtain ⟨hold, hkey⟩ := get?_eq_some_iff.mp h
  have live : r.contains (Keyed.key new) = true :=
    contains_iff.mpr (hkey ▸ List.mem_map_of_mem hold)
  obtain ⟨before, after, hr⟩ := List.append_of_mem hold
  have hn := r.nodup
  rw [hr, List.map_append, List.map_cons, List.nodup_append, List.nodup_cons] at hn
  refine ⟨before, after, hr, ?_⟩
  have left : replaced new before = before := by
    apply replaced_of_not_mem
    intro b hb
    rw [← hkey]
    exact hn.2.2 _ (List.mem_map_of_mem hb) _ List.mem_cons_self
  have right : replaced new after = after := by
    apply replaced_of_not_mem
    intro b hb hbn
    exact hn.2.1.1 (List.mem_map.mpr ⟨b, hb, hbn.trans hkey.symm⟩)
  rw [records_insert_of_contains live, hr]
  simp only [replaced, List.map_append, List.map_cons, hkey, if_true]
  rw [replaced] at left right
  rw [left, right]

theorem self_mem_insert (r : Registry α) (a : α) : a ∈ (r.insert a).records := by
  cases found : r.get? (Keyed.key a) with
  | none => exact (mem_insert_iff (get?_eq_none_iff.mp found)).mpr (Or.inr rfl)
  | some old =>
    obtain ⟨before, after, -, records⟩ := records_insert_of_get? found
    rw [records]
    exact List.mem_append_right _ List.mem_cons_self

theorem get?_insert (r : Registry α) (a : α) : (r.insert a).get? (Keyed.key a) = some a :=
  get?_eq_some_iff.mpr ⟨self_mem_insert r a, rfl⟩

theorem get?_insert_of_ne {r : Registry α} {a : α} {key : String} (other : key ≠ Keyed.key a) :
    (r.insert a).get? key = r.get? key := by
  have apart : (Keyed.key a == key) = false := beq_eq_false_iff_ne.mpr (Ne.symm other)
  cases found : r.get? (Keyed.key a) with
  | none =>
    rw [get?, get?, records_insert_of_not_contains (get?_eq_none_iff.mp found), List.find?_append,
      List.find?_singleton, apart]
    simp
  | some old =>
    obtain ⟨before, after, old_records, records⟩ := records_insert_of_get? found
    have gone : (Keyed.key old == key) = false := key_of_get? found ▸ apart
    rw [get?, get?, records, old_records, List.find?_append, List.find?_append, List.find?_cons,
      List.find?_cons, apart, gone]

theorem size_insert_of_get? {r : Registry α} {old new : α}
    (h : r.get? (Keyed.key new) = some old) : (r.insert new).size = r.size := by
  obtain ⟨before, after, hr, hi⟩ := records_insert_of_get? h
  rw [size, size, hr, hi, List.length_append, List.length_append, List.length_cons,
    List.length_cons]

theorem map_insert_of_get? {β : Type} {r : Registry α} {old new : α} (f : α → β)
    (h : r.get? (Keyed.key new) = some old) (hf : f new = f old) :
    (r.insert new).records.map f = r.records.map f := by
  obtain ⟨before, after, hr, hi⟩ := records_insert_of_get? h
  rw [hr, hi, List.map_append, List.map_append, List.map_cons, List.map_cons, hf]

theorem nodup_map_replace {β : Type} {r : Registry α} {old new : α} {f : α → β}
    (h : r.get? (Keyed.key new) = some old) (fresh : ∀ b ∈ r.records, f b ≠ f new)
    (hn : (r.records.map f).Nodup) : ((r.insert new).records.map f).Nodup := by
  obtain ⟨before, after, hr, hi⟩ := records_insert_of_get? h
  rw [hr, List.map_append, List.map_cons, List.nodup_middle, List.nodup_cons] at hn
  rw [hi, List.map_append, List.map_cons, List.nodup_middle, List.nodup_cons]
  refine ⟨?_, hn.2⟩
  rw [← List.map_append, List.mem_map]
  intro ⟨b, hb, same⟩
  have live : b ∈ r.records := by
    rw [hr, List.mem_append, List.mem_cons]
    exact (List.mem_append.mp hb).imp id Or.inr
  exact fresh b live same

theorem flatMap_insert_of_get? {β : Type} {r : Registry α} {old new : α} (f : α → List β)
    (h : r.get? (Keyed.key new) = some old) :
    ∃ before after, r.records.flatMap f = before ++ f old ++ after ∧
      (r.insert new).records.flatMap f = before ++ f new ++ after := by
  obtain ⟨before, after, hr, hi⟩ := records_insert_of_get? h
  refine ⟨before.flatMap f, after.flatMap f, ?_, ?_⟩
  · rw [hr, List.flatMap_append, List.flatMap_cons, List.append_assoc]
  · rw [hi, List.flatMap_append, List.flatMap_cons, List.append_assoc]

theorem exists_mem_insert_of_get? {r : Registry α} {old new : α} {p : α → Prop}
    (h : r.get? (Keyed.key new) = some old) (hp : p old → p new) (some : ∃ a ∈ r.records, p a) :
    ∃ a ∈ (r.insert new).records, p a := by
  obtain ⟨before, after, hr, hi⟩ := records_insert_of_get? h
  obtain ⟨a, ha, hpa⟩ := some
  rw [hr, List.mem_append, List.mem_cons] at ha
  rw [hi]
  rcases ha with ha | rfl | ha
  · exact ⟨a, List.mem_append_left _ ha, hpa⟩
  · exact ⟨new, List.mem_append_right _ List.mem_cons_self, hp hpa⟩
  · exact ⟨a, List.mem_append_right _ (List.mem_cons_of_mem _ ha), hpa⟩

theorem records_remove (r : Registry α) (key : String) :
    (r.remove key).records = r.records.filter fun a => Keyed.key a != key := rfl

theorem mem_remove_iff {r : Registry α} {key : String} {a : α} :
    a ∈ (r.remove key).records ↔ a ∈ r.records ∧ Keyed.key a ≠ key := by
  simp [remove]

theorem remove_of_get?_eq_none {r : Registry α} {key : String} (h : r.get? key = none) :
    r.remove key = r := by
  apply ext
  rw [get?_eq_none_iff, contains_eq_false_iff] at h
  rw [remove, List.filter_eq_self]
  intro a ha
  exact bne_iff_ne.mpr (h a ha)

theorem records_remove_sublist (r : Registry α) (key : String) :
    (r.remove key).records.Sublist r.records :=
  List.filter_sublist

theorem records_remove_of_get? {r : Registry α} {key : String} {a : α} (h : r.get? key = some a) :
    ∃ before after, r.records = before ++ a :: after ∧
      (r.remove key).records = before ++ after := by
  obtain ⟨ha, rfl⟩ := get?_eq_some_iff.mp h
  obtain ⟨before, after, hr⟩ := List.append_of_mem ha
  have hn := r.nodup
  rw [hr, List.map_append, List.map_cons, List.nodup_middle, List.nodup_cons, ← List.map_append,
    List.mem_map] at hn
  have others : ∀ b ∈ before ++ after, (Keyed.key b != Keyed.key a) = true :=
    fun b hb => bne_iff_ne.mpr fun same => hn.1 ⟨b, hb, same⟩
  refine ⟨before, after, hr, ?_⟩
  rw [records_remove, hr, List.filter_append, List.filter_cons_of_neg (by simp),
    ← List.filter_append, List.filter_eq_self.mpr others]

theorem size_remove_le (r : Registry α) (key : String) : (r.remove key).size ≤ r.size :=
  (r.records_remove_sublist key).length_le

theorem records_prefix_remove {r : Registry α} {key : String}
    (kept : r.keys <+: (r.remove key).keys) : r.records <+: (r.remove key).records := by
  have length := kept.length_le
  rw [length_keys, length_keys] at length
  have same := (r.records_remove_sublist key).eq_of_length_le length
  exact same ▸ List.prefix_refl _

theorem records_prefix_empty {r : Registry α} (kept : r.keys <+: (empty : Registry α).keys) :
    r.records <+: (empty : Registry α).records := by
  rw [List.map_eq_nil_iff.mp (List.prefix_nil.mp kept)]
  exact List.nil_prefix

theorem nodup_map_remove {β : Type} {r : Registry α} {f : α → β} (key : String)
    (h : (r.records.map f).Nodup) : ((r.remove key).records.map f).Nodup :=
  h.sublist ((r.records_remove_sublist key).map f)

theorem get?_remove (r : Registry α) (key : String) : (r.remove key).get? key = none := by
  rw [get?_eq_none_iff, contains_eq_false_iff]
  exact fun a ha => (mem_remove_iff.mp ha).2

theorem get?_remove_of_ne {r : Registry α} {key other : String} (apart : other ≠ key) :
    (r.remove key).get? other = r.get? other := by
  refine Option.ext fun a => ?_
  rw [get?_eq_some_iff, get?_eq_some_iff, mem_remove_iff, and_assoc]
  refine and_congr_right fun _ => ⟨And.right, ?_⟩
  rintro rfl
  exact ⟨apart, rfl⟩

theorem find?_insert {r : Registry α} {a : α} {p : α → Bool}
    (h : r.contains (Keyed.key a) = false) (others : ∀ b ∈ r.records, p b = false)
    (new : p a = true) :
    (r.insert a).find? p = some a := by
  have none : r.records.find? p = none := by simpa using others
  rw [find?, records_insert_of_not_contains h, List.find?_append, none, Option.none_or,
    List.find?_cons_of_pos new]

theorem remove_insert {r : Registry α} {a : α} (h : r.contains (Keyed.key a) = false) :
    (r.insert a).remove (Keyed.key a) = r := by
  have kept := congrArg records (remove_of_get?_eq_none (get?_eq_none_iff.mpr h))
  rw [records_remove] at kept
  apply ext
  rw [records_remove, records_insert_of_not_contains h, List.filter_append, kept]
  simp

section Map

variable {β : Type} [Keyed β] {f : α → β} (same : ∀ a, Keyed.key (f a) = Keyed.key a)

/-- The registry with every record changed, and its key kept. -/
def map (r : Registry α) (f : α → β) (same : ∀ a, Keyed.key (f a) = Keyed.key a) : Registry β where
  records := r.records.map f
  nodup := by
    rw [List.map_map]
    exact (List.map_congr_left fun a _ => same a).symm ▸ r.nodup

theorem records_map (r : Registry α) : (r.map f same).records = r.records.map f := rfl

theorem keys_map (r : Registry α) : (r.map f same).keys = r.keys := by
  rw [keys, records_map, List.map_map]
  exact List.map_congr_left fun a _ => same a

theorem get?_map (r : Registry α) (key : String) :
    (r.map f same).get? key = (r.get? key).map f := by
  simp only [get?, records_map, List.find?_map, Function.comp_def, same]

theorem find?_map {p : α → Bool} {q : β → Bool} (agree : ∀ a, q (f a) = p a) (r : Registry α) :
    (r.map f same).find? q = (r.find? p).map f := by
  simp only [find?, records_map, List.find?_map, Function.comp_def, agree]

theorem count_map {p : α → Bool} {q : β → Bool} (agree : ∀ a, q (f a) = p a) (r : Registry α) :
    (r.map f same).count q = r.count p := by
  simp only [count, records_map, List.countP_map, Function.comp_def, agree]

theorem insert_map (r : Registry α) (a : α) :
    (r.insert a).map f same = (r.map f same).insert (f a) := by
  apply ext
  by_cases live : r.contains (Keyed.key a) = true
  · have there : (r.map f same).contains (Keyed.key (f a)) = true := by
      rw [contains_iff, keys_map, same, ← contains_iff]
      exact live
    rw [records_map, records_insert_of_contains live, records_insert_of_contains there, replaced,
      replaced, records_map, List.map_map, List.map_map]
    refine List.map_congr_left fun b _ => ?_
    simp only [Function.comp_apply, same, apply_ite f]
  · rw [Bool.not_eq_true] at live
    have absent : (r.map f same).contains (Keyed.key (f a)) = false := by
      rw [← get?_eq_none_iff, get?_map, same, get?_eq_none_iff.mpr live, Option.map_none]
    rw [records_map, records_insert_of_not_contains live, records_insert_of_not_contains absent,
      List.map_append, records_map, List.map_singleton]

theorem remove_map (r : Registry α) (key : String) :
    (r.remove key).map f same = (r.map f same).remove key := by
  apply ext
  simp only [records_map, records_remove, List.filter_map, Function.comp_def, same]

end Map

end ControlPlane.Registry
