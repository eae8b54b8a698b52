import ControlPlane.Proofs.Tag.Order
import ControlPlane.Proofs.Validation.Requirement
import Mathlib.Data.Finset.Card

/-!
Room for tags. A request to tag something is granted by counting entries: the tags that are there
and each entry whose key is not among them. What it writes is counted by keys. The two counts are
the same where no new key is repeated in the request, and the first is never less.
-/

namespace ControlPlane

namespace Tag

variable {ts new : List Tag} {limit : Nat}

structure IsValid (t : Tag) : Prop where
  keyLength : t.key.length ≤ 128
  keyPattern : keyPattern.accepts t.key = true
  valueLength : t.value.length ≤ 256

theorem checksAt_iff_isValid {position : Nat} {t : Tag} :
    (∀ c ∈ checksAt position t, c.broken = none) ↔ t.IsValid := by
  simp only [checksAt, Check.of, List.forall_mem_cons, List.not_mem_nil, false_imp_iff,
    implies_true, and_true, Rule.lengthAtMost, Rule.satisfies, Rule.requires_eq_none_iff,
    decide_eq_true_eq]
  constructor
  · rintro ⟨keyLength, pattern, valueLength⟩
    exact ⟨keyLength, pattern, valueLength⟩
  · exact fun valid => ⟨valid.keyLength, valid.keyPattern, valid.valueLength⟩

theorem checksFrom_iff_isValid {position : Nat} :
    (∀ c ∈ checksFrom position ts, c.broken = none) ↔ ∀ t ∈ ts, t.IsValid := by
  induction ts generalizing position with
  | nil => simp [checksFrom]
  | cons t rest ih =>
    rw [checksFrom, List.forall_mem_append, checksAt_iff_isValid, ih, List.forall_mem_cons]

theorem validate_eq_ok_iff_isValid :
    validate ts limit = .ok () ↔ (∀ t ∈ ts, t.IsValid) ∧ (limit = 0 ∨ ts.length ≤ limit) := by
  rw [validate, validate_eq_ok_iff, List.forall_mem_append, checksFrom_iff_isValid,
    List.forall_mem_singleton, countCheck, Check.of]
  refine and_congr_right fun _ => ?_
  simp only [ite_eq_right_iff, reduceCtorEq, imp_false, gt_iff_lt]
  omega

/-- The keys that are new, in the order in which they first come. -/
def newKeys (ts new : List Tag) : List String :=
  ((new.map key).removeAll (ts.map key)).eraseDups

def keyCount (ts : List Tag) : Nat := (ts.map key).toFinset.card

theorem keys_settled (ts : List Tag) : (settled ts).map key = (ts.map key).eraseDups := by
  rw [settled, List.map_map]
  exact List.map_id _

theorem eraseDups_of_nodup {keys : List String} (once : keys.Nodup) : keys.eraseDups = keys := by
  induction keys using List.reverseRecOn with
  | nil => rfl
  | append_singleton keys k ih =>
    obtain ⟨others, -, apart⟩ := List.nodup_append.mp once
    have new : k ∉ keys := fun known => apart k known k (List.mem_singleton_self k) rfl
    rw [eraseDups_concat, if_neg new, ih others]

theorem upsertAll_eq_settled (distinct : (ts.map key).Nodup) (new : List Tag) :
    upsertAll ts new = settled (ts ++ new) := by
  calc upsertAll ts new
      = upsertAll (upsertAll [] ts) new := by rw [upsertAll_nil, settled_of_nodup distinct]
    _ = upsertAll [] (ts ++ new) := List.foldl_append.symm
    _ = settled (ts ++ new) := upsertAll_nil _

theorem keys_upsertAll (distinct : (ts.map key).Nodup) (new : List Tag) :
    (upsertAll ts new).map key = ts.map key ++ newKeys ts new := by
  rw [upsertAll_eq_settled distinct, keys_settled, List.map_append, List.eraseDups_append,
    eraseDups_of_nodup distinct, newKeys]

theorem value_of_mem_upsertAll (distinct : (ts.map key).Nodup) {t : Tag}
    (ht : t ∈ upsertAll ts new) : t.value = lastValue (ts ++ new) t.key := by
  rw [upsertAll_eq_settled distinct, settled] at ht
  obtain ⟨k, -, rfl⟩ := List.mem_map.mp ht
  rfl

theorem keyCount_append (distinct : (ts.map key).Nodup) (new : List Tag) :
    keyCount (ts ++ new) = ts.length + (newKeys ts new).length := by
  have same : ((ts ++ new).map key).toFinset = (ts.map key ++ newKeys ts new).toFinset := by
    ext k
    rw [← keys_upsertAll distinct, upsertAll_eq_settled distinct, keys_settled]
    simp only [List.mem_toFinset, List.mem_eraseDups]
  have once : (ts.map key ++ newKeys ts new).Nodup := by
    rw [← keys_upsertAll distinct]
    exact nodup_keys_upsertAll distinct new
  rw [keyCount, same, List.toFinset_card_of_nodup once, List.length_append, List.length_map]

theorem length_upsertAll (distinct : (ts.map key).Nodup) (new : List Tag) :
    (upsertAll ts new).length = keyCount (ts ++ new) := by
  rw [keyCount_append distinct, ← List.length_map key, keys_upsertAll distinct, List.length_append,
    List.length_map]

theorem keyCount_append_le (distinct : (ts.map key).Nodup) (new : List Tag) :
    keyCount (ts ++ new) ≤ ts.length + addedCount ts new := by
  rw [← length_upsertAll distinct]
  exact length_upsertAll_le ts new

theorem addedCount_eq_length (ts new : List Tag) :
    addedCount ts new = ((new.map key).removeAll (ts.map key)).length := by
  rw [addedCount, List.removeAll, ← List.countP_eq_length_filter, List.countP_map]
  refine List.countP_congr fun t _ => ?_
  simp

theorem keyCount_append_of_nodup (distinct : (ts.map key).Nodup) (once : (new.map key).Nodup) :
    keyCount (ts ++ new) = ts.length + addedCount ts new := by
  have kept : ((new.map key).removeAll (ts.map key)).Nodup := once.filter _
  rw [keyCount_append distinct, newKeys, eraseDups_of_nodup kept, addedCount_eq_length]

theorem length_le_keyCount_append (once : (new.map key).Nodup) (ts : List Tag) :
    new.length ≤ keyCount (ts ++ new) := by
  rw [keyCount, ← List.length_map key, ← List.toFinset_card_of_nodup once, List.map_append]
  refine Finset.card_le_card fun k hk => ?_
  rw [List.mem_toFinset] at hk ⊢
  exact List.mem_append_right _ hk

end Tag

end ControlPlane
