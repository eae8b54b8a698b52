import ControlPlane.Tag.Store
import Mathlib.Data.List.Induction

/-!
What the tag store holds. A resource that is tagged for the first time gets the keys in the order in
which they first appear, each with the value that was given last; and as long as each change to the
store is made for a resource that is there, and the tags of one that goes are cleared, every entry
belongs to a resource that is there.
-/

namespace ControlPlane

namespace Tag

def lastValue (ts : List Tag) (key : String) : String :=
  ((ts.filter fun t => t.key == key).getLast?.map Tag.value).getD ""

/-- A list of tags without repetition: keys where they first appear, values from where they last
do. -/
def settled (ts : List Tag) : List Tag :=
  (ts.map Tag.key).eraseDups.map fun key => ⟨key, lastValue ts key⟩

theorem lastValue_concat (ts : List Tag) (t : Tag) (key : String) :
    lastValue (ts ++ [t]) key = if key = t.key then t.value else lastValue ts key := by
  by_cases h : key = t.key
  · simp [lastValue, List.filter_append, h]
  · have other : (t.key == key) = false := beq_eq_false_iff_ne.mpr (Ne.symm h)
    simp [lastValue, List.filter_append, h, other]

theorem eraseDups_concat (keys : List String) (key : String) :
    (keys ++ [key]).eraseDups =
      if key ∈ keys then keys.eraseDups else keys.eraseDups ++ [key] := by
  rw [List.eraseDups_append]
  by_cases h : key ∈ keys
  · simp [List.removeAll, h]
  · simp [List.removeAll, h, List.eraseDups_cons]

theorem upsert_settled (ts : List Tag) (t : Tag) : upsert (settled ts) t = settled (ts ++ [t]) := by
  have known : (settled ts).any (·.key == t.key) = true ↔ t.key ∈ ts.map Tag.key := by
    simp [settled]
  rw [upsert, settled, settled, List.map_append, List.map_singleton, eraseDups_concat]
  by_cases h : t.key ∈ ts.map Tag.key
  · rw [settled] at known
    rw [if_pos (known.mpr h), if_pos h, List.map_map]
    apply List.map_congr_left
    intro key _
    simp only [Function.comp_apply, lastValue_concat]
    split
    · rfl
    · rfl
  · rw [settled] at known
    rw [if_neg (mt known.mp h), if_neg h, List.map_append]
    congr 1
    · apply List.map_congr_left
      intro key hk
      have other : key ≠ t.key := fun same => h (same ▸ List.mem_eraseDups.mp hk)
      rw [lastValue_concat, if_neg other]
    · rw [List.map_singleton, lastValue_concat, if_pos rfl]

theorem upsertAll_nil (ts : List Tag) : upsertAll [] ts = settled ts := by
  induction ts using List.reverseRecOn with
  | nil => rfl
  | append_singleton ts t ih =>
    rw [upsertAll, List.foldl_append, List.foldl_cons, List.foldl_nil]
    rw [upsertAll] at ih
    rw [ih, upsert_settled]

theorem settled_of_nodup {ts : List Tag} (h : (ts.map Tag.key).Nodup) : settled ts = ts := by
  induction ts using List.reverseRecOn with
  | nil => rfl
  | append_singleton ts t ih =>
    rw [List.map_append, List.nodup_append] at h
    have fresh : ts.any (·.key == t.key) = false := by
      rw [List.any_eq_false]
      intro u hu same
      exact h.2.2 u.key (List.mem_map_of_mem hu) t.key (by simp) (beq_iff_eq.mp same)
    rw [← upsert_settled, ih h.1, upsert, fresh]
    rfl

theorem settled_ofMap (m : TextMap) : settled (ofMap m) = ofMap m := by
  apply settled_of_nodup
  rw [ofMap, List.map_map, List.Nodup, List.pairwise_map]
  apply m.ascending.imp
  intro a b lt same
  have keys : a.1 = b.1 := same
  exact String.lt_irrefl b.1 (keys ▸ lt)

end Tag

namespace TagStore

variable {s : TagStore} {key resource : String}

theorem find?_eq_none_of_not_has (h : s.has resource = false) :
    s.entries.find? (·.1 == resource) = none := by
  simpa [has] using h

theorem tags_eq_nil_of_not_has (h : s.has resource = false) : s.tags resource = [] := by
  rw [tags, find?_eq_none_of_not_has h]
  rfl

theorem has_clear_iff : (s.clear resource).has key = true ↔ s.has key = true ∧ key ≠ resource := by
  simp only [has, clear, List.any_eq_true, List.mem_filter, beq_iff_eq, bne_iff_ne]
  refine ⟨?_, ?_⟩
  · intro ⟨e, ⟨he, other⟩, same⟩
    exact ⟨⟨e, he, same⟩, same ▸ other⟩
  · intro ⟨⟨e, he, same⟩, other⟩
    exact ⟨e, ⟨he, same ▸ other⟩, same⟩

theorem fst_replaced (resource : String) (ts : List Tag) (e : String × List Tag) :
    (if e.1 = resource then (e.1, ts) else e).1 = e.1 := by
  split
  · rfl
  · rfl

theorem map_replaced_of_absent {entries : List (String × List Tag)} (ts : List Tag)
    (absent : ∀ e ∈ entries, e.1 ≠ resource) :
    (entries.map fun e => if e.1 = resource then (e.1, ts) else e) = entries := by
  have same : ∀ e ∈ entries, (if e.1 = resource then (e.1, ts) else e) = id e :=
    fun e he => if_neg (absent e he)
  rw [List.map_congr_left same, List.map_id]

theorem has_of_has_set {ts : List Tag} (h : (s.set resource ts).has key = true) :
    s.has key = true ∨ key = resource := by
  rw [set] at h
  split at h
  · exact Or.inl (has_clear_iff.mp h).1
  · split at h
    · left
      simp only [has, List.any_map] at h ⊢
      rw [← h]
      congr 1
      exact funext fun e => congrArg (· == key) (fst_replaced resource ts e).symm
    · simp only [has, List.any_append, List.any_cons, List.any_nil, Bool.or_false,
        Bool.or_eq_true, beq_iff_eq] at h ⊢
      exact h.imp id Eq.symm

theorem tags_set (s : TagStore) (resource : String) (ts : List Tag) :
    (s.set resource ts).tags resource = ts := by
  rw [set]
  split
  · rename_i empty
    rw [empty]
    apply tags_eq_nil_of_not_has
    rw [← Bool.not_eq_true, has_clear_iff]
    exact fun h => h.2 rfl
  · split
    · rename_i present
      rw [has, List.any_eq_true] at present
      obtain ⟨e, found⟩ := Option.isSome_iff_exists.mp (List.find?_isSome.mpr present)
      have key : e.1 = resource := by simpa using List.find?_some found
      have same : ((fun e : String × List Tag => e.1 == resource) ∘
          fun e => if e.1 = resource then (e.1, ts) else e) = fun e => e.1 == resource :=
        funext fun e => congrArg (· == resource) (fst_replaced resource ts e)
      rw [tags, List.find?_map, same, found]
      simp [key]
    · rename_i absent
      have none := find?_eq_none_of_not_has (Bool.eq_false_iff.mpr absent)
      simp [tags, List.find?_append, none]

theorem tags_tag (s : TagStore) (resource : String) (new : List Tag) :
    (s.tag resource new).tags resource = Tag.upsertAll (s.tags resource) new := by
  rw [tag]
  split
  · rename_i none
    rw [none]
    rfl
  · exact s.tags_set resource _

theorem tags_untag (s : TagStore) (resource : String) (keys : List String) :
    (s.untag resource keys).tags resource = Tag.withoutKeys (s.tags resource) keys := by
  rw [untag]
  split
  · exact s.tags_set resource _
  · rename_i absent
    rw [tags_eq_nil_of_not_has (Bool.eq_false_iff.mpr absent)]
    rfl

theorem tags_tag_of_not_has (h : s.has resource = false) (ts : List Tag) :
    (s.tag resource ts).tags resource = Tag.settled ts := by
  rw [tags_tag, tags_eq_nil_of_not_has h, Tag.upsertAll_nil]

theorem not_has_clear (s : TagStore) (resource : String) :
    (s.clear resource).has resource = false := by
  rw [← Bool.not_eq_true, has_clear_iff]
  exact fun h => h.2 rfl

theorem clear_of_not_has (h : s.has resource = false) : s.clear resource = s := by
  have kept : s.entries.filter (·.1 != resource) = s.entries := by
    rw [List.filter_eq_self]
    simpa [has] using h
  rw [clear, kept]

theorem clear_set (s : TagStore) (resource : String) (ts : List Tag) :
    (s.set resource ts).clear resource = s.clear resource := by
  rw [set]
  split
  · exact clear_of_not_has (not_has_clear s resource)
  · split
    · have same : ((fun e : String × List Tag => e.1 != resource) ∘
          fun e => if e.1 = resource then (e.1, ts) else e) = fun e => e.1 != resource :=
        funext fun e => congrArg (· != resource) (fst_replaced resource ts e)
      rw [clear, clear, List.filter_map, same, map_replaced_of_absent]
      exact fun e he => bne_iff_ne.mp (List.mem_filter.mp he).2
    · simp [clear]

theorem clear_tag (s : TagStore) (resource : String) (ts : List Tag) :
    (s.tag resource ts).clear resource = s.clear resource := by
  rw [tag]
  split
  · rfl
  · exact clear_set s resource _

def OwnedBy (owners : String → Prop) (s : TagStore) : Prop := ∀ key, s.has key = true → owners key

variable {owners owners' : String → Prop}

theorem ownedBy_empty (owners : String → Prop) : OwnedBy owners empty := fun _ h => nomatch h

theorem OwnedBy.mono (h : OwnedBy owners s) (more : ∀ key, owners key → owners' key) :
    OwnedBy owners' s :=
  fun key hk => more key (h key hk)

theorem OwnedBy.tag (h : OwnedBy owners s) (live : owners resource) (ts : List Tag) :
    OwnedBy owners (s.tag resource ts) := by
  intro key hk
  rw [TagStore.tag] at hk
  split at hk
  · exact h key hk
  · rcases has_of_has_set hk with old | rfl
    · exact h key old
    · exact live

theorem OwnedBy.untag (h : OwnedBy owners s) (resource : String) (keys : List String) :
    OwnedBy owners (s.untag resource keys) := by
  intro key hk
  rw [TagStore.untag] at hk
  split at hk
  · rename_i present
    rcases has_of_has_set hk with old | rfl
    · exact h key old
    · exact h key present
  · exact h key hk

theorem OwnedBy.clear (h : OwnedBy owners s) (resource : String)
    (others : ∀ key, owners key → key ≠ resource → owners' key) :
    OwnedBy owners' (s.clear resource) := by
  intro key hk
  obtain ⟨old, other⟩ := has_clear_iff.mp hk
  exact others key (h key old) other

/-- What owns no entry can be tagged as if it had never been there. -/
theorem OwnedBy.tags_tag (h : OwnedBy owners s) (fresh : ¬owners resource) (ts : List Tag) :
    (s.tag resource ts).tags resource = Tag.settled ts := by
  apply tags_tag_of_not_has
  rw [← Bool.not_eq_true]
  exact mt (h resource) fresh

theorem OwnedBy.clear_eq (h : OwnedBy owners s) (fresh : ¬owners resource) :
    s.clear resource = s := by
  apply clear_of_not_has
  rw [← Bool.not_eq_true]
  exact mt (h resource) fresh

theorem OwnedBy.tags_eq_nil (h : OwnedBy owners s) (fresh : ¬owners resource) :
    s.tags resource = [] := by
  apply tags_eq_nil_of_not_has
  rw [← Bool.not_eq_true]
  exact mt (h resource) fresh

end TagStore

end ControlPlane
