import ControlPlane.Proofs.Success
import ControlPlane.Proofs.Tag.Store

/-!
How many tags a resource can have. To write some tags adds at most as many as have a key that was
not there, each counted by itself, so that a list that is checked with this count stays within its
limit whatever keys repeat; and the tags of one resource change without those of any other.
-/

namespace ControlPlane

namespace Tag

theorem any_key_upsert (ts : List Tag) (t : Tag) (key : String) :
    (upsert ts t).any (·.key == key) = (ts.any (·.key == key) || t.key == key) := by
  rw [upsert]
  split
  · rename_i known
    have keys : ((fun u : Tag => u.key == key) ∘
        fun u => if u.key = t.key then ⟨u.key, t.value⟩ else u) = fun u => u.key == key := by
      funext u
      simp only [Function.comp_apply]
      split
      · rfl
      · rfl
    rw [List.any_map, keys]
    by_cases same : t.key = key
    · rw [← same, known, Bool.true_or]
    · rw [beq_eq_false_iff_ne.mpr same, Bool.or_false]
  · rw [List.any_append, List.any_cons, List.any_nil, Bool.or_false]

theorem length_upsert (ts : List Tag) (t : Tag) :
    (upsert ts t).length = ts.length + if ts.any (·.key == t.key) then 0 else 1 := by
  rw [upsert]
  split
  · rw [List.length_map, Nat.add_zero]
  · rw [List.length_append, List.length_singleton]

theorem addedCount_upsert_le (ts : List Tag) (t : Tag) (new : List Tag) :
    addedCount (upsert ts t) new ≤ addedCount ts new := by
  apply List.countP_mono_left
  intro u _ fresh
  rw [any_key_upsert, Bool.not_or, Bool.and_eq_true] at fresh
  exact fresh.1

theorem length_upsertAll_le (ts new : List Tag) :
    (upsertAll ts new).length ≤ ts.length + addedCount ts new := by
  induction new generalizing ts with
  | nil => exact Nat.le_refl _
  | cons t rest ih =>
    have later := ih (upsert ts t)
    have fewer := addedCount_upsert_le ts t rest
    have now := length_upsert ts t
    have counted : addedCount ts (t :: rest) =
        addedCount ts rest + if ts.any (·.key == t.key) then 0 else 1 := by
      rw [addedCount, List.countP_cons, ← addedCount]
      cases ts.any (·.key == t.key) <;> rfl
    calc (upsertAll ts (t :: rest)).length
        ≤ (upsert ts t).length + addedCount (upsert ts t) rest := later
      _ ≤ ts.length + addedCount ts (t :: rest) := by omega

theorem addedCount_le_length (ts new : List Tag) : addedCount ts new ≤ new.length :=
  List.countP_le_length

theorem length_le_of_validate {tags : List Tag} {limit : Nat} (h : validate tags limit = .ok ())
    (limited : limit ≠ 0) : tags.length ≤ limit := by
  have checked := validate_eq_ok_iff.mp h (countCheck tags limit)
    (List.mem_append_right _ (List.mem_singleton_self _))
  refine Nat.le_of_not_lt fun many => ?_
  rw [countCheck, Check.of, if_pos ⟨Nat.pos_of_ne_zero limited, many⟩] at checked
  cases checked

theorem validate_nil (limit : Nat) : validate [] limit = .ok () := by
  refine validate_eq_ok_iff.mpr (List.forall_mem_singleton.mpr ?_)
  exact if_neg fun h => Nat.not_lt_zero _ h.2

theorem addedCount_nil (new : List Tag) : addedCount [] new = new.length :=
  List.countP_eq_length.mpr fun _ _ => rfl

/-- Tags that pass their checks because a limit of zero is none, though they are more than zero. -/
def Slips (limit : Nat) (tags : List Tag) : Prop :=
  limit = 0 ∧ validate tags 0 = .ok () ∧ tags ≠ []

theorem length_le_iff_not_slips {tags : List Tag} {limit : Nat}
    (h : validate tags limit = .ok ()) : tags.length ≤ limit ↔ ¬Slips limit tags := by
  by_cases limited : limit = 0
  · subst limited
    simp only [Slips, h, true_and, not_not, Nat.le_zero, List.length_eq_zero_iff, ne_eq]
  · exact iff_of_true (length_le_of_validate h limited) fun slips => limited slips.1

theorem validate_iff_few_iff {tags : List Tag} {limit : Nat} :
    (validate tags limit = .ok () ↔ validate tags limit = .ok () ∧ tags.length ≤ limit) ↔
      ¬Slips limit tags := by
  by_cases valid : validate tags limit = .ok ()
  · rw [← length_le_iff_not_slips valid]
    tauto
  · refine iff_of_true (iff_of_false valid fun h => valid h.1) ?_
    rintro ⟨rfl, valid', -⟩
    exact valid valid'

end Tag

namespace TagStore

variable {s : TagStore} {key resource : String} {n : Nat}

theorem tags_clear_of_ne (s : TagStore) (other : key ≠ resource) :
    (s.clear resource).tags key = s.tags key := by
  have found : (s.clear resource).entries.find? (·.1 == key) = s.entries.find? (·.1 == key) := by
    rw [clear, List.find?_filter]
    congr 1
    funext e
    by_cases same : e.1 = key
    · simp [same, other]
    · simp [same]
  rw [tags, found, ← tags]

theorem tags_set_of_ne (s : TagStore) (other : key ≠ resource) (ts : List Tag) :
    (s.set resource ts).tags key = s.tags key := by
  rw [set]
  split
  · exact s.tags_clear_of_ne other
  · split
    · have same : ((fun e : String × List Tag => e.1 == key) ∘
          fun e => if e.1 = resource then (e.1, ts) else e) = fun e => e.1 == key :=
        funext fun e => congrArg (· == key) (fst_replaced resource ts e)
      rw [tags, tags, List.find?_map, same]
      cases found : s.entries.find? (·.1 == key) with
      | none => rfl
      | some e =>
        have named : e.1 = key := by simpa using List.find?_some found
        simp [named, other]
    · have last : List.find? (·.1 == key) [(resource, ts)] = none := by
        simp [Ne.symm other]
      rw [tags, List.find?_append, last, Option.or_none, ← tags]

theorem tags_tag_of_ne (s : TagStore) (other : key ≠ resource) (new : List Tag) :
    (s.tag resource new).tags key = s.tags key := by
  rw [tag]
  split
  · rfl
  · exact tags_set_of_ne s other _

theorem tags_untag_of_ne (s : TagStore) (other : key ≠ resource) (keys : List String) :
    (s.untag resource keys).tags key = s.tags key := by
  rw [untag]
  split
  · exact tags_set_of_ne s other _
  · rfl

theorem count_tag_le (s : TagStore) (resource : String) (new : List Tag) :
    (s.tag resource new).count resource ≤
      s.count resource + Tag.addedCount (s.tags resource) new := by
  rw [count, tags_tag]
  exact Tag.length_upsertAll_le _ new

theorem count_untag_le (s : TagStore) (resource : String) (keys : List String) :
    (s.untag resource keys).count resource ≤ s.count resource := by
  rw [count, tags_untag]
  exact List.length_filter_le _ _

def Within (n : Nat) (s : TagStore) : Prop := ∀ key, s.count key ≤ n

theorem within_empty (n : Nat) : Within n empty := fun _ => Nat.zero_le n

theorem Within.set (h : Within n s) {ts : List Tag} (few : ts.length ≤ n) :
    Within n (s.set resource ts) := by
  intro key
  rw [count]
  by_cases same : key = resource
  · rw [same, tags_set]
    exact few
  · rw [tags_set_of_ne s same]
    exact h key

theorem Within.tag (h : Within n s) {new : List Tag}
    (room : s.count resource + Tag.addedCount (s.tags resource) new ≤ n) :
    Within n (s.tag resource new) := by
  rw [TagStore.tag]
  split
  · exact h
  · exact h.set ((Tag.length_upsertAll_le _ new).trans room)

theorem Within.tagNew (h : Within n s) (none : s.tags resource = []) {new : List Tag}
    (few : new.length ≤ n) : Within n (s.tag resource new) := by
  apply h.tag
  rw [count, none, List.length_nil, Nat.zero_add]
  exact (Tag.addedCount_le_length [] new).trans few

theorem Within.untag (h : Within n s) (resource : String) (keys : List String) :
    Within n (s.untag resource keys) := by
  rw [TagStore.untag]
  split
  · exact h.set ((List.length_filter_le _ _).trans (h resource))
  · exact h

theorem Within.clear (h : Within n s) (resource : String) : Within n (s.clear resource) := by
  intro key
  rw [count]
  by_cases same : key = resource
  · rw [same, tags_eq_nil_of_not_has (not_has_clear s resource)]
    exact Nat.zero_le n
  · rw [tags_clear_of_ne s same]
    exact h key

end TagStore

end ControlPlane
