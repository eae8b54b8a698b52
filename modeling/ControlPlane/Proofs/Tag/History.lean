import ControlPlane.Proofs.Tag.Room
import Mathlib.Data.Set.Card

/-!
The tag store after any calls. A tag that was written stands until a later call takes its key from
the resource, by name or with all others. Main statement: the tags of a resource are those that
stand, each key once, where it first came since it was last taken, and with the value that came
last; and the store has an entry for exactly the resources with tags, so that all that is told of it
is told of these lists.
-/

namespace ControlPlane

namespace Entries

variable {α : Type} {k : String} {v : α} {m kvs : List (String × α)}

theorem insert_perm (fresh : k ∉ m.map Prod.fst) : (insert k v m).Perm ((k, v) :: m) := by
  induction m with
  | nil => exact List.Perm.refl _
  | cons head rest ih =>
    rw [List.map_cons, List.mem_cons, not_or] at fresh
    rw [insert]
    split
    · exact List.Perm.refl _
    · split
      · exact ((ih fresh.2).cons head).trans (List.Perm.swap _ _ _)
      · rename_i less more
        exact absurd (String.le_antisymm (String.not_lt.mp more) (String.not_lt.mp less)) fresh.1

theorem ofList_perm (distinct : (kvs.map Prod.fst).Nodup) : (ofList kvs).Perm kvs := by
  induction kvs using List.reverseRecOn with
  | nil => exact List.Perm.refl _
  | append_singleton kvs kv ih =>
    rw [List.map_append, List.nodup_append] at distinct
    have before := ih distinct.1
    have fresh : kv.1 ∉ (ofList kvs).map Prod.fst := fun known =>
      distinct.2.2 _ ((before.map Prod.fst).subset known) kv.1 (List.mem_singleton_self _) rfl
    have step : ofList (kvs ++ [kv]) = insert kv.1 kv.2 (ofList kvs) :=
      List.foldl_concat _ _ _ _
    rw [step]
    exact ((insert_perm fresh).trans (before.cons kv)).trans (List.perm_append_singleton _ _).symm

theorem get?_eq_some_iff (distinct : (m.map Prod.fst).Nodup) :
    get? k m = some v ↔ (k, v) ∈ m := by
  rw [get?, Option.map_eq_some_iff]
  constructor
  · rintro ⟨e, found, rfl⟩
    have named : e.1 = k := by simpa using List.find?_some found
    exact named ▸ List.mem_of_find?_eq_some found
  · intro there
    have some : (m.find? (·.1 == k)).isSome := List.find?_isSome.mpr ⟨_, there, beq_self_eq_true k⟩
    obtain ⟨e, found⟩ := Option.isSome_iff_exists.mp some
    have named : e.1 = k := by simpa using List.find?_some found
    have same := List.inj_on_of_nodup_map distinct (List.mem_of_find?_eq_some found) there named
    exact ⟨e, found, congrArg Prod.snd same⟩

end Entries

namespace Tag

theorem settled_append (ts new : List Tag) : settled (ts ++ new) = upsertAll (settled ts) new := by
  rw [← upsertAll_nil, ← upsertAll_nil]
  exact List.foldl_append

theorem nodup_keys_settled (ts : List Tag) : ((settled ts).map key).Nodup := by
  have none : (([] : List Tag).map key).Nodup := List.nodup_nil
  rw [← upsertAll_nil]
  exact nodup_keys_upsertAll none ts

theorem eraseDups_filter (keys : List String) (p : String → Bool) :
    (keys.filter p).eraseDups = keys.eraseDups.filter p := by
  induction keys using List.reverseRecOn with
  | nil => rfl
  | append_singleton keys k ih =>
    rw [List.filter_append, eraseDups_concat]
    by_cases kept : p k = true
    · have known : k ∈ keys.filter p ↔ k ∈ keys := by
        rw [List.mem_filter]
        exact and_iff_left kept
      rw [List.filter_cons_of_pos kept, List.filter_nil, eraseDups_concat, ih]
      simp only [known, apply_ite (List.filter p), List.filter_append, List.filter_cons_of_pos kept,
        List.filter_nil]
    · rw [List.filter_cons_of_neg kept, List.filter_nil, List.append_nil, ih]
      simp only [apply_ite (List.filter p), List.filter_append, List.filter_cons_of_neg kept,
        List.filter_nil, List.append_nil, ite_self]

theorem settled_filter (ts : List Tag) (p : String → Bool) :
    (settled ts).filter (fun t => p t.key) = settled (ts.filter fun t => p t.key) := by
  have keys : (ts.filter fun t => p t.key).map key = (ts.map key).filter p :=
    List.filter_map.symm
  rw [settled, settled, List.filter_map, keys, eraseDups_filter]
  refine List.map_congr_left fun k hk => ?_
  have kept : p k = true := (List.mem_filter.mp hk).2
  have same : (ts.filter fun t => p t.key).filter (fun t => t.key == k) =
      ts.filter fun t => t.key == k := by
    rw [List.filter_filter]
    refine List.filter_congr fun t _ => ?_
    by_cases named : t.key = k <;> simp [named, kept]
  rw [lastValue, lastValue, same]

theorem withoutKeys_upsertAll {ts new : List Tag} (distinct : (ts.map key).Nodup)
    (fresh : ∀ t ∈ new, t.key ∉ ts.map key) :
    withoutKeys (upsertAll ts new) (new.map key) = ts := by
  have old : ts.filter (fun t => !(new.map key).contains t.key) = ts := by
    rw [List.filter_eq_self]
    intro t ht
    rw [Bool.not_eq_true', Bool.eq_false_iff, Ne, List.contains_iff_mem]
    intro named
    obtain ⟨u, hu, same⟩ := List.mem_map.mp named
    exact fresh u hu (same ▸ List.mem_map_of_mem ht)
  have added : new.filter (fun t => !(new.map key).contains t.key) = [] := by
    rw [List.filter_eq_nil_iff]
    intro t ht
    simpa using ⟨t, ht, rfl⟩
  rw [upsertAll_eq_settled distinct, withoutKeys,
    settled_filter _ fun k => !(new.map key).contains k, List.filter_append, old, added,
    List.append_nil, settled_of_nodup distinct]

theorem upsertAll_ne_nil {new : List Tag} (some : new ≠ []) (ts : List Tag) :
    upsertAll ts new ≠ [] := by
  obtain ⟨t, rest, rfl⟩ := List.exists_cons_of_ne_nil some
  intro none
  have first : t.key ∈ (upsert ts t).map key := by
    rw [keys_upsert]
    split
    · assumption
    · exact List.mem_append_right _ (List.mem_singleton_self _)
  have later := (keys_prefix_upsertAll (upsert ts t) rest).subset first
  have empty : upsertAll (upsert ts t) rest = [] := none
  rw [empty] at later
  exact List.not_mem_nil later

end Tag

/-! ### Calls -/

namespace TagStore

inductive Call where
  | tag (resource : String) (new : List Tag)
  | untag (resource : String) (keys : List String)
  | clear (resource : String)

namespace Call

def resource : Call → String
  | tag resource _ => resource
  | untag resource _ => resource
  | clear resource => resource

def apply (s : TagStore) : Call → TagStore
  | tag resource new => s.tag resource new
  | untag resource keys => s.untag resource keys
  | clear resource => s.clear resource

def writes (resource : String) : Call → List Tag
  | tag other new => if other = resource then new else []
  | _ => []

def takes (resource key : String) : Call → Bool
  | tag _ _ => false
  | untag other keys => other == resource && keys.contains key
  | clear other => other == resource

theorem writes_of_ne {resource : String} {c : Call} (apart : resource ≠ c.resource) :
    c.writes resource = [] := by
  cases c with
  | tag other new => exact if_neg (Ne.symm apart)
  | _ => rfl

theorem takes_of_ne {resource : String} {c : Call} (apart : resource ≠ c.resource)
    (key : String) : c.takes resource key = false := by
  cases c with
  | tag other new => rfl
  | untag other keys =>
    have others : (other == resource) = false := beq_eq_false_iff_ne.mpr (Ne.symm apart)
    rw [takes, others, Bool.false_and]
  | clear other => exact beq_eq_false_iff_ne.mpr (Ne.symm apart)

end Call

def after (calls : List Call) : TagStore := calls.foldl Call.apply .empty

/-- The tags that calls have written for a resource and no later one has taken, in the order of the
calls. -/
def standing (resource : String) : List Call → List Tag
  | [] => []
  | c :: later =>
    (c.writes resource).filter (fun t => !later.any (·.takes resource t.key)) ++
      standing resource later

theorem standing_concat (resource : String) (calls : List Call) (c : Call) :
    standing resource (calls ++ [c]) =
      (standing resource calls).filter (fun t => !c.takes resource t.key) ++ c.writes resource := by
  induction calls with
  | nil => simp [standing]
  | cons d later ih =>
    rw [List.cons_append, standing, standing, ih, List.filter_append, List.filter_filter,
      List.append_assoc]
    congr 1
    refine List.filter_congr fun t _ => ?_
    rw [List.any_append, List.any_cons, List.any_nil, Bool.or_false, Bool.not_or, Bool.and_comm]

variable {s : TagStore} {resource other : String} {ts new : List Tag}

theorem tags_apply_of_ne (c : Call) (apart : resource ≠ c.resource) :
    (c.apply s).tags resource = s.tags resource := by
  cases c with
  | tag other new => exact tags_tag_of_ne s apart new
  | untag other keys => exact tags_untag_of_ne s apart keys
  | clear other => exact tags_clear_of_ne s apart

theorem tags_clear (s : TagStore) (resource : String) : (s.clear resource).tags resource = [] :=
  tags_eq_nil_of_not_has (not_has_clear s resource)

theorem tags_apply {written : List Tag} (c : Call) (h : s.tags resource = Tag.settled written) :
    (c.apply s).tags resource =
      Tag.settled (written.filter (fun t => !c.takes resource t.key) ++ c.writes resource) := by
  by_cases here : resource = c.resource
  · subst here
    cases c with
    | tag resource new =>
      have own : (Call.tag resource new).writes resource = new := if_pos rfl
      rw [Call.resource] at h ⊢
      simp only [Call.apply, Call.takes, own, Bool.not_false, List.filter_true]
      rw [tags_tag, h, Tag.settled_append]
    | untag resource keys =>
      rw [Call.resource] at h ⊢
      simp only [Call.apply, Call.takes, Call.writes, beq_self_eq_true, Bool.true_and,
        List.append_nil]
      rw [tags_untag, h, Tag.withoutKeys, Tag.settled_filter _ fun key => !keys.contains key]
    | clear resource =>
      rw [Call.resource]
      simp only [Call.apply, Call.takes, Call.writes, beq_self_eq_true, Bool.not_true,
        List.filter_false, List.append_nil]
      exact s.tags_clear resource
  · simp only [tags_apply_of_ne c here, Call.takes_of_ne here, Call.writes_of_ne here,
      Bool.not_false, List.filter_true, List.append_nil, h]

theorem tags_after (calls : List Call) (resource : String) :
    (after calls).tags resource = Tag.settled (standing resource calls) := by
  induction calls using List.reverseRecOn with
  | nil => rfl
  | append_singleton calls c ih =>
    rw [after, List.foldl_concat, ← after, tags_apply c ih, standing_concat]

/-- Each resource has one entry at most, and no entry is empty. -/
structure Sound (s : TagStore) : Prop where
  apart : (s.entries.map Prod.fst).Nodup
  filled : ∀ e ∈ s.entries, e.2 ≠ []

theorem has_iff_mem : s.has resource = true ↔ resource ∈ s.entries.map Prod.fst := by
  simp only [has, List.any_eq_true, List.mem_map, beq_iff_eq]

theorem sound_empty : Sound empty := ⟨List.nodup_nil, fun _ h => absurd h List.not_mem_nil⟩

theorem Sound.clear (h : Sound s) (resource : String) : Sound (s.clear resource) where
  apart := h.apart.sublist (List.filter_sublist.map _)
  filled := fun e he => h.filled e (List.mem_filter.mp he).1

theorem Sound.set (h : Sound s) (resource : String) (ts : List Tag) :
    Sound (s.set resource ts) := by
  rw [TagStore.set]
  split
  · exact h.clear resource
  · rename_i some
    split
    · have keys : (s.entries.map fun e => if e.1 = resource then (e.1, ts) else e).map Prod.fst =
          s.entries.map Prod.fst := by
        rw [List.map_map]
        exact List.map_congr_left fun e _ => fst_replaced resource ts e
      refine ⟨keys ▸ h.apart, fun e he => ?_⟩
      obtain ⟨old, there, rfl⟩ := List.mem_map.mp he
      split
      · exact some
      · exact h.filled old there
    · rename_i absent
      refine ⟨?_, fun e he => ?_⟩
      · rw [List.map_append, List.map_singleton, List.nodup_append]
        refine ⟨h.apart, List.nodup_singleton _, fun known hk new hn same => ?_⟩
        have named : known = resource := same.trans (List.mem_singleton.mp hn)
        exact absent (has_iff_mem.mpr (named ▸ hk))
      · rcases List.mem_append.mp he with old | new
        · exact h.filled e old
        · exact (List.mem_singleton.mp new) ▸ some

theorem Sound.apply (h : Sound s) (c : Call) : Sound (c.apply s) := by
  cases c with
  | tag resource new =>
    rw [Call.apply, TagStore.tag]
    split
    · exact h
    · exact h.set resource _
  | untag resource keys =>
    rw [Call.apply, TagStore.untag]
    split
    · exact h.set resource _
    · exact h
  | clear resource => exact h.clear resource

theorem sound_after (calls : List Call) : Sound (after calls) := by
  induction calls using List.reverseRecOn with
  | nil => exact sound_empty
  | append_singleton calls c ih =>
    rw [after, List.foldl_concat]
    exact ih.apply c

theorem distinct_after (calls : List Call) : Distinct (after calls) := by
  intro resource
  rw [tags_after]
  exact Tag.nodup_keys_settled _

theorem Sound.tags_of_mem (h : Sound s) {e : String × List Tag} (he : e ∈ s.entries) :
    s.tags e.1 = e.2 := by
  have found : Entries.get? e.1 s.entries = some e.2 := (Entries.get?_eq_some_iff h.apart).mpr he
  exact congrArg (Option.getD · []) found

theorem Sound.has_iff (h : Sound s) : s.has resource = true ↔ 0 < s.count resource := by
  constructor
  · intro there
    obtain ⟨e, he, rfl⟩ := List.mem_map.mp (has_iff_mem.mp there)
    rw [count, h.tags_of_mem he]
    exact List.length_pos_iff.mpr (h.filled e he)
  · intro some
    refine Bool.of_not_eq_false fun absent => ?_
    rw [count, tags_eq_nil_of_not_has absent] at some
    exact Nat.lt_irrefl 0 some

theorem Sound.size (h : Sound s) : s.size = {resource | 0 < s.count resource}.ncard := by
  have tagged : {resource | 0 < s.count resource} =
      ((s.entries.map Prod.fst).toFinset : Set String) := by
    ext resource
    rw [Set.mem_ofPred_eq, ← h.has_iff, has_iff_mem, List.coe_toFinset, Set.mem_ofPred_eq]
  rw [tagged, Set.ncard_coe_finset, List.toFinset_card_of_nodup h.apart, List.length_map]
  rfl

theorem Sound.set_tags (h : Sound s) (resource : String) :
    s.set resource (s.tags resource) = s := by
  by_cases there : s.has resource = true
  · have some : s.tags resource ≠ [] := List.length_pos_iff.mp (h.has_iff.mp there)
    have same : ∀ e ∈ s.entries,
        (if e.1 = resource then (e.1, s.tags resource) else e) = id e := by
      intro e he
      split
      · rename_i here
        rw [← here, h.tags_of_mem he, id]
      · rfl
    rw [TagStore.set, if_neg some, if_pos there, List.map_congr_left same, List.map_id]
  · have absent := Bool.eq_false_iff.mpr there
    rw [TagStore.set, if_pos (tags_eq_nil_of_not_has absent), clear_of_not_has absent]

theorem has_set (s : TagStore) (some : ts ≠ []) (resource : String) :
    (s.set resource ts).has resource = true := by
  refine Bool.of_not_eq_false fun absent => some ?_
  rw [← s.tags_set resource ts, tags_eq_nil_of_not_has absent]

theorem set_set (s : TagStore) (some : ts ≠ []) (resource : String) (new : List Tag) :
    (s.set resource ts).set resource new = s.set resource new := by
  by_cases none : new = []
  · rw [set, if_pos none, set.eq_def s resource new, if_pos none, clear_set]
  · have later : (s.set resource ts).set resource new =
        ⟨(s.set resource ts).entries.map fun e => if e.1 = resource then (e.1, new) else e⟩ := by
      rw [set, if_neg none, if_pos (s.has_set some resource)]
    rw [later, set.eq_def s resource new, if_neg none, set.eq_def s resource ts, if_neg some]
    -- The first list replaces an entry or adds one at the end; the second one then replaces it.
    split
    · rw [List.map_map]
      congr 1
      refine List.map_congr_left fun e _ => ?_
      by_cases here : e.1 = resource <;> simp [here]
    · rename_i absent
      have others : ∀ e ∈ s.entries, e.1 ≠ resource := by
        rintro e he rfl
        exact absent (has_iff_mem.mpr (List.mem_map_of_mem he))
      rw [List.map_append, map_replaced_of_absent new others, List.map_singleton]
      simp

theorem tag_append (s : TagStore) (resource : String) (xs ys : List Tag) :
    s.tag resource (xs ++ ys) = (s.tag resource xs).tag resource ys := by
  by_cases first : xs = []
  · rw [first, List.nil_append]
    rfl
  · by_cases second : ys = []
    · rw [second, List.append_nil]
      rfl
    · have both : xs ++ ys ≠ [] := List.append_ne_nil_of_left_ne_nil first ys
      have split : Tag.upsertAll (s.tags resource) (xs ++ ys) =
          Tag.upsertAll (Tag.upsertAll (s.tags resource) xs) ys := List.foldl_append
      rw [tag, if_neg both, tag.eq_def (s.tag resource xs), if_neg second, tags_tag, tag,
        if_neg first, set_set s (Tag.upsertAll_ne_nil first _), split]

theorem Sound.untag_tag (h : Sound s) (distinct : Distinct s)
    (fresh : ∀ t ∈ new, t.key ∉ (s.tags resource).map Tag.key) :
    (s.tag resource new).untag resource (new.map Tag.key) = s := by
  by_cases none : new = []
  · rw [none, tag, if_pos rfl, untag]
    split
    · have all : Tag.withoutKeys (s.tags resource) [] = s.tags resource := List.filter_true _
      rw [List.map_nil, all, h.set_tags]
    · rfl
  · have some := Tag.upsertAll_ne_nil none (s.tags resource)
    rw [tag, if_neg none, untag, if_pos (s.has_set some resource), tags_set,
      Tag.withoutKeys_upsertAll (distinct resource) fresh, set_set s some, h.set_tags]

/-! ### What is told of the store -/

/-- What is told of a store is told of the lists of its resources. -/
structure Told (s : TagStore) : Prop where
  distinct : ∀ resource, ((s.tags resource).map Tag.key).Nodup
  filled : ∀ e ∈ s.entries, e.2 ≠ []
  has_iff : ∀ resource, s.has resource = true ↔ 0 < s.count resource
  size : s.size = {resource | 0 < s.count resource}.ncard
  map_perm : ∀ resource,
    (s.tagMap resource).entries.Perm ((s.tags resource).map fun t => (t.key, t.value))
  map_get : ∀ resource key value,
    (s.tagMap resource).get? key = some value ↔ ⟨key, value⟩ ∈ s.tags resource

theorem Sound.told (h : Sound s) (distinct : Distinct s) : Told s := by
  have pairs : ∀ resource,
      (((s.tags resource).map fun t => (t.key, t.value)).map Prod.fst).Nodup := by
    intro resource
    rw [List.map_map]
    exact distinct resource
  have perm : ∀ resource,
      (s.tagMap resource).entries.Perm ((s.tags resource).map fun t => (t.key, t.value)) :=
    fun resource => Entries.ofList_perm (pairs resource)
  refine ⟨distinct, h.filled, fun _ => h.has_iff, h.size, perm, fun resource key value => ?_⟩
  have keys := ((perm resource).map Prod.fst).nodup_iff.mpr (pairs resource)
  rw [TextMap.get?, Entries.get?_eq_some_iff keys, (perm resource).mem_iff, List.mem_map]
  constructor
  · rintro ⟨t, ht, same⟩
    cases same
    exact ht
  · exact fun there => ⟨_, there, rfl⟩

theorem Sound.has_apply_of_ne (h : Sound s) (c : Call) (apart : resource ≠ c.resource) :
    (c.apply s).has resource = s.has resource := by
  rw [Bool.eq_iff_iff, (h.apply c).has_iff, h.has_iff, count, count, tags_apply_of_ne c apart]

/-- After any calls, the tags of each resource are those that stand, settled, and all that is told
of the store is told of these lists. A call leaves all other resources as they are, to write two
lists is to write one after the other, and tags under new keys can be taken back. -/
theorem tag_history_told (calls : List Call) :
    (∀ resource, (after calls).tags resource = Tag.settled (standing resource calls)) ∧
      Told (after calls) ∧
      (∀ (c : Call) (resource : String), resource ≠ c.resource →
        (c.apply (after calls)).tags resource = (after calls).tags resource ∧
          (c.apply (after calls)).has resource = (after calls).has resource) ∧
      (∀ resource xs ys, (after calls).tag resource (xs ++ ys) =
        ((after calls).tag resource xs).tag resource ys) ∧
      ∀ resource new, (∀ t ∈ new, t.key ∉ ((after calls).tags resource).map Tag.key) →
        ((after calls).tag resource new).untag resource (new.map Tag.key) = after calls := by
  have sound := sound_after calls
  have distinct := distinct_after calls
  refine ⟨tags_after calls, sound.told distinct, fun c resource apart => ?_, tag_append _,
    fun resource new fresh => sound.untag_tag distinct fresh⟩
  exact ⟨tags_apply_of_ne c apart, sound.has_apply_of_ne c apart⟩

example : (after [.tag "d-1" [⟨"a", "1"⟩, ⟨"b", "2"⟩, ⟨"a", "3"⟩], .untag "d-1" ["a"],
    .tag "d-1" [⟨"b", "4"⟩, ⟨"a", "5"⟩]]).tags "d-1" = [⟨"b", "4"⟩, ⟨"a", "5"⟩] := by decide

end TagStore

end ControlPlane
