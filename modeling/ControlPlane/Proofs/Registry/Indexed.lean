import ControlPlane.Proofs.Identifier
import ControlPlane.Proofs.Registry

/-!
A registry in two parts: the records by their keys in a hash map, which has no order, and the keys
in order. Some questions are answered from the one, some from the other, and each call writes to
them one after the other. Main statement: whatever is called in whatever order, the answers are
those of the registry that is one list, and the two parts never drift apart.
-/

namespace ControlPlane.Registry

variable {α : Type} [Keyed α]

structure Indexed (α : Type) where
  store : Std.HashMap String α
  order : List String

namespace Indexed

def empty : Indexed α := ⟨∅, []⟩

def insert (s : Indexed α) (a : α) : Indexed α where
  store := s.store.insert (Keyed.key a) a
  order := if s.store[Keyed.key a]?.isNone then s.order ++ [Keyed.key a] else s.order

def get? (s : Indexed α) (key : String) : Option α := s.store[key]?

def revise (s : Indexed α) (key : String) (change : α → α) : Indexed α :=
  { s with store := s.store.modify key change }

def remove (s : Indexed α) (key : String) : Indexed α :=
  if s.store[key]?.isNone then s else ⟨s.store.erase key, s.order.filter (· != key)⟩

def contains (s : Indexed α) (key : String) : Bool := s.store.contains key

def iter (s : Indexed α) : List α := s.order.filterMap fun key => s.store[key]?

def list (s : Indexed α) (p : α → Bool) : List α := s.iter.filter p

def find? (s : Indexed α) (p : α → Bool) : Option α := s.iter.find? p

/-- Counts the records as they lie in the map. -/
def count (s : Indexed α) (p : α → Bool) : Nat := s.store.toList.countP fun e => p e.2

def size (s : Indexed α) : Nat := s.store.size

def isEmpty (s : Indexed α) : Bool := s.store.isEmpty

end Indexed

/-! ### Candidates -/

/-- Candidates without end, some of which may be live. -/
structure Search where
  live : String → Bool
  make : Nat → String

namespace Search

/-- Tries candidates one after the other, from the one at a position on, until one is not live, and
counts how many it took. There is no value if all of them are live. -/
def tried (c : Search) (n : Nat) : Option (String × Nat) :=
  if c.live (c.make n) then c |>.tried (n + 1) else some (c.make n, n + 1)
partial_fixpoint

def IsFirst (c : Search) (n : Nat) : Prop :=
  c.live (c.make n) = false ∧ ∀ m < n, c.live (c.make m) = true

variable {c : Search} {n : Nat}

theorem tried_eq_of_live {k : Nat} (first : k ≤ n)
    (before : ∀ m, k ≤ m → m < n → c.live (c.make m) = true) : c.tried k = c.tried n := by
  obtain ⟨d, rfl⟩ := Nat.exists_eq_add_of_le first
  clear first
  -- The induction is on how many live candidates stand between the two positions.
  induction d with
  | zero => rfl
  | succ d ih =>
    have taken := before (k + d) (Nat.le_add_right k d) (Nat.lt_succ_self _)
    rw [ih fun m above below => before m above (Nat.lt_succ_of_lt below), tried, if_pos taken]
    rfl

theorem tried_of_isFirst (h : c.IsFirst n) : c.tried 0 = some (c.make n, n + 1) := by
  rw [tried_eq_of_live (Nat.zero_le n) fun m _ => h.2 m, tried, if_neg (Bool.eq_false_iff.mp h.1)]

theorem isFirst_of_tried {k : Nat} {found : String × Nat} (h : c.tried k = some found)
    (before : ∀ m < k, c.live (c.make m) = true) :
    ∃ n, c.IsFirst n ∧ found = (c.make n, n + 1) := by
  -- The invariant of the search: all candidates before the one that is tried are live.
  refine tried.partial_correctness c
    (fun k found => (∀ m < k, c.live (c.make m) = true) →
      ∃ n, c.IsFirst n ∧ found = (c.make n, n + 1)) ?_ k found h before
  intro next ih k found h before
  split at h
  · rename_i taken
    refine ih (k + 1) found h fun m less => ?_
    rcases Nat.lt_or_eq_of_le (Nat.le_of_lt_succ less) with earlier | rfl
    · exact before m earlier
    · exact taken
  · rename_i free
    exact ⟨k, ⟨Bool.eq_false_iff.mpr free, before⟩, (Option.some.inj h).symm⟩

theorem tried_eq_some_iff {found : String × Nat} :
    c.tried 0 = some found ↔ ∃ n, c.IsFirst n ∧ found = (c.make n, n + 1) := by
  constructor
  · exact fun h => isFirst_of_tried h fun m less => absurd less (Nat.not_lt_zero m)
  · rintro ⟨n, first, rfl⟩
    exact tried_of_isFirst first

end Search

open Search

theorem firstFree_range_eq_some_iff {r : Registry α} {make : Nat → String} {id : String} {k : Nat} :
    Identifier.firstFree r ((List.range k).map make) = some (id, k) ↔
      tried ⟨r.contains, make⟩ 0 = some (id, k) := by
  have offered : ∀ m, m < k → ((List.range k).map make)[m]? = some (make m) := by
    intro m less
    rw [List.getElem?_map, List.getElem?_range less, Option.map_some]
  rw [Identifier.firstFree_eq_some_iff, tried_eq_some_iff]
  constructor
  · rintro ⟨n, rfl, here, free, before⟩
    obtain rfl := Option.some.inj (here.symm.trans (offered n (Nat.lt_succ_self n)))
    exact ⟨n, ⟨free, fun m less => before m less _ (offered m (Nat.lt_succ_of_lt less))⟩, rfl⟩
  · rintro ⟨n, ⟨free, before⟩, same⟩
    cases same
    refine ⟨n, rfl, offered n (Nat.lt_succ_self n), free, fun m less c there => ?_⟩
    obtain rfl := Option.some.inj (there.symm.trans (offered m (Nat.lt_succ_of_lt less)))
    exact before m less

/-! ### Calls -/

/-- A call of a registry. A change to a record leaves its key. -/
inductive Call (α : Type) [Keyed α] where
  | insert (a : α)
  | get (key : String)
  | revise (key : String) (change : α → α) (same : ∀ a, Keyed.key (change a) = Keyed.key a)
  | remove (key : String)
  | generate (make : Nat → String)

/-- The answer to a call; a record that is changed or removed is answered as it was before. -/
inductive Answer (α : Type) where
  | key (key : String)
  | record (found : Option α)
  | candidate (found : Option (String × Nat))

def Indexed.call (s : Indexed α) : Call α → Answer α × Indexed α
  | .insert a => (.key (Keyed.key a), s.insert a)
  | .get key => (.record (s.get? key), s)
  | .revise key change _ => (.record (s.get? key), s.revise key change)
  | .remove key => (.record (s.get? key), s.remove key)
  | .generate make => (.candidate (tried ⟨s.contains, make⟩ 0), s)

def revise (r : Registry α) (key : String) (change : α → α) : Registry α :=
  match r.get? key with
  | some a => r.insert (change a)
  | none => r

open Classical in
noncomputable def firstFree? (r : Registry α) (make : Nat → String) : Option (String × Nat) :=
  if h : ∃ n, IsFirst ⟨r.contains, make⟩ n then some (make h.choose, h.choose + 1) else none

noncomputable def call (r : Registry α) : Call α → Answer α × Registry α
  | .insert a => (.key (Keyed.key a), r.insert a)
  | .get key => (.record (r.get? key), r)
  | .revise key change _ => (.record (r.get? key), r.revise key change)
  | .remove key => (.record (r.get? key), r.remove key)
  | .generate make => (.candidate (r.firstFree? make), r)

def runs {σ : Type} (call : σ → Call α → Answer α × σ) : σ → List (Call α) → List (Answer α) × σ
  | s, [] => ([], s)
  | s, c :: rest =>
    let (answers, left) := runs call (call s c).2 rest
    ((call s c).1 :: answers, left)

theorem tried_eq_firstFree? (r : Registry α) (make : Nat → String) :
    tried ⟨r.contains, make⟩ 0 = r.firstFree? make := by
  rw [firstFree?]
  split
  · rename_i found
    exact tried_of_isFirst found.choose_spec
  · rename_i none
    refine Option.eq_none_iff_forall_ne_some.mpr fun found h => none ?_
    obtain ⟨n, first, -⟩ := tried_eq_some_iff.mp h
    exact ⟨n, first⟩

/-- The parts hold what the list holds: the same keys in order, under each of them the same. -/
structure Indexed.Keeps (s : Indexed α) (r : Registry α) : Prop where
  order : s.order = r.keys
  get : ∀ key, s.store[key]? = r.get? key

namespace Indexed.Keeps

variable {s : Indexed α} {r : Registry α}

theorem empty : Keeps (Indexed.empty : Indexed α) Registry.empty where
  order := rfl
  get := fun _ => Std.HashMap.getElem?_empty

theorem contains (h : Keeps s r) : s.contains = r.contains := by
  funext key
  rw [Indexed.contains, Std.HashMap.contains_eq_isSome_getElem?, h.get, Bool.eq_iff_iff,
    contains_eq_true_iff, Option.isSome_iff_exists]

theorem insert (h : Keeps s r) (a : α) : Keeps (s.insert a) (r.insert a) where
  order := by
    have fresh : s.store[Keyed.key a]?.isNone = true ↔ ¬r.contains (Keyed.key a) = true := by
      rw [h.get, Option.isNone_iff_eq_none, get?_eq_none_iff, Bool.not_eq_true]
    rw [Indexed.insert, keys_insert, h.order]
    by_cases live : r.contains (Keyed.key a) = true
    · rw [if_pos live, if_neg (mt fresh.mp (not_not_intro live))]
    · rw [if_neg live, if_pos (fresh.mpr live)]
  get := by
    intro key
    rw [Indexed.insert, Std.HashMap.getElem?_insert]
    by_cases same : Keyed.key a = key
    · rw [if_pos (beq_iff_eq.mpr same), ← same, get?_insert]
    · rw [if_neg (mt beq_iff_eq.mp same), get?_insert_of_ne (Ne.symm same), h.get]

theorem revise (h : Keeps s r) (key : String) {change : α → α}
    (same : ∀ a, Keyed.key (change a) = Keyed.key a) :
    Keeps (s.revise key change) (r.revise key change) := by
  rw [Registry.revise]
  cases found : r.get? key with
  | none =>
    refine ⟨h.order, fun other => ?_⟩
    rw [Indexed.revise, Std.HashMap.getElem?_modify]
    split
    · rename_i here
      rw [h.get, ← beq_iff_eq.mp here, found]
      rfl
    · exact h.get other
  | some a =>
    have named : Keyed.key (change a) = key := (same a).trans (key_of_get? found)
    refine ⟨?_, fun other => ?_⟩
    · rw [keys_insert_of_get? (named.symm ▸ found)]
      exact h.order
    · rw [Indexed.revise, Std.HashMap.getElem?_modify]
      split
      · rename_i here
        rw [h.get, ← beq_iff_eq.mp here, found, ← named, get?_insert, Option.map_some]
      · rename_i elsewhere
        rw [get?_insert_of_ne fun here => elsewhere (beq_iff_eq.mpr (named.symm.trans here.symm)),
          h.get]

theorem remove (h : Keeps s r) (key : String) : Keeps (s.remove key) (r.remove key) := by
  rw [Indexed.remove, h.get]
  cases found : r.get? key with
  | none =>
    rw [remove_of_get?_eq_none found]
    exact h
  | some a =>
    refine ⟨?_, fun other => ?_⟩
    · rw [keys_remove, ← h.order]
      rfl
    · have erased : (s.store.erase key)[other]? = (r.remove key).get? other := by
        rw [Std.HashMap.getElem?_erase]
        split
        · rename_i here
          rw [← beq_iff_eq.mp here, get?_remove]
        · rename_i elsewhere
          rw [get?_remove_of_ne fun here => elsewhere (beq_iff_eq.mpr here.symm), h.get]
      exact erased

theorem call (h : Keeps s r) (c : Call α) :
    (s.call c).1 = (r.call c).1 ∧ Keeps (s.call c).2 (r.call c).2 := by
  cases c with
  | insert a => exact ⟨rfl, h.insert a⟩
  | get key => exact ⟨congrArg Answer.record (h.get key), h⟩
  | revise key change same => exact ⟨congrArg Answer.record (h.get key), h.revise key same⟩
  | remove key => exact ⟨congrArg Answer.record (h.get key), h.remove key⟩
  | generate make =>
    refine ⟨congrArg Answer.candidate ?_, h⟩
    rw [h.contains, tried_eq_firstFree?]

theorem runs (h : Keeps s r) (calls : List (Call α)) :
    (Registry.runs Indexed.call s calls).1 = (Registry.runs Registry.call r calls).1 ∧
      Keeps (Registry.runs Indexed.call s calls).2 (Registry.runs Registry.call r calls).2 := by
  induction calls generalizing s r with
  | nil => exact ⟨rfl, h⟩
  | cons c rest ih =>
    obtain ⟨answered, kept⟩ := h.call c
    obtain ⟨answers, left⟩ := ih kept
    exact ⟨List.cons_eq_cons.mpr ⟨answered, answers⟩, left⟩

theorem nodup_order (h : Keeps s r) : s.order.Nodup := h.order ▸ r.nodup

theorem mem_order_iff (h : Keeps s r) {key : String} : key ∈ s.order ↔ key ∈ s.store := by
  rw [h.order, ← contains_iff, ← h.contains]
  rfl

theorem key_of_get? (h : Keeps s r) {key : String} {a : α} (found : s.store[key]? = some a) :
    Keyed.key a = key :=
  Registry.key_of_get? ((h.get key).symm.trans found)

theorem iter (h : Keeps s r) : s.iter = r.records := by
  have found : ∀ a ∈ r.records, ((fun key => s.store[key]?) ∘ Keyed.key) a = some a :=
    fun a ha => (h.get _).trans (get?_eq_some_iff.mpr ⟨ha, rfl⟩)
  rw [Indexed.iter, h.order, keys, List.filterMap_map, List.filterMap_congr found,
    List.filterMap_some]

theorem values_perm (h : Keeps s r) : (s.store.toList.map Prod.snd).Perm s.iter := by
  have keys : s.store.keys.Perm s.order := by
    refine (List.perm_ext_iff_of_nodup Std.HashMap.nodup_keys h.nodup_order).mpr fun key => ?_
    rw [Std.HashMap.mem_keys, h.mem_order_iff]
  have values : s.store.keys.filterMap (fun key => s.store[key]?) =
      s.store.toList.map Prod.snd := by
    rw [← Std.HashMap.map_fst_toList_eq_keys, List.filterMap_map, ← List.filterMap_eq_map]
    exact List.filterMap_congr fun e he => Std.HashMap.mem_toList_iff_getElem?_eq_some.mp he
  rw [← values]
  exact keys.filterMap _

theorem count (h : Keeps s r) (p : α → Bool) : s.count p = (s.list p).length := by
  have mapped : s.count p = (s.store.toList.map Prod.snd).countP p := (List.countP_map).symm
  rw [mapped, h.values_perm.countP_eq, List.countP_eq_length_filter]
  rfl

theorem size (h : Keeps s r) : s.size = s.iter.length := by
  rw [Indexed.size, ← Std.HashMap.length_toList, ← List.length_map Prod.snd,
    h.values_perm.length_eq]

theorem isEmpty (h : Keeps s r) : s.isEmpty = r.isEmpty := by
  have none : s.size = 0 ↔ r.records = [] := by
    rw [h.size, h.iter, List.length_eq_zero_iff]
  rw [Indexed.isEmpty, Registry.isEmpty, Std.HashMap.isEmpty_eq_size_eq_zero, Bool.eq_iff_iff,
    beq_iff_eq, List.isEmpty_iff]
  exact none

end Indexed.Keeps

namespace Indexed

structure Mirrors (s : Indexed α) (r : Registry α) : Prop where
  nodup_order : s.order.Nodup
  mem_order_iff : ∀ key, key ∈ s.order ↔ key ∈ s.store
  own_key : ∀ key a, s.store[key]? = some a → Keyed.key a = key
  order : s.order = r.keys
  iter : s.iter = r.records
  get : ∀ key, s.get? key = r.get? key
  contains : ∀ key, s.contains key = r.contains key
  list : ∀ p, s.list p = r.list p
  find : ∀ p, s.find? p = r.find? p
  count : ∀ p, s.count p = (s.list p).length ∧ s.count p = r.count p
  size : s.size = s.iter.length ∧ s.size = r.size
  isEmpty : s.isEmpty = r.isEmpty

/-- What writing does to the records in order: a new key goes to the end, also if it was there
before it was removed, a live one keeps its place, and all others stay. -/
structure Ordered (s : Indexed α) : Prop where
  append : ∀ a, s.get? (Keyed.key a) = none → (s.insert a).iter = s.iter ++ [a]
  replace : ∀ a old, s.get? (Keyed.key a) = some old → ∃ before after,
    s.iter = before ++ old :: after ∧ (s.insert a).iter = before ++ a :: after
  revise : ∀ key old change, (∀ a, Keyed.key (change a) = Keyed.key a) → s.get? key = some old →
    ∃ before after, s.iter = before ++ old :: after ∧
      (s.revise key change).iter = before ++ change old :: after
  remove : ∀ key old, s.get? key = some old → ∃ before after,
    s.iter = before ++ old :: after ∧ (s.remove key).iter = before ++ after
  again : ∀ a, ((s.remove (Keyed.key a)).insert a).iter = (s.remove (Keyed.key a)).iter ++ [a]

variable {s : Indexed α} {r : Registry α}

theorem Keeps.mirrors (h : Keeps s r) : Mirrors s r where
  nodup_order := h.nodup_order
  mem_order_iff := fun _ => h.mem_order_iff
  own_key := fun _ _ => h.key_of_get?
  order := h.order
  iter := h.iter
  get := h.get
  contains := congrFun h.contains
  list := fun p => congrArg (List.filter p) h.iter
  find := fun p => congrArg (List.find? p) h.iter
  count := by
    intro p
    refine ⟨h.count p, ?_⟩
    rw [h.count, Indexed.list, h.iter, Registry.count, List.countP_eq_length_filter]
  size := by
    refine ⟨h.size, ?_⟩
    rw [h.size, h.iter]
    rfl
  isEmpty := h.isEmpty

theorem Keeps.ordered (h : Keeps s r) : Ordered s where
  append := by
    intro a absent
    rw [(h.insert a).iter, h.iter, records_insert_of_not_contains]
    exact get?_eq_none_iff.mp ((h.get _).symm.trans absent)
  replace := by
    intro a old found
    rw [(h.insert a).iter, h.iter]
    exact records_insert_of_get? ((h.get _).symm.trans found)
  revise := by
    intro key old change same found
    have live : r.get? key = some old := (h.get key).symm.trans found
    have named : Keyed.key (change old) = key := (same old).trans (Registry.key_of_get? live)
    rw [(h.revise key same).iter, h.iter, Registry.revise, live]
    exact records_insert_of_get? (named.symm ▸ live)
  remove := by
    intro key old found
    rw [(h.remove key).iter, h.iter]
    exact records_remove_of_get? ((h.get key).symm.trans found)
  again := by
    intro a
    rw [((h.remove _).insert a).iter, (h.remove _).iter, records_insert_of_not_contains]
    exact get?_eq_none_iff.mp (get?_remove r _)

def after (calls : List (Call α)) : Indexed α := (runs Indexed.call .empty calls).2

end Indexed

noncomputable def after (calls : List (Call α)) : Registry α :=
  (runs Registry.call .empty calls).2

/-- After any calls, the two parts have answered as the list has, and they hold and tell the same;
each write does to them what it does to a list; and the search for a key that is not live ends with
the first such candidate, if there is one, as the search in a list of those candidates does. -/
theorem indexed_mirrors_list (calls : List (Call α)) :
    (runs Indexed.call .empty calls).1 = (runs Registry.call .empty calls).1 ∧
      (Indexed.after calls).Mirrors (after calls) ∧
      (Indexed.after calls).Ordered ∧
      ∀ make id k,
        (tried ⟨(Indexed.after calls).contains, make⟩ 0 = some (id, k) ↔
          ∃ n, IsFirst ⟨(Indexed.after calls).contains, make⟩ n ∧ (id, k) = (make n, n + 1)) ∧
        (tried ⟨(Indexed.after calls).contains, make⟩ 0 = some (id, k) ↔
          Identifier.firstFree (after calls) ((List.range k).map make) = some (id, k)) := by
  obtain ⟨answers, kept⟩ := Indexed.Keeps.empty.runs calls
  refine ⟨answers, kept.mirrors, kept.ordered, fun make id k => ⟨tried_eq_some_iff, ?_⟩⟩
  have live : (Indexed.after calls).contains = (after calls).contains := kept.contains
  rw [live]
  exact firstFree_range_eq_some_iff.symm

end ControlPlane.Registry
