/-!
Maps from text to values, kept as entries in ascending order of their keys. The order is that of
code points, which is also the order of the UTF-8 bytes. Writing a key that is present replaces its
value.
-/

namespace ControlPlane

namespace Entries

variable {α : Type}

def insert (k : String) (v : α) : List (String × α) → List (String × α)
  | [] => [(k, v)]
  | (k', v') :: rest =>
    if k < k' then (k, v) :: (k', v') :: rest
    else if k' < k then (k', v') :: insert k v rest
    else (k, v) :: rest

/-- The entries of a list in order of their keys; of a repeated key the last value stays. -/
def ofList (kvs : List (String × α)) : List (String × α) :=
  kvs.foldl (fun m kv => insert kv.1 kv.2 m) []

def get? (k : String) (m : List (String × α)) : Option α :=
  (m.find? (·.1 == k)).map (·.2)

def Ascending (m : List (String × α)) : Prop :=
  m.Pairwise fun a b => a.1 < b.1

theorem mem_insert {k : String} {v : α} {m : List (String × α)} {e : String × α}
    (h : e ∈ insert k v m) : e = (k, v) ∨ e ∈ m := by
  induction m with
  | nil => simpa [insert] using h
  | cons head rest ih =>
    simp only [insert] at h
    split at h
    · simpa using h
    · split at h <;> grind

theorem ascending_insert {k : String} {v : α} {m : List (String × α)} (h : Ascending m) :
    Ascending (insert k v m) := by
  induction m with
  | nil => simp [insert, Ascending]
  | cons head rest ih =>
    obtain ⟨k', v'⟩ := head
    simp only [Ascending, List.pairwise_cons] at h ih ⊢
    simp only [insert]
    split
    · rename_i hk
      refine List.pairwise_cons.mpr ⟨fun e he => ?_, List.pairwise_cons.mpr h⟩
      rcases List.mem_cons.mp he with rfl | he
      · exact hk
      · exact String.lt_trans hk (h.1 e he)
    · split
      · rename_i hk
        refine List.pairwise_cons.mpr ⟨fun e he => ?_, ih h.2⟩
        rcases mem_insert he with rfl | he
        · exact hk
        · exact h.1 e he
      · rename_i h1 h2
        have hk : k' = k := String.le_antisymm (String.not_lt.mp h1) (String.not_lt.mp h2)
        subst hk
        exact List.pairwise_cons.mpr h

theorem ascending_foldl_insert {kvs m : List (String × α)} (h : Ascending m) :
    Ascending (kvs.foldl (fun m kv => insert kv.1 kv.2 m) m) := by
  induction kvs generalizing m with
  | nil => exact h
  | cons kv rest ih => exact ih (ascending_insert h)

theorem insert_of_lt {k : String} {v : α} {m : List (String × α)} (h : ∀ e ∈ m, e.1 < k) :
    insert k v m = m ++ [(k, v)] := by
  induction m with
  | nil => rfl
  | cons head rest ih =>
    obtain ⟨k', v'⟩ := head
    have first : k' < k := h _ List.mem_cons_self
    rw [insert, if_neg (String.lt_asymm first), if_pos first,
      ih fun e he => h e (List.mem_cons_of_mem _ he)]
    rfl

theorem foldl_insert_of_ascending {kvs m : List (String × α)} (h : Ascending (m ++ kvs)) :
    kvs.foldl (fun m kv => insert kv.1 kv.2 m) m = m ++ kvs := by
  induction kvs generalizing m with
  | nil => exact (List.append_nil m).symm
  | cons kv rest ih =>
    have last : ∀ e ∈ m, e.1 < kv.1 := fun e he =>
      (List.pairwise_append.mp h).2.2 e he kv List.mem_cons_self
    rw [List.foldl_cons, insert_of_lt last, ih (by simpa using h), List.append_assoc]
    rfl

theorem ofList_of_ascending {m : List (String × α)} (h : Ascending m) : ofList m = m :=
  foldl_insert_of_ascending h

theorem ascending_ofList (kvs : List (String × α)) : Ascending (ofList kvs) :=
  ascending_foldl_insert List.Pairwise.nil

end Entries

structure TextMap where
  entries : List (String × String)
  ascending : Entries.Ascending entries

namespace TextMap

def empty : TextMap := ⟨[], List.Pairwise.nil⟩

instance : Inhabited TextMap := ⟨empty⟩

def isEmpty (m : TextMap) : Bool := m.entries.isEmpty

def ofList (kvs : List (String × String)) : TextMap :=
  ⟨Entries.ofList kvs, Entries.ascending_ofList kvs⟩

def get? (m : TextMap) (k : String) : Option String :=
  Entries.get? k m.entries

theorem ext {m n : TextMap} (h : m.entries = n.entries) : m = n := by
  cases m; cases n; simp_all

theorem ofList_entries (m : TextMap) : ofList m.entries = m :=
  ext (Entries.ofList_of_ascending m.ascending)

end TextMap

end ControlPlane
