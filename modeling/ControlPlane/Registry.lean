/-!
The store of live records: a list of records with different keys, in the order of their first
insertion. Inserting a record whose key is live replaces that record where it stands; a key that
was removed and comes back goes to the end.
-/

namespace ControlPlane

/-- A record is known by its key and nothing else. -/
class Keyed (α : Type) where
  key : α → String

structure Registry (α : Type) [Keyed α] where
  records : List α
  nodup : (records.map Keyed.key).Nodup

namespace Registry

variable {α : Type} [Keyed α]

def empty : Registry α := ⟨[], List.nodup_nil⟩

instance : Inhabited (Registry α) := ⟨empty⟩

def keys (r : Registry α) : List String := r.records.map Keyed.key

def contains (r : Registry α) (key : String) : Bool :=
  r.records.any fun a => Keyed.key a == key

def get? (r : Registry α) (key : String) : Option α :=
  r.records.find? fun a => Keyed.key a == key

def find? (r : Registry α) (p : α → Bool) : Option α := r.records.find? p

def list (r : Registry α) (p : α → Bool) : List α := r.records.filter p

def count (r : Registry α) (p : α → Bool) : Nat := r.records.countP p

def size (r : Registry α) : Nat := r.records.length

def isEmpty (r : Registry α) : Bool := r.records.isEmpty

theorem contains_iff {r : Registry α} {key : String} :
    r.contains key = true ↔ key ∈ r.keys := by
  simp only [contains, keys, List.any_eq_true, List.mem_map, beq_iff_eq]

def replaced (a : α) (records : List α) : List α :=
  records.map fun b => if Keyed.key b = Keyed.key a then a else b

theorem keys_replaced (a : α) (records : List α) :
    (replaced a records).map Keyed.key = records.map Keyed.key := by
  simp only [replaced, List.map_map]
  apply List.map_congr_left
  intro b _
  simp only [Function.comp_apply]
  split <;> simp_all

def insert (r : Registry α) (a : α) : Registry α :=
  if h : r.contains (Keyed.key a) = true then
    ⟨replaced a r.records, by rw [keys_replaced]; exact r.nodup⟩
  else
    ⟨r.records ++ [a], by
      have hk : Keyed.key a ∉ r.records.map Keyed.key := fun hm => h (contains_iff.mpr hm)
      simp only [List.map_append, List.map_cons, List.map_nil, List.nodup_append]
      exact ⟨r.nodup, by simp, by simp; intro b hb hba; exact hk (hba ▸ List.mem_map_of_mem hb)⟩⟩

def remove (r : Registry α) (key : String) : Registry α :=
  ⟨r.records.filter fun a => Keyed.key a != key,
    r.nodup.sublist ((List.filter_sublist).map _)⟩

theorem ext {r s : Registry α} (h : r.records = s.records) : r = s := by
  cases r; cases s; simp_all

theorem records_insert_of_not_contains {r : Registry α} {a : α}
    (h : r.contains (Keyed.key a) = false) : (r.insert a).records = r.records ++ [a] := by
  simp [insert, h]

theorem records_insert_of_contains {r : Registry α} {a : α}
    (h : r.contains (Keyed.key a) = true) : (r.insert a).records = replaced a r.records := by
  simp [insert, h]

theorem keys_insert (r : Registry α) (a : α) :
    (r.insert a).keys = if r.contains (Keyed.key a) then r.keys else r.keys ++ [Keyed.key a] := by
  simp only [insert, keys]
  split
  · simp [keys_replaced]
  · simp

theorem keys_remove (r : Registry α) (key : String) :
    (r.remove key).keys = r.keys.filter (· != key) := by
  simp [remove, keys, List.filter_map, Function.comp_def]

theorem get?_eq_none_iff {r : Registry α} {key : String} :
    r.get? key = none ↔ r.contains key = false := by
  simp [get?, contains]

theorem key_of_get? {r : Registry α} {key : String} {a : α} (h : r.get? key = some a) :
    Keyed.key a = key := by
  have := List.find?_some h
  simpa using this

theorem mem_of_get? {r : Registry α} {key : String} {a : α} (h : r.get? key = some a) :
    a ∈ r.records :=
  List.mem_of_find?_eq_some h

end Registry

end ControlPlane
