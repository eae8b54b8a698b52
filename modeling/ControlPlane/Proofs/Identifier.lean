import ControlPlane.Identifier
import Mathlib.Data.List.Nodup
import Mathlib.Data.List.Perm.Subperm

/-!
Generated identifiers are new. A numeral can be read back, so different numbers have different
numerals; among one numeral more than there are live records one is free, and the first free
candidate is what a draw ends with.
-/

namespace ControlPlane

namespace Text

def hexDigitValue (c : Char) : Nat :=
  if c.isDigit then c.toNat - 48 else c.toNat - 87

def hexValue (cs : List Char) : Nat :=
  cs.foldl (fun v c => 16 * v + hexDigitValue c) 0

theorem hexDigitValue_digitChar {d : Nat} (h : d < 16) : hexDigitValue d.digitChar = d := by
  revert d
  decide

theorem hexValue_append_singleton (cs : List Char) (c : Char) :
    hexValue (cs ++ [c]) = 16 * hexValue cs + hexDigitValue c := by
  simp [hexValue]

theorem hexValue_toDigits (n : Nat) : hexValue (Nat.toDigits 16 n) = n := by
  induction n using Nat.strongRecOn with
  | ind n ih =>
    rw [Nat.toDigits_eq_if (by decide)]
    split
    · rename_i hn
      simp [hexValue, hexDigitValue_digitChar hn]
    · rename_i hn
      rw [hexValue_append_singleton, ih (n / 16) (by omega),
        hexDigitValue_digitChar (Nat.mod_lt n (by decide))]
      omega

theorem hexValue_padLeft (width : Nat) (cs : List Char) :
    hexValue (padLeft width '0' cs) = hexValue cs := by
  have zeros : ∀ k, (List.replicate k '0').foldl (fun v c => 16 * v + hexDigitValue c) 0 = 0 := by
    intro k
    induction k with
    | zero => rfl
    | succ k ih =>
      rw [List.replicate_succ, List.foldl_cons]
      exact ih
  rw [hexValue, padLeft, List.foldl_append, zeros]
  rfl

theorem hexadecimal_injective (width : Nat) : Function.Injective (hexadecimal width) := by
  intro m n h
  have chars := congrArg String.toList h
  simp only [hexadecimal, String.toList_ofList] at chars
  have values := congrArg hexValue chars
  rwa [hexValue_padLeft, hexValue_padLeft, hexValue_toDigits, hexValue_toDigits] at values

def isHexDigit (c : Char) : Bool := c.isDigit || ('a' ≤ c && c ≤ 'f')

theorem isHexDigit_digitChar {d : Nat} (h : d < 16) : isHexDigit d.digitChar = true := by
  revert d
  decide

theorem isHexDigit_of_mem_toDigits {n : Nat} {c : Char} (h : c ∈ Nat.toDigits 16 n) :
    isHexDigit c = true := by
  induction n using Nat.strongRecOn with
  | ind n ih =>
    rw [Nat.toDigits_eq_if (by decide)] at h
    split at h
    · rename_i hn
      rw [List.mem_singleton.mp h]
      exact isHexDigit_digitChar hn
    · rename_i hn
      rcases List.mem_append.mp h with h | h
      · exact ih (n / 16) (by omega) h
      · rw [List.mem_singleton.mp h]
        exact isHexDigit_digitChar (Nat.mod_lt n (by decide))

theorem isHexDigit_of_mem_hexadecimal {width n : Nat} {c : Char}
    (h : c ∈ (hexadecimal width n).toList) : isHexDigit c = true := by
  rw [hexadecimal, String.toList_ofList, padLeft, List.mem_append, List.mem_replicate] at h
  rcases h with ⟨-, rfl⟩ | h
  · rfl
  · exact isHexDigit_of_mem_toDigits h

theorem length_hexadecimal {width n : Nat} (positive : 0 < width) (h : n < 16 ^ width) :
    (hexadecimal width n).length = width := by
  rw [hexadecimal, String.length_ofList, length_padLeft]
  exact Nat.max_eq_left ((Nat.length_toDigits_le_iff (by decide) positive).mpr h)

end Text

namespace Identifier

theorem firstFree_eq_none_iff {α : Type} [Keyed α] {live : Registry α} {candidates : List String} :
    firstFree live candidates = none ↔ ∀ c ∈ candidates, live.contains c = true := by
  induction candidates with
  | nil => simp [firstFree]
  | cons c rest ih =>
    by_cases hc : live.contains c = true
    · simp [firstFree, hc, ih]
    · simp [firstFree, hc]

theorem firstFree_eq_some_iff {α : Type} [Keyed α] {live : Registry α} {candidates : List String}
    {id : String} {k : Nat} :
    firstFree live candidates = some (id, k) ↔
      ∃ n, k = n + 1 ∧ candidates[n]? = some id ∧ live.contains id = false ∧
        ∀ m < n, ∀ c, candidates[m]? = some c → live.contains c = true := by
  induction candidates generalizing k with
  | nil => simp [firstFree]
  | cons c rest ih =>
    rw [firstFree]
    by_cases taken : live.contains c = true
    · rw [if_pos taken, Option.map_eq_some_iff]
      constructor
      · rintro ⟨⟨id', k'⟩, found, same⟩
        cases same
        obtain ⟨n, rfl, here, free, before⟩ := ih.mp found
        refine ⟨n + 1, rfl, here, free, fun m less d there => ?_⟩
        cases m with
        | zero => exact Option.some.inj there ▸ taken
        | succ m => exact before m (Nat.lt_of_succ_lt_succ less) d there
      · rintro ⟨n, rfl, here, free, before⟩
        cases n with
        | zero => exact absurd (Option.some.inj here ▸ taken) (Bool.eq_false_iff.mp free)
        | succ n =>
          refine ⟨(id, n + 1), ih.mpr ⟨n, rfl, here, free, fun m less d there => ?_⟩, rfl⟩
          exact before (m + 1) (Nat.succ_lt_succ less) d there
    · rw [if_neg taken]
      constructor
      · intro found
        cases found
        have free := Bool.eq_false_iff.mpr taken
        exact ⟨0, rfl, rfl, free, fun m less => absurd less (Nat.not_lt_zero m)⟩
      · rintro ⟨n, rfl, here, free, before⟩
        cases n with
        | zero => rw [Option.some.inj here]
        | succ n => exact absurd (before 0 (Nat.succ_pos n) c rfl) taken

theorem counted_nodup (kind : String) (digits size : Nat) :
    ((List.range size).map fun n => kind ++ "-" ++ Text.hexadecimal digits n).Nodup := by
  apply List.Nodup.map _ List.nodup_range
  intro m n h
  apply Text.hexadecimal_injective digits
  have chars := congrArg String.toList h
  simp only [String.toList_append] at chars
  exact String.toList_injective (List.append_cancel_left chars)

theorem exists_firstFree {α : Type} [Keyed α] (live : Registry α) (kind : String) (digits : Nat)
    (draws : List Nat) :
    ∃ id n, firstFree live (candidates kind digits live.size draws) = some (id, n) := by
  cases h : firstFree live (candidates kind digits live.size draws) with
  | some found => exact ⟨found.1, found.2, rfl⟩
  | none =>
    rw [firstFree_eq_none_iff] at h
    have covered : (List.range (live.size + 1)).map
        (fun n => kind ++ "-" ++ Text.hexadecimal digits n) ⊆ live.keys := by
      intro c hc
      exact Registry.contains_iff.mp (h c (List.mem_append_right _ hc))
    have bound := (List.subperm_of_subset (counted_nodup kind digits _) covered).length_le
    simp only [List.length_map, List.length_range, Registry.keys, Registry.size] at bound
    omega

/-- No live record has a fresh identifier. -/
theorem contains_fresh {α : Type} [Keyed α] (live : Registry α) (kind : String) (digits : Nat)
    (draws : List Nat) : live.contains (fresh live kind digits draws).1 = false := by
  obtain ⟨id, n, h⟩ := exists_firstFree live kind digits draws
  rw [fresh, h]
  exact (contains_of_firstFree h).1

section Congr

variable {α β : Type} [Keyed α] [Keyed β] {live : Registry α} {other : Registry β}

theorem firstFree_congr (same : live.keys = other.keys) (candidates : List String) :
    firstFree live candidates = firstFree other candidates := by
  have contained : ∀ c, live.contains c = other.contains c := by
    intro c
    rw [Bool.eq_iff_iff, Registry.contains_iff, Registry.contains_iff, same]
  induction candidates with
  | nil => rfl
  | cons c rest ih => rw [firstFree, firstFree, contained, ih]

/-- The keys alone decide on the next identifier, and on the draws that it takes. -/
theorem fresh_congr (same : live.keys = other.keys) (kind : String) (digits : Nat)
    (draws : List Nat) : fresh live kind digits draws = fresh other kind digits draws := by
  have sizes : live.size = other.size := by
    have lengths := congrArg List.length same
    rwa [Registry.keys, Registry.keys, List.length_map, List.length_map] at lengths
  rw [fresh, fresh, sizes, firstFree_congr same]

end Congr

/-- The identifiers of a kind that are given out while no more than `size` records are live: the
numeral has been drawn, and has the full width, or it has been counted. -/
def IsNumbered (kind : String) (digits size : Nat) (id : String) : Prop :=
  ∃ n, (n < 16 ^ digits ∨ n ≤ size) ∧ id = kind ++ "-" ++ Text.hexadecimal digits n

theorem isNumbered_fresh {α : Type} [Keyed α] (live : Registry α) (kind : String) (digits : Nat)
    (draws : List Nat) : IsNumbered kind digits live.size (fresh live kind digits draws).1 := by
  obtain ⟨id, n, h⟩ := exists_firstFree live kind digits draws
  rw [fresh, h]
  have candidate := (contains_of_firstFree h).2
  simp only [candidates, List.mem_append, List.mem_map, List.mem_range] at candidate
  rcases candidate with ⟨m, -, rfl⟩ | ⟨m, hm, rfl⟩
  · exact ⟨m % 16 ^ digits, Or.inl (Nat.mod_lt _ (Nat.pow_pos (by decide))), rfl⟩
  · exact ⟨m, Or.inr (Nat.le_of_lt_succ hm), rfl⟩

def IsDrawn (kind : String) (digits : Nat) (id : String) : Prop :=
  ∃ n < 16 ^ digits, id = kind ++ "-" ++ Text.hexadecimal digits n

theorem IsNumbered.isDrawn {kind id : String} {digits size : Nat}
    (h : IsNumbered kind digits size id) (fits : size < 16 ^ digits) : IsDrawn kind digits id := by
  obtain ⟨n, drawn | counted, rfl⟩ := h
  · exact ⟨n, drawn, rfl⟩
  · exact ⟨n, Nat.lt_of_le_of_lt counted fits, rfl⟩

theorem IsDrawn.length {kind id : String} {digits : Nat} (h : IsDrawn kind digits id)
    (positive : 0 < digits) : id.length = kind.length + 1 + digits := by
  obtain ⟨n, hn, rfl⟩ := h
  rw [String.length_append, String.length_append, Text.length_hexadecimal positive hn]
  rfl

/-- The identifier shows its kind before the hyphen. -/
def IsOfKind (kind id : String) : Prop := (kind ++ "-").toList <+: id.toList

theorem IsOfKind.not_isOfKind {kind other id : String} (h : IsOfKind kind id)
    (apart : ¬(kind ++ "-").toList <+: (other ++ "-").toList ∧
      ¬(other ++ "-").toList <+: (kind ++ "-").toList) : ¬IsOfKind other id := by
  intro h'
  rcases List.prefix_or_prefix_of_prefix h h' with first | second
  · exact apart.1 first
  · exact apart.2 second

theorem IsNumbered.isOfKind {kind id : String} {digits size : Nat}
    (h : IsNumbered kind digits size id) : IsOfKind kind id := by
  obtain ⟨n, -, rfl⟩ := h
  have split : (kind ++ "-" ++ Text.hexadecimal digits n).toList =
      (kind ++ "-").toList ++ (Text.hexadecimal digits n).toList := String.toList_append
  rw [IsOfKind, split]
  exact List.prefix_append _ _

end Identifier

end ControlPlane
