import ControlPlane.Proofs.Page

/-!
Pages cut a list into parts. Which tokens are accepted is said in terms of the decimals that a
caller may write, and a page is told from where it starts and how much is left. The same page is
computed on words of sixty-four bits, where a sum that does not fit is the greatest word and a part
that does not lie within the list cannot be taken. Main statement: the words always give the page,
a token is refused for no other reason, and the pages from the beginning on are the list.
-/

namespace ControlPlane.Page

variable {α : Type} {items : List α} {token : Option String} {limit start : Nat}

/-- Where a page of a list of this size starts. -/
def StartsAt (size : Nat) : Option String → Nat → Prop
  | none, start => start = 0
  | some t, start => Text.IsDecimal t start ∧ start ≤ Text.greatestWord64 ∧ start ≤ size

theorem offset?_eq_some_iff {size : Nat} :
    offset? size token = some start ↔ StartsAt size token start := by
  cases token with
  | none => rw [offset?, StartsAt, Option.some.injEq, eq_comm]
  | some t =>
    rw [offset?, StartsAt, Option.filter_eq_some_iff, Text.readBounded_eq_some_iff,
      decide_eq_true_eq, and_assoc]

theorem ofList_eq_error_iff {e : InvalidNextToken} :
    ofList items token limit = .error e ↔
      ∃ t, token = some t ∧ ¬∃ start, StartsAt items.length (some t) start := by
  have refused : ofList items token limit = .error e ↔ offset? items.length token = none := by
    rw [ofList]
    split
    · rename_i start read
      simp [read]
    · rename_i read
      simp [read]
  rw [refused, Option.eq_none_iff_forall_not_mem, ← not_exists]
  simp only [Option.mem_def, offset?_eq_some_iff]
  cases token with
  | none => simp [StartsAt]
  | some t => simp

/-- The page of a list from an offset on: the next items, as many as the limit allows and at least
one, and a token if some are left. -/
structure IsPage (items : List α) (start limit : Nat) (p : Page α) : Prop where
  next_items : p.items <+: items.drop start
  length : p.items.length = min (max limit 1) (items.length - start)
  next : p.next =
    if start + p.items.length < items.length then some (toString (start + p.items.length)) else none

theorem isPage_take (inside : start ≤ items.length) (limit : Nat) :
    IsPage items start limit (take items start limit) := by
  have length : (take items start limit).items.length =
      min (max limit 1) (items.length - start) := by
    rw [items_take, List.length_take, List.length_drop]
  have stop : start + min (max limit 1) (items.length - start) =
      min (start + max limit 1) items.length := by omega
  refine ⟨List.take_prefix _ _, length, ?_⟩
  rw [length, stop]
  rfl

theorem exists_isPage (starts : StartsAt items.length token start) (limit : Nat) :
    ∃ p, ofList items token limit = .ok p ∧ IsPage items start limit p := by
  have read := offset?_eq_some_iff.mpr starts
  exact ⟨_, ofList_eq_of_offset? read limit, isPage_take (offset?_le read) limit⟩

theorem exists_onward (fits : items.length ≤ Text.greatestWord64) {p : Page α} {t : String}
    (page : ofList items token limit = .ok p) (more : p.next = some t) (limit' : Nat) :
    ∃ q, ofList items (some t) limit' = .ok q := by
  cases read : offset? items.length token with
  | none =>
    rw [ofList, read] at page
    cases page
  | some start =>
    cases page.symm.trans (ofList_eq_of_offset? read limit)
    rcases take_cases items start limit with ⟨-, last⟩ | ⟨stop, -, inside, -, next⟩
    · cases more.symm.trans last
    · cases more.symm.trans next
      exact ⟨_, ofList_eq_of_offset? (offset?_toString inside fits) limit'⟩

/-- The sum of two words, or the greatest word where the sum is beyond it. -/
def boundedSum (a b : UInt64) : UInt64 := if a ≤ a + b then a + b else .ofNat Text.greatestWord64

def slice? (items : List α) (start stop : UInt64) : Option (List α) :=
  if start ≤ stop ∧ stop.toNat ≤ items.length then
    some ((items.take stop.toNat).drop start.toNat)
  else none

def startWord? (size : UInt64) : Option String → Option UInt64
  | none => some 0
  | some t => ((Text.readBounded Text.greatestWord64 t).map UInt64.ofNat).filter (· ≤ size)

/-- A page in words; no value where the part that it asks for cannot be taken. -/
def inWords? (items : List α) (token : Option String) (limit : UInt64) :
    Option (Except InvalidNextToken (Page α)) :=
  let size := UInt64.ofNat items.length
  match startWord? size token with
  | none => some (.error {})
  | some start =>
    let stop := min (boundedSum start (max limit 1)) size
    (slice? items start stop).map fun part =>
      .ok ⟨part, if stop < size then some (toString stop.toNat) else none⟩

theorem toNat_ofNat_word {n : Nat} (fits : n ≤ Text.greatestWord64) : (UInt64.ofNat n).toNat = n :=
  UInt64.toNat_ofNat_of_lt' (Nat.lt_of_le_of_lt fits (by decide))

theorem toNat_boundedSum (a b : UInt64) :
    (boundedSum a b).toNat = min (a.toNat + b.toNat) Text.greatestWord64 := by
  have ha := a.toNat_lt
  have hb := b.toNat_lt
  have greatest : Text.greatestWord64 = 2 ^ 64 - 1 := rfl
  have sum : (a + b).toNat = (a.toNat + b.toNat) % 2 ^ 64 := UInt64.toNat_add a b
  rw [boundedSum]
  split
  · rename_i whole
    rw [UInt64.le_iff_toNat_le] at whole
    omega
  · rename_i beyond
    rw [UInt64.le_iff_toNat_le] at beyond
    rw [toNat_ofNat_word (Nat.le_refl _)]
    omega

theorem startWord?_eq (fits : items.length ≤ Text.greatestWord64) (token : Option String) :
    startWord? (.ofNat items.length) token = (offset? items.length token).map UInt64.ofNat := by
  cases token with
  | none => rfl
  | some t =>
    rw [startWord?, offset?]
    cases read : Text.readBounded Text.greatestWord64 t with
    | none => rfl
    | some n =>
      have word := toNat_ofNat_word (Text.readBounded_le read)
      have same : UInt64.ofNat n ≤ UInt64.ofNat items.length ↔ n ≤ items.length := by
        rw [UInt64.le_iff_toNat_le, word, toNat_ofNat_word fits]
      by_cases inside : n ≤ items.length <;> simp [Option.filter, same, inside]

theorem slice?_eq_some {a b : UInt64} (ordered : a.toNat ≤ b.toNat)
    (inside : b.toNat ≤ items.length) :
    slice? items a b = some ((items.take b.toNat).drop a.toNat) :=
  if_pos ⟨UInt64.le_iff_toNat_le.mpr ordered, inside⟩

theorem inWords?_eq (fits : items.length ≤ Text.greatestWord64) (token : Option String)
    (limit : UInt64) : inWords? items token limit = some (ofList items token limit.toNat) := by
  simp only [inWords?, startWord?_eq fits]
  cases read : offset? items.length token with
  | none =>
    rw [ofList, read]
    rfl
  | some start =>
    have inside := offset?_le read
    have size := toNat_ofNat_word fits
    have first := toNat_ofNat_word (Nat.le_trans inside fits)
    have one : (1 : UInt64).toNat = 1 := rfl
    have stop : (min (boundedSum (.ofNat start) (max limit 1)) (.ofNat items.length)).toNat =
        min (start + max limit.toNat 1) items.length := by
      rw [UInt64.toNat_min, toNat_boundedSum, UInt64.toNat_max, first, size]
      omega
    have part := slice?_eq_some (by omega : (UInt64.ofNat start).toNat ≤
      (min (boundedSum (.ofNat start) (max limit 1)) (.ofNat items.length)).toNat)
      (by omega : _ ≤ items.length)
    have taken : (items.take (min (start + max limit.toNat 1) items.length)).drop start =
        (items.drop start).take (max limit.toNat 1) := by
      rw [List.drop_take, List.take_eq_take_iff, List.length_drop]
      omega
    simp only [Option.map_some, part, stop, first, taken, UInt64.lt_iff_toNat_lt, size]
    rw [ofList_eq_of_offset? read, take]

/-- Every list that words can count is cut into its pages. Computed on words, a page never asks for
what is not in the list. A token is refused exactly if it is no decimal of a word that stays within
the list, and otherwise there is the page from there on. The tokens that are given out are accepted,
and the walk from the beginning ends with all the items in their order, whatever its limits. -/
theorem pages_partition_list (items : List α) (fits : items.length ≤ Text.greatestWord64) :
    (∀ token (limit : UInt64),
        inWords? items token limit = some (ofList items token limit.toNat)) ∧
      (∀ token limit, ofList items token limit = .error {} ↔
        ∃ t, token = some t ∧
          ¬∃ n, Text.IsDecimal t n ∧ n ≤ Text.greatestWord64 ∧ n ≤ items.length) ∧
      (∀ token limit start, StartsAt items.length token start →
        ∃ p, ofList items token limit = .ok p ∧ IsPage items start limit p) ∧
      (∀ token limit p t, ofList items token limit = .ok p → p.next = some t →
        ∀ limit', ∃ q, ofList items (some t) limit' = .ok q) ∧
      ∀ (limits : Nat → UInt64) xs,
        Walk (fun n token => ofList items token (limits n).toNat) none xs ↔ xs = items := by
  refine ⟨inWords?_eq fits, fun _ _ => ofList_eq_error_iff, fun _ limit _ starts =>
    exists_isPage starts limit, fun _ _ _ _ page more => exists_onward fits page more, ?_⟩
  intro limits xs
  have pages : Pages (fun n token => ofList items token (limits n).toNat) items :=
    fun n => ⟨(limits n).toNat, fun _ _ page => page⟩
  exact walk_iff pages fits

def letters : List String := ["a", "b", "c", "d", "e"]

/-- The greatest limit from the fourth letter on, a token beyond the end, and a walk whose limits
begin with zero and rise. -/
theorem pages_partition_letters :
    letters.length ≤ Text.greatestWord64 ∧
      inWords? letters (some "+03") (.ofNat Text.greatestWord64) =
        some (.ok ⟨["d", "e"], none⟩) ∧
      (¬∃ n, Text.IsDecimal "6" n ∧ n ≤ Text.greatestWord64 ∧ n ≤ letters.length) ∧
      Walk (fun n token => ofList letters token (UInt64.ofNat n).toNat) none letters := by
  have fits : letters.length ≤ Text.greatestWord64 := by decide
  obtain ⟨words, refused, -, -, walks⟩ := pages_partition_list letters fits
  refine ⟨fits, words (some "+03") _, ?_, (walks UInt64.ofNat _).mpr rfl⟩
  obtain ⟨t, same, nowhere⟩ := (refused (some "6") 2).mp rfl
  cases same
  exact nowhere

end ControlPlane.Page
