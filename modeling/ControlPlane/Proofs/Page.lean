import ControlPlane.Page
import ControlPlane.Proofs.Numeral

/-!
The tokens of pages. The token that a page gives out is read back as the offset at which the next
page starts, as long as offsets are words of sixty-four bits. So a walk that goes on with the token
of each page has all the items in the end, in their order, whatever limits its pages are asked with.
-/

namespace ControlPlane

namespace Page

variable {α : Type}

theorem offset?_toString {size start : Nat} (inside : start ≤ size)
    (fits : size ≤ Text.greatestWord64) : offset? size (some (toString start)) = some start := by
  rw [offset?, Text.readBounded_toString (Nat.le_trans inside fits), Option.filter_some]
  exact if_pos (decide_eq_true inside)

theorem ofList_eq_of_offset? {items : List α} {token : Option String} {start : Nat}
    (h : offset? items.length token = some start) (limit : Nat) :
    ofList items token limit = .ok (take items start limit) := by
  rw [ofList, h]

theorem mem_of_ofList {items : List α} {token : Option String} {limit : Nat} {p : Page α}
    (h : ofList items token limit = .ok p) : ∀ a ∈ p.items, a ∈ items := by
  intro a ha
  rw [ofList] at h
  split at h
  · cases h
    exact List.mem_of_mem_drop (List.mem_of_mem_take ha)
  · cases h

theorem take_map {β : Type} (f : α → β) (items : List α) (start limit : Nat) :
    take (items.map f) start limit =
      ⟨(take items start limit).items.map f, (take items start limit).next⟩ := by
  rw [take, take, List.length_map, List.map_take, List.map_drop]

theorem ofList_map {β : Type} (f : α → β) (items : List α) (token : Option String) (limit : Nat) :
    ofList (items.map f) token limit =
      (ofList items token limit).map fun q => ⟨q.items.map f, q.next⟩ := by
  rw [ofList, ofList, List.length_map]
  cases offset? items.length token with
  | none => rfl
  | some start => exact congrArg Except.ok (take_map f items start limit)

theorem exists_of_ofList_map {β : Type} {f : α → β} {items : List α} {token : Option String}
    {limit : Nat} {p : Page β} (h : ofList (items.map f) token limit = .ok p) :
    ∃ q, ofList items token limit = .ok q ∧ p.items = q.items.map f ∧ p.next = q.next := by
  rw [ofList_map] at h
  cases read : ofList items token limit with
  | error e =>
    rw [read] at h
    cases h
  | ok q =>
    rw [read] at h
    cases h
    exact ⟨q, rfl, rfl, rfl⟩

theorem take_cases (items : List α) (start limit : Nat) :
    ((take items start limit).items = items.drop start ∧ (take items start limit).next = none) ∨
      ∃ stop, start < stop ∧ stop ≤ items.length ∧
        (take items start limit).items ++ items.drop stop = items.drop start ∧
        (take items start limit).next = some (toString stop) := by
  by_cases more : start + max limit 1 < items.length
  · right
    refine ⟨start + max limit 1, by omega, Nat.le_of_lt more, ?_, ?_⟩
    · rw [items_take, ← List.drop_drop, List.take_append_drop]
    · have stop : min (start + max limit 1) items.length = start + max limit 1 := by omega
      rw [take, stop]
      exact if_pos more
  · left
    refine ⟨?_, ?_⟩
    · rw [items_take, List.take_of_length_le]
      rw [List.length_drop]
      omega
    · have stop : min (start + max limit 1) items.length = items.length := by omega
      rw [take, stop]
      exact if_neg (Nat.lt_irrefl _)

/-- The items from a token on, page after page; `ask n` answers the page that `n` others come
before. -/
inductive Walk {ε : Type} :
    (Nat → Option String → Except ε (Page α)) → Option String → List α → Prop where
  | last {ask : Nat → Option String → Except ε (Page α)} {token : Option String} {xs : List α}
    (page : ask 0 token = .ok ⟨xs, none⟩) : Walk ask token xs
  | more {ask : Nat → Option String → Except ε (Page α)} {token : Option String} {xs ys : List α}
    {next : String} (page : ask 0 token = .ok ⟨xs, some next⟩)
    (rest : Walk (fun n => ask (n + 1)) (some next) ys) : Walk ask token (xs ++ ys)

section Walking

variable {ε : Type} {ask : Nat → Option String → Except ε (Page α)} {items xs ys : List α}
  {token : Option String}

theorem Walk.unique (h : Walk ask token xs) (h' : Walk ask token ys) : xs = ys := by
  induction h generalizing ys with
  | last page =>
    cases h' with
    | last page' =>
      cases page.symm.trans page'
      rfl
    | more page' rest' => cases page.symm.trans page'
  | more page rest ih =>
    cases h' with
    | last page' => cases page.symm.trans page'
    | more page' rest' =>
      cases page.symm.trans page'
      rw [ih rest']

/-- What is asked answers pages of some items, each of a size of its own. -/
def Pages (ask : Nat → Option String → Except ε (Page α)) (items : List α) : Prop :=
  ∀ n, ∃ limit, ∀ token p, ofList items token limit = .ok p → ask n token = .ok p

theorem walk_of_offset? (pages : Pages ask items) (fits : items.length ≤ Text.greatestWord64)
    {start : Nat} (h : offset? items.length token = some start) :
    Walk ask token (items.drop start) := by
  induction left : items.length - start using Nat.strongRecOn generalizing ask token start with
  | ind left ih =>
    obtain ⟨limit, answers⟩ := pages 0
    have page : ask 0 token = .ok ⟨(take items start limit).items, (take items start limit).next⟩ :=
      answers token _ (ofList_eq_of_offset? h limit)
    rcases take_cases items start limit with ⟨all, last⟩ | ⟨stop, further, inside, split, more⟩
    · rw [← all]
      rw [last] at page
      exact .last page
    · rw [← split]
      rw [more] at page
      refine .more page ?_
      have onward := offset?_toString inside fits
      exact ih (items.length - stop) (by omega) (fun n => pages (n + 1)) onward rfl

theorem walk_iff (pages : Pages ask items) (fits : items.length ≤ Text.greatestWord64) :
    Walk ask none xs ↔ xs = items := by
  have whole : Walk ask none items := by
    have start : offset? items.length none = some 0 := rfl
    exact walk_of_offset? pages fits start
  refine ⟨fun walk => walk.unique whole, ?_⟩
  rintro rfl
  exact whole

end Walking

end Page

end ControlPlane
