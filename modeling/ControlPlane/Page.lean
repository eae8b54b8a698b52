import ControlPlane.Json.Record

/-!
Lists in pages. A token is the decimal text of the offset at which the next page starts; it is
accepted if it is a word of sixty-four bits that does not lie beyond the end of the list. A page
holds at least one item of those that remain, whatever the limit.
-/

namespace ControlPlane

/-- The token stands for no offset in the list as it is. -/
structure InvalidNextToken where
  deriving Repr, DecidableEq

def InvalidNextToken.message : String :=
  "Invalid value passed for the NextToken parameter"

structure Page (α : Type) where
  items : List α
  next : Option String
  deriving Repr

namespace Page

def offset? (size : Nat) : Option String → Option Nat
  | none => some 0
  | some token => (Text.readBounded Text.greatestWord64 token).filter (· ≤ size)

/-- The page of at most `limit` items, and at least one, from an offset on. -/
def take {α : Type} (items : List α) (start limit : Nat) : Page α :=
  let stop := min (start + max limit 1) items.length
  { items := (items.drop start).take (max limit 1)
    next := if stop < items.length then some (toString stop) else none }

def record {α : Type} (name : String) (c : Codec α) : Record (Page α) (Page α) :=
  (Record.start Page.mk)
    |>.required name (.list c) (·.items)
    |>.optional "NextToken" .text (·.next)

def ofList {α : Type} (items : List α) (token : Option String) (limit : Nat) :
    Except InvalidNextToken (Page α) :=
  match offset? items.length token with
  | some start => .ok (take items start limit)
  | none => .error {}

theorem offset?_le {size start : Nat} {token : Option String}
    (h : offset? size token = some start) : start ≤ size := by
  cases token with
  | none => simp [offset?] at h; omega
  | some t =>
    simp only [offset?, Option.filter_eq_some_iff, decide_eq_true_eq] at h
    exact h.2

theorem items_take {α : Type} (items : List α) (start limit : Nat) :
    (take items start limit).items = (items.drop start).take (max limit 1) := rfl

end Page

end ControlPlane
