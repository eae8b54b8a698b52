import ControlPlane.Json.Printer
import ControlPlane.Json.Codec
import ControlPlane.Pattern.Basic
import ControlPlane.Text.Ascii

/-!
Rules for parameter values. A rule returns the constraint that a value breaks, or nothing; a check
is a rule applied to the value of a field, together with the text that stands for the value in a
message. Lengths of text count characters.
-/

namespace ControlPlane

class Shown (α : Type) where
  shown : α → String

instance : Shown String := ⟨id⟩
instance : Shown Nat := ⟨toString⟩
instance : Shown Int := ⟨toString⟩

def showList {α : Type} [Shown α] (items : List α) : String :=
  "[" ++ String.intercalate ", " (items.map Shown.shown) ++ "]"

instance {α : Type} [Shown α] : Shown (List α) := ⟨showList⟩

/-- The constraint that a value breaks, if it breaks one. -/
abbrev Rule (α : Type) := α → Option String

namespace Rule

def requires {α : Type} (holds : α → Bool) (constraint : String) : Rule α := fun a =>
  if holds a then none else some constraint

def lengthAtMost (n : Nat) : Rule String :=
  requires (fun s => s.length ≤ n) ("have length less than or equal to " ++ toString n)

def lengthAtLeast (n : Nat) : Rule String :=
  requires (fun s => n ≤ s.length) ("have length greater than or equal to " ++ toString n)

def itemsAtMost {α : Type} (n : Nat) : Rule (List α) :=
  requires (fun items => items.length ≤ n) ("have length less than or equal to " ++ toString n)

def valueAtMost {α : Type} [LE α] [DecidableLE α] [Shown α] (n : α) : Rule α :=
  requires (fun a => a ≤ n) ("have value less than or equal to " ++ Shown.shown n)

def valueAtLeast {α : Type} [LE α] [DecidableLE α] [Shown α] (n : α) : Rule α :=
  requires (fun a => n ≤ a) ("have value greater than or equal to " ++ Shown.shown n)

def valueSet (allowed : List String) : String :=
  "satisfy enum value set: [" ++ String.intercalate ", " allowed ++ "]"

def memberOf (allowed : List String) : Rule String :=
  requires (fun s => allowed.contains s) (valueSet allowed)

def memberOfIgnoringCase (allowed : List String) : Rule String :=
  requires (fun s => allowed.any (Text.equalsIgnoringCase · s)) (valueSet allowed)

def satisfies (p : Pattern) : Rule String :=
  requires p.accepts ("satisfy regular expression pattern: " ++ p.source)

theorem requires_eq_none_iff {α : Type} {holds : α → Bool} {constraint : String} {a : α} :
    requires holds constraint a = none ↔ holds a = true := by
  simp [requires]

end Rule

structure Check where
  field : String
  value : String
  broken : Option String
  deriving Repr, DecidableEq

namespace Check

def of {α : Type} [Shown α] (field : String) (value : α) (rule : Rule α) : Check :=
  ⟨field, Shown.shown value, rule value⟩

def ofOption {α : Type} [Shown α] (field : String) (value : Option α) (rule : Rule α) :
    List Check :=
  (value.map fun v => of field v rule).toList

def ofJson {α : Type} (field : String) (c : Codec α) (items : List α) (rule : Rule (List α)) :
    Check :=
  ⟨field, ((Codec.list c).encode items).render, rule items⟩

end Check

end ControlPlane
