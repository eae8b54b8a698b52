import ControlPlane.Json.Basic
import ControlPlane.Text.Numeral

/-!
How values are written as JSON and read back. Reading fails for one of two causes: a record lacks a
member it must have, or a value has the wrong shape. Words are integers of a fixed range; a number
with a point is never a word. The order in which a list is read is the order of its items, and the
first failure is the one reported.
-/

namespace ControlPlane

inductive DecodeError where
  | missingField (name : String)
  | malformed
  deriving Repr, DecidableEq

structure Codec (α : Type) where
  encode : α → Json
  decode : Json → Except DecodeError α

namespace Codec

def text : Codec String where
  encode := .str
  decode
    | .str s => .ok s
    | _ => .error .malformed

def flag : Codec Bool where
  encode := .bool
  decode
    | .bool b => .ok b
    | _ => .error .malformed

def upTo (greatest : Nat) : Codec Nat where
  encode n := .int n
  decode
    | .int n => if 0 ≤ n ∧ n ≤ greatest then .ok n.toNat else .error .malformed
    | _ => .error .malformed

def word32 : Codec Nat := upTo Text.greatestWord32

def word64 : Codec Nat := upTo Text.greatestWord64

def json : Codec Json where
  encode := id
  decode := .ok

def ofText {α : Type} (render : α → String) (parse : String → Option α) : Codec α where
  encode a := .str (render a)
  decode
    | .str s => match parse s with
      | some a => .ok a
      | none => .error .malformed
    | _ => .error .malformed

def decodeItems {α : Type} (c : Codec α) : List Json → Except DecodeError (List α)
  | [] => .ok []
  | j :: rest =>
    match c.decode j with
    | .error e => .error e
    | .ok a => (decodeItems c rest).map (a :: ·)

def list {α : Type} (c : Codec α) : Codec (List α) where
  encode items := .arr (items.map c.encode)
  decode
    | .arr items => decodeItems c items
    | _ => .error .malformed

def nullable {α : Type} (c : Codec α) : Codec (Option α) where
  encode
    | some a => c.encode a
    | none => .null
  decode
    | .null => .ok none
    | j => (c.decode j).map some

def decodeTexts : List (String × Json) → Except DecodeError (List (String × String))
  | [] => .ok []
  | (name, .str s) :: rest => (decodeTexts rest).map ((name, s) :: ·)
  | _ => .error .malformed

def textMap : Codec TextMap where
  encode m := .obj (m.entries.map fun e => (e.1, .str e.2))
  decode
    | .obj members => (decodeTexts members).map TextMap.ofList
    | _ => .error .malformed

/-- A codec gives back everything it wrote. -/
def Faithful {α : Type} (c : Codec α) : Prop :=
  ∀ a, c.decode (c.encode a) = .ok a

theorem faithful_text : text.Faithful := fun _ => rfl

theorem faithful_flag : flag.Faithful := fun _ => rfl

theorem faithful_json : json.Faithful := fun _ => rfl

end Codec

end ControlPlane
