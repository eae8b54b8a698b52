import ControlPlane.Binary64.Basic
import ControlPlane.TextMap

/-!
JSON values. An object keeps its members in the order they were written, repeated names included;
its canonical form has them in ascending order of names, of a repeated name the last member. A
number is an integer or a number of double precision: the two are never equal, even where they
denote the same quantity.
-/

namespace ControlPlane

inductive Json where
  | null
  | bool (b : Bool)
  | int (n : Int)
  | float (x : Binary64)
  | str (s : String)
  | arr (items : List Json)
  | obj (members : List (String × Json))
  deriving Repr, Inhabited

namespace Json

def member? (name : String) : List (String × Json) → Option Json :=
  Entries.get? name

mutual

def canonical : Json → Json
  | .arr items => .arr (canonicalItems items)
  | .obj members => .obj (Entries.ofList (canonicalMembers members))
  | j => j

def canonicalItems : List Json → List Json
  | [] => []
  | j :: rest => canonical j :: canonicalItems rest

def canonicalMembers : List (String × Json) → List (String × Json)
  | [] => []
  | (name, j) :: rest => (name, canonical j) :: canonicalMembers rest

end

theorem canonicalItems_eq_map (items : List Json) :
    canonicalItems items = items.map canonical := by
  induction items with
  | nil => rfl
  | cons j rest ih => rw [canonicalItems, ih, List.map_cons]

theorem canonicalMembers_eq_map (members : List (String × Json)) :
    canonicalMembers members = members.map fun m => (m.1, canonical m.2) := by
  induction members with
  | nil => rfl
  | cons m rest ih => rw [canonicalMembers, ih, List.map_cons]

end Json

end ControlPlane
