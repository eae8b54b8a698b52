import ControlPlane.Json.Printer
import ControlPlane.Region
import ControlPlane.Text.Ascii

/-!
What the request log shows. Values of members whose name is a kind of password are masked at every
depth; nothing else is changed.
-/

namespace ControlPlane

namespace RequestLog

def mask : Json := .str "******"

/-- `password` in any case, or a name that ends in `Password`. -/
def isSecretName (name : String) : Bool :=
  Text.equalsIgnoringCase name "password" || Text.endsWith "Password" name

mutual

def masked : Json → Json
  | .obj members => .obj (maskedMembers members)
  | .arr items => .arr (maskedItems items)
  | j => j

def maskedItems : List Json → List Json
  | [] => []
  | j :: rest => masked j :: maskedItems rest

def maskedMembers : List (String × Json) → List (String × Json)
  | [] => []
  | (name, j) :: rest =>
    (name, if isSecretName name then mask else masked j) :: maskedMembers rest

end

theorem maskedItems_eq_map (items : List Json) : maskedItems items = items.map masked := by
  induction items with
  | nil => rfl
  | cons j rest ih => rw [maskedItems, ih, List.map_cons]

theorem maskedMembers_eq_map (members : List (String × Json)) :
    maskedMembers members =
      members.map fun m => (m.1, if isSecretName m.1 then mask else masked m.2) := by
  induction members with
  | nil => rfl
  | cons m rest ih => rw [maskedMembers, ih, List.map_cons]

end RequestLog

structure LogEntry where
  message : String
  scope : String
  service : String
  operation : String
  params : String
  deriving Repr, DecidableEq

def LogEntry.ofRequest (scope : Scope) (service : ServiceName) (operation : String) (bag : Json) :
    LogEntry :=
  ⟨"Invoke", scope.label, service.text, operation, (RequestLog.masked bag).render⟩

def LogEntry.record : Record LogEntry LogEntry :=
  (Record.start LogEntry.mk)
    |>.required "message" .text (·.message)
    |>.required "scope" .text (·.scope)
    |>.required "service" .text (·.service)
    |>.required "operation" .text (·.operation)
    |>.required "params" .text (·.params)

end ControlPlane
