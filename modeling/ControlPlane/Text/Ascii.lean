/-!
Text read character by character. Case is folded on the twenty-six ASCII letters only; a prefix or
a suffix is one of the list of characters, so that each test is a fact about lists.
-/

namespace ControlPlane.Text

def startsWith (start s : String) : Bool :=
  start.toList.isPrefixOf s.toList

def endsWith (ending s : String) : Bool :=
  ending.toList.isSuffixOf s.toList

def foldCase (s : String) : List Char :=
  s.toList.map Char.toLower

def equalsIgnoringCase (s t : String) : Bool :=
  foldCase s == foldCase t

theorem startsWith_iff {start s : String} :
    startsWith start s = true ↔ start.toList <+: s.toList := by
  simp [startsWith]

theorem endsWith_iff {ending s : String} :
    endsWith ending s = true ↔ ending.toList <:+ s.toList := by
  simp [endsWith]

theorem equalsIgnoringCase_iff {s t : String} :
    equalsIgnoringCase s t = true ↔ foldCase s = foldCase t := by
  simp [equalsIgnoringCase]

theorem isAlphanum_eq (c : Char) : c.isAlphanum = (c.isUpper || c.isLower || c.isDigit) := rfl

theorem isAlphanum_iff {c : Char} :
    c.isAlphanum = true ↔ ('A' ≤ c ∧ c ≤ 'Z') ∨ ('a' ≤ c ∧ c ≤ 'z') ∨ ('0' ≤ c ∧ c ≤ '9') := by
  have upper : c.isUpper = decide ('A' ≤ c ∧ c ≤ 'Z') := rfl
  have lower : c.isLower = (decide ('a' ≤ c) && decide (c ≤ 'z')) := rfl
  have digit : c.isDigit = (decide ('0' ≤ c) && decide (c ≤ '9')) := rfl
  simp only [isAlphanum_eq, upper, lower, digit, Bool.or_eq_true, Bool.and_eq_true,
    decide_eq_true_eq, or_assoc]

end ControlPlane.Text
