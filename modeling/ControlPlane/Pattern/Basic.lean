import ControlPlane.Pattern.Regex

/-!
A documented pattern: the source that messages quote and the predicate that is enforced. The
predicate looks at the whole value.
-/

namespace ControlPlane

structure Pattern where
  source : String
  accepts : String → Bool

namespace Pattern

def ofRegex (source : String) (r : Regex) : Pattern := ⟨source, r.accepts⟩

def digit : Regex := .chars Char.isDigit

def alphanumeric : Regex := .chars Char.isAlphanum

def hexDigit : Regex := .chars fun c => c.isDigit || ('a' ≤ c && c ≤ 'f')

def alphanumericOr (more : String) : Regex :=
  .chars fun c => c.isAlphanum || more.toList.contains c

def noneOf (excluded : String) : Regex :=
  .chars fun c => !excluded.toList.contains c

end Pattern

end ControlPlane
