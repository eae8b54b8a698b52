import ControlPlane.Registry
import ControlPlane.Text.Numeral
import ControlPlane.Timestamp.Basic

/-!
Generated identifiers: a kind, a hyphen and a numeral of a fixed number of lower-case hexadecimal
digits. Each numeral is drawn, and draws are tried until one names no live record. Draws that have
run out are followed by the numerals from zero on, one more than there are live records, of which
at least one is free.
-/

namespace ControlPlane

/-- What a request brings along besides its parameters: the time it is served at and the numbers
drawn for it. -/
structure Moment where
  now : Timestamp
  draws : List Nat
  deriving Repr, Inhabited

namespace Identifier

/-- The numeral of a draw, which counts modulo the number of numerals. -/
def drawn (digits n : Nat) : String :=
  Text.hexadecimal digits (n % 16 ^ digits)

def firstFree {α : Type} [Keyed α] (live : Registry α) : List String → Option (String × Nat)
  | [] => none
  | candidate :: rest =>
    if live.contains candidate then (firstFree live rest).map fun (id, n) => (id, n + 1)
    else some (candidate, 1)

theorem contains_of_firstFree {α : Type} [Keyed α] {live : Registry α} {candidates : List String}
    {id : String} {n : Nat} (h : firstFree live candidates = some (id, n)) :
    live.contains id = false ∧ id ∈ candidates := by
  induction candidates generalizing n with
  | nil => simp [firstFree] at h
  | cons candidate rest ih =>
    simp only [firstFree] at h
    split at h
    · obtain ⟨⟨id', k⟩, hk, he⟩ := Option.map_eq_some_iff.mp h
      simp only [Prod.mk.injEq] at he
      obtain ⟨rfl, rfl⟩ := he
      exact ⟨(ih hk).1, List.mem_cons_of_mem _ (ih hk).2⟩
    · rename_i hc
      simp only [Option.some.injEq, Prod.mk.injEq] at h
      obtain ⟨rfl, rfl⟩ := h
      exact ⟨by simpa using hc, List.mem_cons_self⟩

def candidates (kind : String) (digits size : Nat) (draws : List Nat) : List String :=
  draws.map (fun n => kind ++ "-" ++ drawn digits n) ++
    (List.range (size + 1)).map fun n => kind ++ "-" ++ Text.hexadecimal digits n

/-- An identifier that names no live record, and the draws that are left. -/
def fresh {α : Type} [Keyed α] (live : Registry α) (kind : String) (digits : Nat)
    (draws : List Nat) : String × List Nat :=
  match firstFree live (candidates kind digits live.size draws) with
  | some (id, n) => (id, draws.drop n)
  | none => (kind ++ "-" ++ Text.hexadecimal digits 0, [])

def numeral (digits : Nat) : List Nat → String × List Nat
  | [] => (Text.hexadecimal digits 0, [])
  | n :: rest => (drawn digits n, rest)

def next (kind : String) (digits : Nat) (draws : List Nat) : String × List Nat :=
  (kind ++ "-" ++ (numeral digits draws).1, (numeral digits draws).2)

end Identifier

end ControlPlane
