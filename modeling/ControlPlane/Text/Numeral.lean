import ControlPlane.Power

/-!
Numbers as text. Decimals are read with at least one digit, any number of leading zeros and, where
the reader allows it, one leading plus sign. Hexadecimal numerals are lower case and padded with
zeros on the left to a width; a number too large for the width keeps all its digits.
-/

namespace ControlPlane.Text

/-- The value of a text of decimal digits; no digit at all is no number. -/
def readDigits (cs : List Char) : Option Nat :=
  if cs ≠ [] ∧ cs.all Char.isDigit then some (Nat.ofDigitChars 10 cs 0) else none

/-- A decimal of at most `greatest`, with one leading plus sign allowed. -/
def readBounded (greatest : Nat) (s : String) : Option Nat :=
  let digits := match s.toList with
    | '+' :: rest => rest
    | cs => cs
  (readDigits digits).filter (· ≤ greatest)

def greatestWord8 : Nat := 2 ^ 8 - 1
def greatestWord32 : Nat := 2 ^ 32 - 1
def greatestWord64 : Nat := 2 ^ 64 - 1

def padLeft (width : Nat) (fill : Char) (cs : List Char) : List Char :=
  List.replicate (width - cs.length) fill ++ cs

def hexadecimal (width n : Nat) : String :=
  String.ofList (padLeft width '0' (Nat.toDigits 16 n))

def decimalPadded (width n : Nat) : String :=
  String.ofList (padLeft width '0' (Nat.toDigits 10 n))

theorem readDigits_eq_some_iff {cs : List Char} {n : Nat} :
    readDigits cs = some n ↔
      cs ≠ [] ∧ (∀ c ∈ cs, c.isDigit = true) ∧ Nat.ofDigitChars 10 cs 0 = n := by
  simp only [readDigits, List.all_eq_true]
  split <;> rename_i h
  · simp only [Option.some.injEq]
    exact ⟨fun hn => ⟨h.1, h.2, hn⟩, fun hn => hn.2.2⟩
  · simp only [reduceCtorEq, false_iff]
    exact fun hn => h ⟨hn.1, hn.2.1⟩

theorem readBounded_le {greatest n : Nat} {s : String} (h : readBounded greatest s = some n) :
    n ≤ greatest := by
  simp only [readBounded, Option.filter_eq_some_iff, decide_eq_true_eq] at h
  exact h.2

theorem length_padLeft (width : Nat) (fill : Char) (cs : List Char) :
    (padLeft width fill cs).length = max width cs.length := by
  simp [padLeft]; omega

end ControlPlane.Text
