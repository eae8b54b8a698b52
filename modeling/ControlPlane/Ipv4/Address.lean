import ControlPlane.Text.Numeral
import ControlPlane.Text.Split

/-!
IPv4 addresses: numbers of thirty-two bits, written as four decimal octets. An octet is read
without leading zeros.
-/

namespace ControlPlane

structure Ipv4 where
  value : Nat
  lt : value < 2 ^ 32
  deriving Repr, DecidableEq

namespace Ipv4

/-- The address whose number is `n`, counted modulo the number of addresses. -/
def ofNat (n : Nat) : Ipv4 := ⟨n % 2 ^ 32, Nat.mod_lt n (by decide)⟩

instance : Inhabited Ipv4 := ⟨ofNat 0⟩

theorem ext {a b : Ipv4} (h : a.value = b.value) : a = b := by
  cases a; cases b; simp_all

theorem value_ofNat {n : Nat} (h : n < 2 ^ 32) : (ofNat n).value = n := Nat.mod_eq_of_lt h

def octet (a : Ipv4) (i : Nat) : Nat := a.value / 256 ^ (3 - i) % 256

def text (a : Ipv4) : String :=
  toString (a.octet 0) ++ "." ++ toString (a.octet 1) ++ "." ++ toString (a.octet 2) ++ "."
    ++ toString (a.octet 3)

def readOctet (cs : List Char) : Option Nat :=
  if cs.length > 3 ∨ (cs.length > 1 ∧ cs.head? = some '0') then none
  else (Text.readDigits cs).filter (· ≤ 255)

def ofOctets (a b c d : Nat) : Ipv4 := ofNat (((a * 256 + b) * 256 + c) * 256 + d)

def parseChars (cs : List Char) : Option Ipv4 :=
  match Text.splitAt '.' cs with
  | [a, b, c, d] =>
    match readOctet a, readOctet b, readOctet c, readOctet d with
    | some a, some b, some c, some d => some (ofOctets a b c d)
    | _, _, _, _ => none
  | _ => none

def parse? (s : String) : Option Ipv4 := parseChars s.toList

theorem octet_lt (a : Ipv4) (i : Nat) : a.octet i < 256 := Nat.mod_lt _ (by decide)

theorem ofOctets_octet (a : Ipv4) :
    ofOctets (a.octet 0) (a.octet 1) (a.octet 2) (a.octet 3) = a := by
  have h := a.lt
  apply ext
  simp only [ofOctets, ofNat, octet]
  omega

end Ipv4

end ControlPlane
