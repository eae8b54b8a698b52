import ControlPlane.Binary64.Basic

/-!
The shortest decimal that stands for a number of double precision. The reals that round to a number
form an interval that reaches half way to either neighbour, its ends included where the mantissa is
even. Of the decimals in the interval those with the fewest digits are considered, of these the one
nearest to the number, and of two as near the one whose last digit is even.
-/

namespace ControlPlane

/-- The decimal `digits · 10 ^ exponent`. -/
structure Decimal where
  digits : Nat
  exponent : Int
  deriving Repr, DecidableEq

namespace Decimal

def compareRatio (d : Decimal) (num den : Nat) : Ordering :=
  compare (d.digits * 10 ^ d.exponent.toNat * den) (num * 10 ^ (-d.exponent).toNat)

/-- The same decimal without a zero at the end of its digits. -/
def reduced (d : Decimal) : Decimal :=
  if d.digits = 0 then ⟨0, 0⟩
  else if d.digits % 10 = 0 then reduced ⟨d.digits / 10, d.exponent + 1⟩
  else d
termination_by d.digits

def leadingExponent (d : Decimal) : Int :=
  d.exponent + (Nat.toDigits 10 d.digits).length - 1

end Decimal

namespace Binary64

/-- The neighbour below is half as far away as the one above. -/
def isNarrowBelow (x : Binary64) : Bool := x.mantissa == 2 ^ 52 && x.shift != 0

def lowerEnd (x : Binary64) : Nat :=
  (4 * x.mantissa - if x.isNarrowBelow then 1 else 2) * 2 ^ x.shift

def upperEnd (x : Binary64) : Nat := (4 * x.mantissa + 2) * 2 ^ x.shift

/-- Whether a decimal is one of the reals that round to the number. -/
def readsBack (x : Binary64) (d : Decimal) : Bool :=
  let low := d.compareRatio x.lowerEnd (4 * unitsOfOne)
  let high := d.compareRatio x.upperEnd (4 * unitsOfOne)
  let closed := x.mantissa % 2 == 0
  (low == .gt || (closed && low == .eq)) && (high == .lt || (closed && high == .eq))

def leadingExponent (x : Binary64) : Int :=
  ((Nat.toDigits 10 (x.magnitude * 10 ^ 324 / unitsOfOne)).length : Int) - 325

def floorAt (x : Binary64) (exponent : Int) : Decimal :=
  ⟨x.magnitude * 10 ^ (-exponent).toNat / (unitsOfOne * 10 ^ exponent.toNat), exponent⟩

def compareMiddle (x : Binary64) (below above : Decimal) : Ordering :=
  (⟨below.digits + above.digits, below.exponent⟩ : Decimal).compareRatio (2 * x.magnitude)
    unitsOfOne |>.swap

/-- The candidate that reads back, or of two the nearer one, or else the even one. -/
def choose (below above : Decimal) (hasBelow hasAbove : Bool) (middle : Ordering) :
    Option Decimal :=
  match hasBelow, hasAbove, middle with
  | true, true, .lt => some below
  | true, true, .gt => some above
  | true, true, .eq => some (if below.digits % 2 = 0 then below else above)
  | true, false, _ => some below
  | false, true, _ => some above
  | false, false, _ => none

def nearestAt (x : Binary64) (exponent : Int) : Option Decimal :=
  let below := x.floorAt exponent
  let above : Decimal := ⟨below.digits + 1, exponent⟩
  choose below above (x.readsBack below) (x.readsBack above) (x.compareMiddle below above)

/-- The shortest decimal of the magnitude; seventeen digits are always enough. -/
def shortest (x : Binary64) : Decimal :=
  if x.mantissa = 0 then ⟨0, 0⟩
  else
    let first := x.leadingExponent
    match (List.range 17).findSome? fun (n : Nat) => x.nearestAt (first - n) with
    | some d => d.reduced
    | none => (x.floorAt (first - 16)).reduced

end Binary64

end ControlPlane
