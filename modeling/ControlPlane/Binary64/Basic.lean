import ControlPlane.Power

/-!
Numbers of double precision. A magnitude is a mantissa of at most fifty-three bits times a power of
two, counted in units of the least positive one, `2 ^ -1074`; the mantissa has all its bits unless
the power is the unit itself, so that each magnitude has one form. A ratio is rounded to the nearest
such number, and half way between two of them to the one whose mantissa is even. Where rounding ends
beyond the greatest shift the number is out of range.
-/

namespace ControlPlane

/-- The number `±mantissa · 2 ^ shift` units. -/
structure Binary64 where
  negative : Bool
  mantissa : Nat
  shift : Nat
  deriving Repr, DecidableEq

namespace Binary64

def unitsOfOne : Nat := 2 ^ 1074

def greatestShift : Nat := 2045

def magnitude (x : Binary64) : Nat := x.mantissa * 2 ^ x.shift

/-- A quotient rounded to the nearest natural number, a half to the even one. -/
def roundedDiv (num den : Nat) : Nat :=
  let q := num / den
  if den < 2 * (num % den) ∨ (2 * (num % den) = den ∧ q % 2 = 1) then q + 1 else q

def ofUnits (negative : Bool) (num den : Nat) : Binary64 :=
  let shift := Nat.log2 (num / den) - 52
  let mantissa := roundedDiv num (den * 2 ^ shift)
  if mantissa < 2 ^ 53 then ⟨negative, mantissa, shift⟩ else ⟨negative, 2 ^ 52, shift + 1⟩

def ofNat (negative : Bool) (n : Nat) : Binary64 := ofUnits negative (n * unitsOfOne) 1

def inRange (x : Binary64) : Bool := x.shift ≤ greatestShift

def times (x y : Binary64) : Binary64 :=
  ofUnits x.negative (x.magnitude * y.magnitude) unitsOfOne

def dividedBy (x y : Binary64) : Binary64 :=
  ofUnits x.negative (x.magnitude * unitsOfOne) y.magnitude

def greatestPower : Nat := 308

def powerOfTen (k : Nat) : Binary64 := ofNat false (10 ^ k)

/-- The number `x · 10 ^ k`, rounded once for each power of ten that it takes, or nothing where that
is out of range. A number too small to be told from zero is zero. -/
def scaled? (x : Binary64) (k : Int) : Option Binary64 :=
  if x.mantissa = 0 then some x
  else if k < -greatestPower then
    (x.dividedBy (powerOfTen greatestPower)).scaled? (k + greatestPower)
  else if k < 0 then some (x.dividedBy (powerOfTen k.natAbs))
  else if k ≤ greatestPower then some (x.times (powerOfTen k.toNat)) |>.filter inRange
  else none
termination_by (-k).toNat
decreasing_by
  simp only [greatestPower] at *
  omega

end Binary64

end ControlPlane
