namespace TemplateCompiler

/-- Double-precision numbers, held exactly: a finite one counts the smallest positive number, `2 ^ -1074`. -/
inductive Binary64 where
  | nan
  | infinite (negative : Bool)
  | finite (negative : Bool) (units : Nat)
  deriving DecidableEq, Repr, Inhabited

namespace Binary64

def twoTo (n : Nat) : Nat := Nat.pow 2 n

def tenTo (n : Nat) : Nat := Nat.pow 10 n

def unitsPerOne : Nat := twoTo 1074

def largestUnits : Nat := (twoTo 53 - 1) * twoTo 2045

/-- The nearest count of units with a significand of 53 bits to the quotient `num / den`. -/
def roundUnits (num den : Nat) : Nat :=
  let dropped := (num / den).log2 + 1 - 53
  let step := den * twoTo dropped
  let low := num / step
  let rest := num % step
  let up := step < 2 * rest || (2 * rest == step && low % 2 == 1)
  (if up then low + 1 else low) * twoTo dropped

def ofRatio (negative : Bool) (num den : Nat) : Binary64 :=
  let units := roundUnits (num * unitsPerOne) den
  if largestUnits < units then .infinite negative else .finite negative units

def digitCount (n : Nat) : Nat := (Nat.toDigits 10 n).length

/-- The double nearest to `mantissa * 10 ^ exponent`. Numerals of a magnitude far outside the format are settled by
    their size alone, so that a huge exponent costs nothing. -/
def ofDecimal (negative : Bool) (mantissa : Nat) (exponent : Int) : Binary64 :=
  let size := digitCount mantissa + exponent
  if mantissa = 0 then .finite negative 0
  else if 310 < size then .infinite negative
  else if size < -330 then .finite negative 0
  else if 0 ≤ exponent then ofRatio negative (mantissa * tenTo exponent.toNat) 1
  else ofRatio negative mantissa (tenTo (-exponent).toNat)

def isZero : Binary64 → Bool
  | .finite _ units => units == 0
  | _ => false

def signedUnits? : Binary64 → Option Int
  | .finite negative units => some (if negative then -(units : Int) else units)
  | _ => none

/-- Equality of doubles as numbers, under which the two zeros agree; `nan` counts as one value. -/
def same (x y : Binary64) : Bool := x == y || (x.isZero && y.isZero)

/-- One more, or one less, rounded to the nearest double. A step of one is too short to leave the format. -/
def step (up : Bool) : Binary64 → Binary64
  | .finite negative units =>
    let start : Int := if negative then -(units : Int) else units
    let total := if up then start + unitsPerOne else start - unitsPerOne
    .finite (total < 0) (roundUnits total.natAbs 1)
  | x => x

def equalsInt (x : Binary64) (n : Int) : Bool := x.signedUnits? == some (n * unitsPerOne)

end Binary64

end TemplateCompiler
