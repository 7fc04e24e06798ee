import TemplateCompiler.Number.Binary64

namespace TemplateCompiler.Binary64

structure Decimal where
  digits : Nat
  exponent : Int
  deriving DecidableEq, Repr

/-- The place of the decimal point of a positive number: the least `k` with the number below `10 ^ k`. -/
def pointOf (units : Nat) : Int := (digitCount (units * tenTo 330 / unitsPerOne) : Int) - 330

def readsBack (units : Nat) (d : Decimal) : Bool :=
  ofDecimal false d.digits d.exponent == .finite false units

def scaled (units : Nat) (exponent : Int) : Nat × Nat :=
  if 0 ≤ exponent then (units, unitsPerOne * tenTo exponent.toNat)
  else (units * tenTo (-exponent).toNat, unitsPerOne)

/-- The neighbour on the grid of `10 ^ exponent` that reads back: of two the nearer, of equally near ones the even. -/
def onGrid (units : Nat) (exponent : Int) : Option Decimal :=
  let (num, den) := scaled units exponent
  let low := num / den
  let below : Decimal := ⟨low, exponent⟩
  let above : Decimal := ⟨low + 1, exponent⟩
  match readsBack units below, readsBack units above with
  | true, true =>
    let twice := 2 * num
    let middle := (2 * low + 1) * den
    some (if twice < middle || (twice == middle && low % 2 == 0) then below else above)
  | true, false => some below
  | false, true => some above
  | false, false => none

def precisions : List Int := [1, 2, 3, 4, 5, 6, 7, 8, 9, 10, 11, 12, 13, 14, 15, 16, 17]

/-- The shortest decimal that reads back as a double, and of several the nearest. -/
def shortest (units : Nat) : Decimal :=
  let point := pointOf units
  match precisions.findSome? fun p => onGrid units (point - p) with
  | some d => d
  | none => ⟨(scaled units (point - 17)).1 / (scaled units (point - 17)).2, point - 17⟩

end TemplateCompiler.Binary64
