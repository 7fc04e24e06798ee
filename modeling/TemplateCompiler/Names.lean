import TemplateCompiler.Fault

namespace TemplateCompiler

/-- The digit for each name, counted from zero. It may be any integer. -/
abbrev Digits := Nat → Int

namespace Digits

def cycle (digits : List Int) : Digits := fun k => (digits[k % digits.length]?).getD 0

def random (seed : Nat) : Digits := fun k => (randNat (mkStdGen (seed + k)) 0 9).1

def draw (low high : Int) : Nat → StdGen → Except Fault (List Int)
  | 0, _ => .ok []
  | n + 1, gen =>
    if high < low then .error (.emptyRange low high)
    else do
      let (offset, gen) := randNat gen 0 (high - low).toNat
      return (low + offset) :: (← draw low high n gen)

end Digits

structure Names where
  stem : String
  digits : Digits
  count : Nat := 0

namespace Names

def name (names : Names) (k : Nat) : String :=
  names.stem ++ naturalText k ++ "_" ++ integerText (names.digits (k - 1))

def next (names : Names) : String × Names :=
  (names.name (names.count + 1), { names with count := names.count + 1 })

end Names

end TemplateCompiler
