import TemplateCompiler.Fault
import TemplateCompiler.Text.Blank
import TemplateCompiler.Text.DecimalDigit

namespace TemplateCompiler

namespace Numeral

/-- The blanks around a numeral: white space without the four ASCII separators. -/
def isBlank (c : Char) : Bool := Text.isBlank c && !(0x1c ≤ c.toNat && c.toNat ≤ 0x1f)

def isDigitOrUnderscore (c : Char) : Bool := c = '_' || (Text.digitValue? c).isSome

def value (digits : List Nat) : Nat := digits.foldl (fun n d => 10 * n + d) 0

def sign : List Char → Bool × List Char
  | '+' :: rest => (false, rest)
  | '-' :: rest => (true, rest)
  | cs => (false, cs)

def wellSeparated (run : List Char) : Bool := (Text.pieces '_' run).all (!·.isEmpty)

def toInt (s : String) : Except Fault Int :=
  let (negative, cs) := sign (s.toList.dropWhile isBlank)
  let run := cs.takeWhile isDigitOrUnderscore
  let digits := run.filterMap Text.digitValue?
  if !wellSeparated run then .error (.badInteger s)
  else if digitLimit < digits.length then .error (.tooManyDigits digits.length)
  else if !((cs.dropWhile isDigitOrUnderscore).all isBlank) then .error (.badInteger s)
  else .ok (if negative then -(value digits : Int) else value digits)

end Numeral

def Binary64.truncate : Binary64 → Except Fault Int
  | .nan => .error .integerOfNan
  | .infinite _ => .error .integerOfInfinity
  | .finite negative units =>
    .ok (if negative then -((units / unitsPerOne : Nat) : Int) else (units / unitsPerOne : Nat))

def Value.toInt : Value → Except Fault Int
  | .int n => .ok n
  | .bool b => .ok (if b then 1 else 0)
  | .real x => x.truncate
  | .text s => Numeral.toInt s
  | v => .error (.notNumeric v.kind)

end TemplateCompiler
