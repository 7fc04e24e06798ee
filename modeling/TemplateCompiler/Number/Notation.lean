import TemplateCompiler.Number.Shortest

namespace TemplateCompiler

def naturalText (n : Nat) : String := String.ofList (Nat.toDigits 10 n)

/-- Any number of digits is written. Numerals that are read have at most `digitLimit` of them, so what is written of
    those has no more either. -/
def integerText : Int → String
  | .ofNat n => naturalText n
  | .negSucc n => "-" ++ naturalText (n + 1)

namespace Binary64

structure Words where
  nan : String
  infinity : String

def digitsWithoutZeros (n : Nat) : List Char :=
  ((Nat.toDigits 10 n).reverse.dropWhile (· == '0')).reverse

def zeros (n : Nat) : List Char := List.replicate n '0'

def positional (digits : List Char) (point : Int) : List Char :=
  if point ≤ 0 then ['0', '.'] ++ zeros (-point).toNat ++ digits
  else if digits.length ≤ point.toNat then digits ++ zeros (point.toNat - digits.length) ++ ['.', '0']
  else digits.take point.toNat ++ '.' :: digits.drop point.toNat

def exponentText (e : Int) : List Char :=
  let digits := Nat.toDigits 10 e.natAbs
  (if e < 0 then ['e', '-'] else ['e', '+']) ++ zeros (2 - digits.length) ++ digits

def scientific (digits : List Char) (point : Int) : List Char :=
  (match digits with
    | [] => []
    | [d] => [d]
    | d :: rest => d :: '.' :: rest) ++ exponentText (point - 1)

def magnitude (units : Nat) : List Char :=
  let d := shortest units
  let digits := digitsWithoutZeros d.digits
  let point := digitCount d.digits + d.exponent
  if -4 < point ∧ point ≤ 16 then positional digits point else scientific digits point

def text (words : Words) : Binary64 → String
  | .nan => words.nan
  | .infinite negative => if negative then "-" ++ words.infinity else words.infinity
  | .finite negative units =>
    let written := if units = 0 then "0.0" else String.ofList (magnitude units)
    if negative then "-" ++ written else written

end Binary64

end TemplateCompiler
