import TemplateCompiler.Value.Integer

namespace TemplateCompiler

/-- The level of a block. Whoever makes the block gives it, and it is not checked then: one that is no count fails when
    it is used. -/
inductive Level where
  | count (n : Int)
  | other (v : Value)
  deriving Repr, BEq, Inhabited

namespace Level

def ofValue : Value → Level
  | .int n => .count n
  | .bool b => .count (if b then 1 else 0)
  | v => .other v

def whole : Level → Except Fault Int
  | .count n => .ok n
  | .other (.real x) => x.truncate
  | .other v => .error (.levelNotNumeric v.kind)

/-- The level one step further in, or out. A real level moves too, although no indent can be made of it. -/
def step (inward : Bool) : Level → Except Fault Level
  | .count n => .ok (.count (if inward then n + 1 else n - 1))
  | .other (.real x) => .ok (.other (.real (x.step inward)))
  | .other (.text s) => .error (if inward then .textLevelIncreased else .badLevelChange "-=" (Value.text s).kind)
  | .other (.list items) =>
    .error (if inward then .notIterable .int else .badLevelChange "-=" (Value.list items).kind)
  | .other v => .error (.badLevelChange (if inward then "+=" else "-=") v.kind)

def sizeLimit : Int := 9223372036854775807

/-- The most characters that a text can be given room for. How many there are depends on the machine; these fill 64 GiB
    of memory, and what is proved of them is only that they are no more than `sizeLimit`. -/
def roomLimit : Int := 68719476736

def repeatText (unit : String) (n : Nat) : String := String.join (List.replicate n unit)

def indent (unit : String) : Level → Except Fault String
  | .count n =>
    if sizeLimit < n || n < -sizeLimit - 1 then .error .levelTooWide
    else if n ≤ 0 then .ok ""
    else if sizeLimit < unit.length * n then .error .indentTooLong
    else if roomLimit < unit.length * n then .error .outOfMemory
    else .ok (repeatText unit n.toNat)
  | .other v => .error (.levelNotCount v.kind)

end Level

end TemplateCompiler
