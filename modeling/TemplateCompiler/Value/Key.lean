import TemplateCompiler.Value.Basic

namespace TemplateCompiler

inductive Key where
  | null
  | bool (b : Bool)
  | int (n : Int)
  | real (x : Binary64)
  | text (s : String)
  deriving DecidableEq, Repr, Inhabited

namespace Key

def integer? : Key → Option Int
  | .bool b => some (if b then 1 else 0)
  | .int n => some n
  | _ => none

def same (a b : Key) : Bool :=
  match a, b with
  | .null, .null => true
  | .text s, .text t => s == t
  | .real x, .real y => x.same y
  | .real x, k | k, .real x => k.integer?.any x.equalsInt
  | a, b => a.integer?.isSome && a.integer? == b.integer?

def ofValue? : Value → Option Key
  | .null => some .null
  | .bool b => some (.bool b)
  | .int n => some (.int n)
  | .real x => some (.real x)
  | .text s => some (.text s)
  | .list _ | .record _ => none

end Key

/-- Properties in order: an equal key keeps its place and its form and takes the new value. -/
def putProperty (properties : List (Key × Value)) (key : Key) (v : Value) : List (Key × Value) :=
  match properties with
  | [] => [(key, v)]
  | (k, w) :: rest => if k.same key then (k, v) :: rest else (k, w) :: putProperty rest key v

end TemplateCompiler
