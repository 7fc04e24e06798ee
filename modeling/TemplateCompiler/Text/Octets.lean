import TemplateCompiler.Fault

namespace TemplateCompiler.Octets

def width? (first : UInt8) : Option Nat :=
  if first < 0x80 then some 1
  else if first < 0xc2 then none
  else if first < 0xe0 then some 2
  else if first < 0xf0 then some 3
  else if first < 0xf5 then some 4
  else none

/-- The octets that may come second: no character is written longer than need be, is a surrogate or lies above the last
    one. -/
def secondBounds (first : UInt8) : UInt8 × UInt8 :=
  if first = 0xe0 then (0xa0, 0xbf)
  else if first = 0xed then (0x80, 0x9f)
  else if first = 0xf0 then (0x90, 0xbf)
  else if first = 0xf4 then (0x80, 0x8f)
  else (0x80, 0xbf)

def goodLength (bounds : UInt8 × UInt8) : List UInt8 → Nat
  | [] => 0
  | b :: rest => if bounds.1 ≤ b && b ≤ bounds.2 then goodLength (0x80, 0xbf) rest + 1 else 0

def leadBits (first : UInt8) (width : Nat) : Nat :=
  match width with
  | 1 => first.toNat
  | 2 => first.toNat - 0xc0
  | 3 => first.toNat - 0xe0
  | _ => first.toNat - 0xf0

def scalar (first : UInt8) (more : List UInt8) : Char :=
  Char.ofNat (more.foldl (fun n b => 64 * n + (b.toNat - 0x80)) (leadBits first (more.length + 1)))

/-- The characters of octets that begin at a position; `done` holds those before, last first. -/
def decodeFrom (position : Nat) (done : List Char) (octets : List UInt8) : Except Flaw (List Char) :=
  match octets with
  | [] => .ok done.reverse
  | first :: rest =>
    match width? first with
    | none => .error ⟨.start, first, position, 1⟩
    | some width =>
      let more := rest.take (width - 1)
      let good := goodLength (secondBounds first) more
      if good < more.length then .error ⟨.continuation, first, position, good + 1⟩
      else if more.length < width - 1 then .error ⟨.truncated, first, position, good + 1⟩
      else decodeFrom (position + width) (scalar first more :: done) (rest.drop (width - 1))
termination_by octets.length
decreasing_by simp only [List.length_drop, List.length_cons]; omega

def unifyNewlines (done : List Char) : List Char → List Char
  | [] => done.reverse
  | '\r' :: '\n' :: rest => unifyNewlines ('\n' :: done) rest
  | '\r' :: rest => unifyNewlines ('\n' :: done) rest
  | c :: rest => unifyNewlines (c :: done) rest

def toText (octets : List UInt8) : Except Fault String :=
  match decodeFrom 0 [] octets with
  | .ok cs => .ok (String.ofList (unifyNewlines [] cs))
  | .error flaw => .error (.undecodable (.octets flaw))

end TemplateCompiler.Octets
