import TemplateCompiler.Fault
import TemplateCompiler.Ordered

namespace TemplateCompiler.Json

def nestingLimit : Nat := 990

inductive Flaw where
  | malformed (problem : Problem) (left : Nat)
  | nestedTooDeep (nested : Nested)
  | tooManyDigits (count : Nat)
  | halfPair (unit : Nat)
  deriving DecidableEq, Repr

def isSpace (c : Char) : Bool := c = ' ' || c = '\t' || c = '\n' || c = '\r'

def skipSpace (cs : List Char) : List Char := cs.dropWhile isSpace

def hexValue? (c : Char) : Option Nat :=
  if '0' ≤ c && c ≤ '9' then some (c.toNat - 48)
  else if 'a' ≤ c && c ≤ 'f' then some (c.toNat - 87)
  else if 'A' ≤ c && c ≤ 'F' then some (c.toNat - 55)
  else none

def unit? (a b c d : Char) : Option Nat := do
  let a ← hexValue? a
  let b ← hexValue? b
  let c ← hexValue? c
  let d ← hexValue? d
  return 4096 * a + 256 * b + 16 * c + d

def unescape? (c : Char) : Option Char :=
  if c = '"' then some '"'
  else if c = '\\' then some '\\'
  else if c = '/' then some '/'
  else if c = 'b' then some '\x08'
  else if c = 'f' then some '\x0c'
  else if c = 'n' then some '\n'
  else if c = 'r' then some '\r'
  else if c = 't' then some '\t'
  else none

def isHighSurrogate (unit : Nat) : Bool := 0xd800 ≤ unit && unit < 0xdc00

def isLowSurrogate (unit : Nat) : Bool := 0xdc00 ≤ unit && unit < 0xe000

def pairChar (high low : Nat) : Char := Char.ofNat (0x10000 + 0x400 * (high - 0xd800) + (low - 0xdc00))

/-- The first code unit of a document that is half of a pair without the other half. Escapes are told from the backslash
    on, so the document must be well formed. -/
def half? : List Char → Option Nat
  | '\\' :: 'u' :: h₁ :: h₂ :: h₃ :: h₄ :: rest =>
    match unit? h₁ h₂ h₃ h₄ with
    | none => half? rest
    | some unit =>
      if isHighSurrogate unit then
        match rest with
        | '\\' :: 'u' :: l₁ :: l₂ :: l₃ :: l₄ :: more =>
          if (unit? l₁ l₂ l₃ l₄).any isLowSurrogate then half? more else some unit
        | _ => some unit
      else if isLowSurrogate unit then some unit
      else half? rest
  | '\\' :: _ :: rest => half? rest
  | _ :: rest => half? rest
  | [] => none

/-- The text up to the closing quote; `opening` is what is left at the opening one, and `done` holds what is read, last
    character first. What stands for half of a pair here does not matter, as no document with one has a value. -/
def readText (opening done : List Char) : List Char → Except Flaw (List Char × List Char)
  | [] => .error (.malformed .unterminated opening.length)
  | c :: rest =>
    if c = '"' then .ok (done.reverse, rest)
    else if c = '\\' then
      match rest with
      | [] => .error (.malformed .unterminated opening.length)
      | e :: rest =>
        if e = 'u' then
          match rest with
          | h₁ :: h₂ :: h₃ :: h₄ :: rest =>
            if rest.isEmpty then .error (.malformed .unicodeEscape 5)
            else match unit? h₁ h₂ h₃ h₄ with
              | none => .error (.malformed .unicodeEscape (rest.length + 5))
              | some unit =>
                match rest with
                | b :: u :: l₁ :: l₂ :: l₃ :: l₄ :: more =>
                  if isHighSurrogate unit && b = '\\' && u = 'u' && !more.isEmpty then
                    match unit? l₁ l₂ l₃ l₄ with
                    | none => .error (.malformed .unicodeEscape (more.length + 5))
                    | some low =>
                      if isLowSurrogate low then readText opening (pairChar unit low :: done) more
                      else readText opening (Char.ofNat unit :: done) (b :: u :: l₁ :: l₂ :: l₃ :: l₄ :: more)
                  else readText opening (Char.ofNat unit :: done) (b :: u :: l₁ :: l₂ :: l₃ :: l₄ :: more)
                | rest => readText opening (Char.ofNat unit :: done) rest
          | rest => .error (.malformed .unicodeEscape (rest.length + 1))
        else match unescape? e with
          | some c => readText opening (c :: done) rest
          | none => .error (.malformed .escape (rest.length + 2))
    else if c < ' ' then .error (.malformed .controlCharacter (rest.length + 1))
    else readText opening (c :: done) rest

def isDigit (c : Char) : Bool := '0' ≤ c && c ≤ '9'

def digitsValue (digits : List Char) : Nat := digits.foldl (fun n c => 10 * n + (c.toNat - 48)) 0

def wholeDigits : List Char → List Char × List Char
  | '0' :: rest => (['0'], rest)
  | cs => (cs.takeWhile isDigit, cs.dropWhile isDigit)

def fraction : List Char → List Char × List Char
  | '.' :: rest =>
    if (rest.takeWhile isDigit).isEmpty then ([], '.' :: rest) else (rest.takeWhile isDigit, rest.dropWhile isDigit)
  | cs => ([], cs)

def exponentDigits (negative : Bool) (cs : List Char) : Option (Int × List Char) :=
  let digits := cs.takeWhile isDigit
  if digits.isEmpty then none
  else
    let size : Int := digitsValue digits
    some (if negative then -size else size, cs.dropWhile isDigit)

def exponent? : List Char → Option (Int × List Char)
  | c :: rest =>
    if c = 'e' || c = 'E' then
      match rest with
      | '-' :: rest => exponentDigits true rest
      | '+' :: rest => exponentDigits false rest
      | rest => exponentDigits false rest
    else none
  | [] => none

/-- A number with its sign read; `start` is what is left before the sign. The digits of an integer may be limited. -/
def readNumber (limited : Bool) (start : List Char) (negative : Bool) (cs : List Char) :
    Except Flaw (Value × List Char) :=
  let (whole, rest) := wholeDigits cs
  if whole.isEmpty then .error (.malformed .value start.length)
  else
    let (places, rest) := fraction rest
    match places, exponent? rest with
    | [], none =>
      if limited && digitLimit < whole.length then .error (.tooManyDigits whole.length)
      else .ok (.int (if negative then -(digitsValue whole : Int) else digitsValue whole), rest)
    | _, some (e, rest) =>
      .ok (.real (.ofDecimal negative (digitsValue (whole ++ places)) (e - places.length)), rest)
    | _, none => .ok (.real (.ofDecimal negative (digitsValue (whole ++ places)) (-(places.length : Int))), rest)

def namedValues : List (List Char × Value) :=
  [("null".toList, .null), ("true".toList, .bool true), ("false".toList, .bool false), ("NaN".toList, .real .nan),
    ("Infinity".toList, .real (.infinite false)), ("-Infinity".toList, .real (.infinite true))]

def readAtom (limited : Bool) (cs : List Char) : Except Flaw (Value × List Char) :=
  match namedValues.find? fun w => w.1.isPrefixOf cs with
  | some (word, v) => .ok (v, cs.drop word.length)
  | none =>
    match cs with
    | '-' :: rest => readNumber limited cs true rest
    | _ => readNumber limited cs false cs

section

variable (limited : Bool)

mutual

/-- A value at the very start of the text. The fuel bounds the number of parts, `room` tells how many lists and records
    may still be opened. -/
def readValue : Nat → Nat → List Char → Except Flaw (Value × List Char)
  | 0, _, cs => .error (.malformed .value cs.length)
  | fuel + 1, room, cs =>
    match cs with
    | '"' :: rest => do
      let (s, rest) ← readText cs [] rest
      return (.text (String.ofList s), rest)
    | '[' :: rest =>
      match room, skipSpace rest with
      | 0, _ => .error (.nestedTooDeep .list)
      | _ + 1, ']' :: rest => .ok (.list [], rest)
      | room + 1, rest => readItems fuel room [] rest
    | '\x7b' :: rest =>
      match room, skipSpace rest with
      | 0, _ => .error (.nestedTooDeep .record)
      | _ + 1, '\x7d' :: rest => .ok (.record [], rest)
      | room + 1, rest => readFields fuel room [] rest
    | cs => readAtom limited cs

def readItems : Nat → Nat → List Value → List Char → Except Flaw (Value × List Char)
  | 0, _, _, cs => .error (.malformed .value cs.length)
  | fuel + 1, room, done, cs => do
    let (v, rest) ← readValue fuel room cs
    match skipSpace rest with
    | ']' :: rest => return (.list (v :: done).reverse, rest)
    | ',' :: rest => readItems fuel room (v :: done) (skipSpace rest)
    | rest => throw (.malformed .comma rest.length)

def readFields : Nat → Nat → List (String × Value) → List Char → Except Flaw (Value × List Char)
  | 0, _, _, cs => .error (.malformed .value cs.length)
  | fuel + 1, room, done, cs =>
    match cs with
    | '"' :: rest => do
      let (name, rest) ← readText cs [] rest
      match skipSpace rest with
      | ':' :: rest =>
        let (v, rest) ← readValue fuel room (skipSpace rest)
        let fields := Ordered.put done (String.ofList name) v
        match skipSpace rest with
        | '\x7d' :: rest => return (.record fields, rest)
        | ',' :: rest => readFields fuel room fields (skipSpace rest)
        | rest => throw (.malformed .comma rest.length)
      | rest => throw (.malformed .colon rest.length)
    | cs => .error (.malformed .propertyName cs.length)

end

end

/-- The value of a whole document, in which a field that is given twice keeps its first place and its last value. Texts
    are made of characters, so there is no value if half of a pair stands alone. -/
def readAll (limited : Bool) (cs : List Char) : Except Flaw Value := do
  if cs.head? = some '\ufeff' then throw (.malformed .byteOrderMark cs.length)
  let (v, rest) ← readValue limited (2 * cs.length + 2) nestingLimit (skipSpace cs)
  match skipSpace rest with
  | [] =>
    match half? cs with
    | none => return v
    | some unit => throw (.halfPair unit)
  | rest => throw (.malformed .extraData rest.length)

def Flaw.fault (cs : List Char) : Flaw → Fault
  | .malformed problem left => .malformedJson problem (Place.ofOffset cs (cs.length - left))
  | .nestedTooDeep nested => .nestedTooDeep nested
  | .tooManyDigits count => .tooManyDigits count
  | .halfPair unit => .undecodable (.half unit)

def readWith (limited : Bool) (s : String) : Except Fault Value :=
  (readAll limited s.toList).mapError (Flaw.fault s.toList)

def read (s : String) : Except Fault Value := readWith true s

def readUnlimited (s : String) : Except Fault Value := readWith false s

end TemplateCompiler.Json
