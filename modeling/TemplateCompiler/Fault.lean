import TemplateCompiler.Number.Notation
import TemplateCompiler.Text.Quoted
import TemplateCompiler.Value.Basic

namespace TemplateCompiler

structure Place where
  line : Nat
  column : Nat
  offset : Nat
  deriving DecidableEq, Repr

def Place.ofOffset (cs : List Char) (offset : Nat) : Place :=
  let before := cs.take offset
  { line := before.count '\n' + 1
    column := (before.reverse.takeWhile (· ≠ '\n')).length + 1
    offset := offset }

inductive Json.Problem where
  | byteOrderMark | extraData | value | propertyName | colon | comma | controlCharacter | unterminated | escape
  | unicodeEscape
  deriving DecidableEq, Repr

def Json.Problem.text : Json.Problem → String
  | .byteOrderMark => "Unexpected UTF-8 BOM (decode using utf-8-sig)"
  | .extraData => "Extra data"
  | .value => "Expecting value"
  | .propertyName => "Expecting property name enclosed in double quotes"
  | .colon => "Expecting ':' delimiter"
  | .comma => "Expecting ',' delimiter"
  | .controlCharacter => "Invalid control character at"
  | .unterminated => "Unterminated string starting at"
  | .escape => "Invalid \\escape"
  | .unicodeEscape => "Invalid \\uXXXX escape"

inductive Octets.Problem where
  | start | continuation | truncated
  deriving DecidableEq, Repr

/-- Octets that are no UTF-8: the first bad one, where it is and how many belong together. -/
structure Octets.Flaw where
  problem : Octets.Problem
  first : UInt8
  position : Nat
  length : Nat
  deriving DecidableEq, Repr

/-- What cannot be written in UTF-8 or read from it. Half of a surrogate pair is a code unit, but no character. -/
inductive Uncodable where
  | octets (flaw : Octets.Flaw)
  | half (unit : Nat)
  deriving DecidableEq, Repr

inductive Nested where
  | statement | list | record
  deriving DecidableEq, Repr

inductive Fault where
  | noActiveBlock
  | unknownBlock (name : String)
  | missingField (name : String)
  | notIterable (kind : Kind)
  | notIndexable (kind : Kind)
  | listIndexedByText
  | textIndexedByText
  | unhashable (kind : Kind)
  | elementWithoutParts (index : Nat)
  | elementNotPair (index length : Nat)
  | notNumeric (kind : Kind)
  | badInteger (text : String)
  | tooManyDigits (count : Nat)
  | integerOfNan
  | integerOfInfinity
  | noAttribute (kind : Kind) (name : String)
  | levelNotCount (kind : Kind)
  | levelNotNumeric (kind : Kind)
  | levelTooWide
  | indentTooLong
  | outOfMemory
  | textLevelIncreased
  | badLevelChange (sign : String) (kind : Kind)
  | pieceNotText (index : Nat) (kind : Kind)
  | logLevelNotInteger
  | nestedTooDeep (nested : Nested)
  | emptyRange (low high : Int)
  | malformedJson (problem : Json.Problem) (place : Place)
  | undecodable (what : Uncodable)
  | fileMissing (path : String)
  | fileIsDirectory (path : String)
  | pathNotDirectory (path : String)
  | pathTooLong (path : String)
  | pathHoldsNull
  deriving DecidableEq, Repr

/-- The most digits that an integer numeral may have, where their number is limited at all. -/
def digitLimit : Nat := 4300

namespace Octets.Flaw

def reason : Octets.Problem → String
  | .start => "invalid start byte"
  | .continuation => "invalid continuation byte"
  | .truncated => "unexpected end of data"

def message (flaw : Octets.Flaw) : String :=
  let place :=
    if flaw.length = 1 then
      "byte 0x" ++ String.ofList (Text.hex 2 flaw.first.toNat) ++ " in position " ++ naturalText flaw.position
    else
      "bytes in position " ++ naturalText flaw.position ++ "-" ++ naturalText (flaw.position + flaw.length - 1)
  "'utf-8' codec can't decode " ++ place ++ ": " ++ reason flaw.problem

end Octets.Flaw

def Uncodable.message : Uncodable → String
  | .octets flaw => flaw.message
  | .half unit =>
    "'utf-8' codec can't encode character '\\u" ++ String.ofList (Text.hex 4 unit) ++ "': surrogates not allowed"

def Nested.description : Nested → String
  | .statement => ""
  | .list => " while decoding a JSON array from a unicode string"
  | .record => " while decoding a JSON object from a unicode string"

def Kind.quoted (kind : Kind) : String := "'" ++ kind.word ++ "'"

namespace Fault

def message : Fault → String
  | noActiveBlock => "No output block is active"
  | unknownBlock name | missingField name => Text.quoted name
  | notIterable kind => kind.quoted ++ " object is not iterable"
  | notIndexable kind => kind.quoted ++ " object is not subscriptable"
  | listIndexedByText => "list indices must be integers or slices, not str"
  | textIndexedByText => "string indices must be integers, not 'str'"
  | unhashable kind => "unhashable type: " ++ kind.quoted
  | elementWithoutParts index =>
    "cannot convert dictionary update sequence element #" ++ naturalText index ++ " to a sequence"
  | elementNotPair index length =>
    "dictionary update sequence element #" ++ naturalText index ++ " has length " ++ naturalText length
      ++ "; 2 is required"
  | notNumeric kind =>
    "int() argument must be a string, a bytes-like object or a real number, not " ++ kind.quoted
  | badInteger text =>
    "invalid literal for int() with base 10: " ++ String.ofList ((Text.quoted text).toList.take 200)
  | tooManyDigits count =>
    "Exceeds the limit (" ++ naturalText digitLimit ++ " digits) for integer string conversion: value has "
      ++ naturalText count ++ " digits; use sys.set_int_max_str_digits() to increase the limit"
  | integerOfNan => "cannot convert float NaN to integer"
  | integerOfInfinity => "cannot convert float infinity to integer"
  | noAttribute kind name => kind.quoted ++ " object has no attribute '" ++ name ++ "'"
  | levelNotCount kind => "can't multiply sequence by non-int of type " ++ kind.quoted
  | levelNotNumeric kind => "%d format: a real number is required, not " ++ kind.word
  | levelTooWide => "cannot fit 'int' into an index-sized integer"
  | indentTooLong => "repeated string is too long"
  | outOfMemory => ""
  | textLevelIncreased => "can only concatenate str (not \"int\") to str"
  | badLevelChange sign kind => "unsupported operand type(s) for " ++ sign ++ ": " ++ kind.quoted ++ " and 'int'"
  | pieceNotText index kind =>
    "sequence item " ++ naturalText index ++ ": expected str instance, " ++ kind.word ++ " found"
  | logLevelNotInteger => "level must be an integer"
  | nestedTooDeep nested => "maximum recursion depth exceeded" ++ nested.description
  | emptyRange low high =>
    "empty range for randrange() (" ++ integerText low ++ ", " ++ integerText (high + 1) ++ ", "
      ++ integerText (high + 1 - low) ++ ")"
  | malformedJson problem place =>
    problem.text ++ ": line " ++ naturalText place.line ++ " column " ++ naturalText place.column ++ " (char "
      ++ naturalText place.offset ++ ")"
  | undecodable what => what.message
  | fileMissing path => "[Errno 2] No such file or directory: " ++ Text.quoted path
  | fileIsDirectory path => "[Errno 21] Is a directory: " ++ Text.quoted path
  | pathNotDirectory path => "[Errno 20] Not a directory: " ++ Text.quoted path
  | pathTooLong path => "[Errno 36] File name too long: " ++ Text.quoted path
  | pathHoldsNull => "embedded null byte"

end Fault

end TemplateCompiler
