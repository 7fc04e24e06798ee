import TemplateCompiler.Number.Notation
import TemplateCompiler.Text.Literal
import TemplateCompiler.Value.Key

namespace TemplateCompiler

namespace Json

def realWords : Binary64.Words := ⟨"NaN", "Infinity"⟩

def boolText (b : Bool) : String := if b then "true" else "false"

def listText (items : List String) : String := "[" ++ String.intercalate ", " items ++ "]"

def recordText (fields : List (String × String)) : String :=
  "\x7b" ++ String.intercalate ", " (fields.map fun f => Text.literal f.1 ++ ": " ++ f.2) ++ "\x7d"

end Json

mutual

def Value.json : Value → String
  | .null => "null"
  | .bool b => Json.boolText b
  | .int n => integerText n
  | .real x => x.text Json.realWords
  | .text s => Text.literal s
  | .list items => Json.listText (Value.jsonItems items)
  | .record fields => Json.recordText (Value.jsonFields fields)

def Value.jsonItems : List Value → List String
  | [] => []
  | v :: rest => v.json :: Value.jsonItems rest

def Value.jsonFields : List (String × Value) → List (String × String)
  | [] => []
  | (name, v) :: rest => (name, v.json) :: Value.jsonFields rest

end

def Key.name : Key → String
  | .null => "null"
  | .bool b => Json.boolText b
  | .int n => integerText n
  | .real x => x.text Json.realWords
  | .text s => s

def propertiesJson (properties : List (Key × Value)) : String :=
  Json.recordText (properties.map fun p => (p.1.name, p.2.json))

end TemplateCompiler
