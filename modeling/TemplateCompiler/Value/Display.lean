import TemplateCompiler.Number.Notation
import TemplateCompiler.Text.Quoted
import TemplateCompiler.Value.Basic

namespace TemplateCompiler.Value

def displayWords : Binary64.Words := ⟨"nan", "inf"⟩

mutual

def display : Value → String
  | .null => "None"
  | .bool b => if b then "True" else "False"
  | .int n => integerText n
  | .real x => x.text displayWords
  | .text s => Text.quoted s
  | .list items => "[" ++ String.intercalate ", " (displayItems items) ++ "]"
  | .record fields => "\x7b" ++ String.intercalate ", " (displayFields fields) ++ "\x7d"

def displayItems : List Value → List String
  | [] => []
  | v :: rest => v.display :: displayItems rest

def displayFields : List (String × Value) → List String
  | [] => []
  | (name, v) :: rest => (Text.quoted name ++ ": " ++ v.display) :: displayFields rest

end

def plain : Value → String
  | .text s => s
  | v => v.display

end TemplateCompiler.Value
