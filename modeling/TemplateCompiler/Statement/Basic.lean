import TemplateCompiler.Value.Key

namespace TemplateCompiler

/-- A statement as it is read. The fields hold any value, and a place in the content may be empty; what is wrong is
    found out by those who look there. -/
structure Statement where
  name : Value
  line : Value
  param : Value
  content : List (Option Statement)
  properties : List (Key × Value)
  deriving Repr, Inhabited

namespace Statement

def hasContent (s : Statement) : Bool := !s.content.isEmpty

mutual

/-- Whether there is no empty place in a statement, at any depth. -/
def isComplete : Statement → Bool
  | ⟨_, _, _, content, _⟩ => areFilled content

def isFilled : Option Statement → Bool
  | none => false
  | some s => isComplete s

def areFilled : List (Option Statement) → Bool
  | [] => true
  | place :: rest => isFilled place && areFilled rest

end

def textName : String := "#TEXT#"

def cdataName : String := "#CDATA#"

def expressionName : String := "#EXPRESSION#"

def macroName : String := "macro"

def dependencyName : String := "dependency"

end Statement

end TemplateCompiler
