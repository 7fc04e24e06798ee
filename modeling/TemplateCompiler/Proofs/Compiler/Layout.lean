import TemplateCompiler.Proofs.Compiler.Grammar
import TemplateCompiler.Proofs.Number.Notation
import TemplateCompiler.Proofs.Session.Emission

namespace TemplateCompiler.Layout

open Grammar (directive)
open Compiler (referencesOf)

def lineNumber (s : Statement) : Int := (s.line.toInt.toOption).getD 0

def escaped (text : String) : String := String.ofList (Text.literalBody text.toList)

def guardedLines (level : Nat) (name code message : String) (s : Statement) : List Line :=
  [⟨level, "var " ++ name ++ " = null;"⟩,
    ⟨level, "try \x7b"⟩,
    ⟨level + 1, "eval( \"" ++ name ++ "=(" ++ code ++ ")\" );"⟩,
    ⟨level, "\x7d catch (e) \x7b"⟩,
    ⟨level + 1, "this.$logError(" ++ message ++ ",[\"" ++ code ++ "\"," ++ s.line.plain ++ "," ++ s.name.json
      ++ "], e);"⟩,
    ⟨level, "\x7d"⟩]

def expressionLines (framework name : String) (s : Statement) : List Line :=
  [⟨4, "this['" ++ framework ++ "currentLineNumber'] = " ++ toString (lineNumber s) ++ ";"⟩] ++
    guardedLines 4 name (escaped s.paramText) "this.EXCEPTION_IN_EXPRESSION" s ++
    [⟨4, "this.__$write(" ++ name ++ ");"⟩]

def takesName (s : Statement) : Bool := directive s.nameText = .expression && s.title ≠ ""

/-- The variable of the next expression: the stem, its number counted from one, and its digit. -/
def variableName (names : Names) : String :=
  names.stem ++ toString (names.count + 1) ++ "_" ++ toString (names.digits names.count)

theorem variableName_eq (names : Names) : variableName names = names.name (names.count + 1) := rfl

def childLines (framework : String) (names : Names) (s : Statement) : List Line :=
  match directive s.nameText with
  | .text => if s.paramText = "" then [] else [⟨4, "this.__$write(" ++ Text.literal s.paramText ++ ");"⟩]
  | .expression => if s.title = "" then [] else expressionLines framework (variableName names) s
  | _ => []

def referencesIn (s : Statement) : List String :=
  if directive s.nameText = .dependency then referencesOf s.paramText else []

def bodyLines (framework : String) (names : Names) : List Statement → List Line
  | [] => []
  | s :: rest => childLines framework names s ++ bodyLines framework (names.skip (if takesName s then 1 else 0)) rest

def handlerLine (framework name : String) : Line :=
  ⟨4, "this.$logError(this.EXCEPTION_IN_MACRO,[" ++ Text.literal name ++ ",this['" ++ framework
    ++ "currentLineNumber']],_ex);"⟩

def guardLines (framework name : String) (body : List Line) : List Line :=
  [⟨3, "try \x7b"⟩] ++ body ++
    [⟨3, "\x7d catch (_ex) \x7b"⟩, handlerLine framework name, ⟨3, "\x7d"⟩]

def macroLines (framework name : String) (body : List Line) : List Line :=
  [⟨2, "macro_" ++ name ++ " : function () \x7b"⟩] ++ guardLines framework name body ++ [⟨2, "\x7d,"⟩]

/-- The functions of all macros at the top level, in the order of the statements. -/
def prototypeLines (framework : String) (names : Names) : List Statement → List Line
  | [] => []
  | s :: rest =>
    if directive s.nameText = .macroDefinition then
      macroLines framework s.title (bodyLines framework names s.children) ++
        prototypeLines framework (names.skip (s.children.countP takesName)) rest
    else prototypeLines framework names rest

/-- The references of dependencies at the top level and directly in macros, with repetitions. -/
def templateReferences (statements : List Statement) : List String :=
  statements.flatMap fun s =>
    if directive s.nameText = .macroDefinition then s.children.flatMap referencesIn else referencesIn s

def declarationLines (keyword : String) (refs : List String) : List Line :=
  if refs = [] then [] else [⟨0, " " ++ keyword ++ ": [" ++ String.intercalate "," (refs.map Text.literal) ++ "],"⟩]

def classLines (keyword classpath : String) (refs : List String) (prototype : List Line) : List Line :=
  [⟨0, "Aria.classDefinition(\x7b"⟩, ⟨0, " $classpath: " ++ Text.literal classpath ++ ","⟩] ++
    declarationLines keyword refs ++ [⟨0, " $prototype: \x7b"⟩] ++ prototype ++ [⟨0, " \x7d"⟩, ⟨0, "\x7d);"⟩]

/-- The text of the class that a template stands for. -/
def classText (config : Config) (digits : Digits) (classpath : String) (statements : List Statement) : String :=
  rendered config.indentUnit (classLines config.dependenciesKeyword classpath
    (templateReferences statements).eraseDups
    (prototypeLines config.framework ⟨config.nameStem, digits, 0⟩ statements))

end TemplateCompiler.Layout
