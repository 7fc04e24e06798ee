import TemplateCompiler.Session.Basic
import TemplateCompiler.Text.Blank

namespace TemplateCompiler.Compiler

open Session

inductive Directive where
  | text | expression | macroDefinition | dependency | unknown
  deriving DecidableEq, Repr

def directive? (name : Value) : Except Fault Directive :=
  match name with
  | .list _ | .record _ => .error (.unhashable name.kind)
  | .text s =>
    .ok (if s = Statement.textName || s = Statement.cdataName then .text
      else if s = Statement.expressionName then .expression
      else if s = Statement.macroName then .macroDefinition
      else if s = Statement.dependencyName then .dependency
      else .unknown)
  | _ => .ok .unknown

def textFor (operation : String) : Value → Except Fault String
  | .text s => .ok s
  | v => .error (.noAttribute v.kind operation)

def reject (s : Statement) (id : String) : Act Unit := reportError (some s) id (.list [s.name])

def compileText (s : Statement) : Act Unit := do
  if ← isReady then
    if s.param.isTruthy then emitLine ["this.__$write(", s.param.json, ");"]
  else reject s Report.statementNotAllowed

def compileExpression (s : Statement) : Act Unit := do
  if ← isReady then
    let expr ← Act.ofExcept (textFor "strip" s.param)
    if Text.trim expr = "" then reject s Report.missingParameter
    else
      emitLineNumber s.line
      let name ← emitGuarded s.param (some s) (.text ("this." ++ Report.exceptionInExpression))
      emitLine ["this.__$write(" ++ name ++ ");"]
  else reject s Report.statementNotAllowed

def referencesOf (param : String) : List String :=
  ((Text.pieces ',' param.toList).map fun piece => Text.trim (String.ofList piece)).filter (· ≠ "")

def compileDependency (s : Statement) : Act Unit := do
  let refs := referencesOf (← Act.ofExcept (textFor "split" s.param))
  if refs.isEmpty then reject s Report.missingParameter
  else addReferences refs

def blockOf (name : String) : String := "macro_" ++ name

def macroBlock (name : String) (body : Act Unit) : Act Unit := do
  let block := blockOf name
  startBlock block (.count 2)
  within block do
    emitLine [block ++ " : function () \x7b"]
    indented do
      emitLine ["try \x7b"]
      indented body
      emitLine ["\x7d catch (_ex) \x7b"]
      indented do
        emitLine ["this.$logError(this.EXCEPTION_IN_MACRO,[" ++ Text.literal name ++ ",this['"
          ++ (← get).config.framework ++ "currentLineNumber']],_ex);"]
      emitLine ["\x7d"]
    emitLine ["\x7d,"]

def compileMacro (s : Statement) (body : Act Unit) : Act Unit := do
  if ← isReady then reject s Report.statementNotAllowed
  else
    let name := Text.trim (← Act.ofExcept (textFor "strip" s.param))
    if name = "" then reject s Report.missingParameter
    else match (← macroSlot name).definition with
      | some first => reportError (some s) Report.macroAlreadyDefined (.list [.text name, first.line])
      | none =>
        setMacro name (some s)
        macroBlock name body

mutual

def compile : Statement → Act Unit
  | ⟨name, line, param, content, properties⟩ => do
    let s : Statement := ⟨name, line, param, content, properties⟩
    match ← Act.ofExcept (directive? name) with
    | .text => compileText s
    | .expression => compileExpression s
    | .macroDefinition => compileMacro s (compileAll content)
    | .dependency => compileDependency s
    | .unknown => reportWarning (some s) Report.unknownStatement (.list [name])

def compilePlace : Option Statement → Act Unit
  | some s => compile s
  | none => throw (.noAttribute .null "name")

def compileAll : List (Option Statement) → Act Unit
  | [] => pure ()
  | place :: rest => do
    compilePlace place
    compileAll rest

end

end TemplateCompiler.Compiler
