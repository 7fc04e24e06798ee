import TemplateCompiler.Statement.Basic
import TemplateCompiler.Value.Display

namespace TemplateCompiler

structure Report where
  statement : Option Statement
  id : String
  args : Value := .null
  context : Value := .null
  deriving Repr

namespace Report

def exceptionInExpression : String := "EXCEPTION_IN_EXPRESSION"

def macroAlreadyDefined : String := "MACRO_ALREADY_DEFINED"

def statementNotAllowed : String := "STATEMENT_NOT_ALLOWED"

def unknownStatement : String := "UNKNOWN_STATEMENT"

def missingParameter : String := "MISSING_PARAMETER"

def missingMainMacro : String := "MISSING_MAIN_MACRO"

def summary (r : Report) : String :=
  let place := match r.statement with
    | some s => " at line " ++ s.line.plain ++ " (" ++ s.name.plain ++ ")"
    | none => ""
  let args := if r.args.isTruthy then " " ++ r.args.display else ""
  r.id ++ place ++ args

end Report

structure LogLine where
  level : Int
  channel : String
  text : String
  deriving DecidableEq, Repr

namespace LogLine

def levelName (level : Int) : String :=
  if level = 0 then "NOTSET"
  else if level = 10 then "DEBUG"
  else if level = 20 then "INFO"
  else if level = 30 then "WARNING"
  else if level = 40 then "ERROR"
  else if level = 50 then "CRITICAL"
  else "Level " ++ integerText level

def render (l : LogLine) : String := levelName l.level ++ ":" ++ l.channel ++ ":" ++ l.text

end LogLine

inductive Note where
  | blockAdded (name : String) (level : Int)
  | unknownEntered (name : String)
  | nameGiven (name : String)
  | macroSlotMade (name : String)
  | viewSlotMade (name : String)
  | errorReported (id : String)
  | warningReported (id : String)
  | relayed (line : LogLine)
  | generationFailed (classpath : String)
  deriving DecidableEq, Repr

def Note.line : Note → LogLine
  | .blockAdded name level =>
    ⟨10, "classwriter.codegen", "new block " ++ Text.quoted name ++ " (indent " ++ integerText level ++ ")"⟩
  | .unknownEntered name =>
    ⟨10, "classwriter.codegen", "entered unknown block " ++ Text.quoted name ++ ", no output block is active"⟩
  | .nameGiven name => ⟨10, "classwriter.naming", "allocated temporary " ++ name⟩
  | .macroSlotMade name => ⟨10, "classwriter.registry", "new MacroDescriptor for " ++ Text.quoted name⟩
  | .viewSlotMade name => ⟨10, "classwriter.registry", "new ViewDescriptor for " ++ Text.quoted name⟩
  | .errorReported id => ⟨10, "classwriter.writer", "error " ++ id ++ " reported"⟩
  | .warningReported id => ⟨10, "classwriter.writer", "warning " ++ id ++ " reported"⟩
  | .relayed line => line
  | .generationFailed classpath => ⟨20, "classwriter.processors", "generation of " ++ classpath ++ " failed"⟩

end TemplateCompiler
