import TemplateCompiler.Compiler.ClassText
import TemplateCompiler.Json.Reader

namespace TemplateCompiler

inductive Subject where
  | given (s : Option Statement)
  | current
  deriving Repr

def Subject.resolve (subject : Subject) (current : Option Statement) : Option Statement :=
  match subject with
  | .given s => s
  | .current => current

inductive Action where
  | startBlock (name : String) (level : Level)
  | enter (name : String)
  | leave
  | hasBlock (name : String)
  | blockContent (name : String)
  | blockNames
  | isReady
  | increase
  | decrease
  | write (pieces : List Value)
  | writeLine (pieces : List Value)
  | indented (body : List Action)
  | within (name : String) (body : List Action)
  | setUnit (unit : Option String)
  | addReferences (refs : List String)
  | declaration
  | references
  | takeName
  | literal (json : String)
  | macroSlot (name : String)
  | setMacro (name : String) (definition : Subject)
  | viewSlot (name : String)
  | setView (name : String) (definition : Subject) (parameterCount : Value)
  | symbols
  | emitGuarded (expr : Value) (subject : Subject) (errorName : Value)
  | emitLineNumber (json : String)
  | report (isError : Bool) (subject : Subject) (id : String) (args : Value)
  | setContext (json : String)
  | handleAll (places : List (Option Statement))
  | handle (subject : Subject)
  | handleContent
  | writeParam
  | classText (classpath : Value)
  | surroundings
  deriving Repr

inductive Answer where
  | done
  | flag (b : Bool)
  | text (s : String)
  | texts (items : List String)
  | definition (s : Option Statement)
  | view (slot : ViewSlot)
  | symbols (macros views : List String)
  | surroundings (s : Session)

/-- What a trace records: answers of actions inside others, and the names of the statements that a script met. -/
inductive TraceItem where
  | answer (a : Answer)
  | met (name : Value)

structure Play where
  session : Session
  trace : List TraceItem := []

namespace Play

abbrev Act := EStateM Fault Play

def onSession {α : Type} (act : Session.Act α) : Act α := fun p =>
  match act p.session with
  | .ok a session => .ok a { p with session }
  | .error e session => .error e { p with session }

def record (item : TraceItem) : Act Unit := modify fun p => { p with trace := p.trace ++ [item] }

abbrev Handler := Statement → Act Unit

def need (field : String) : Option Statement → Act Statement
  | some s => pure s
  | none => throw (.noAttribute .null field)

def handlePlace (handle : Handler) (place : Option Statement) : Act Unit := do handle (← need "name" place)

def whole (definition : Option Statement) : Act (Option Statement) :=
  if definition.all Statement.isComplete then pure definition else throw (.noAttribute .null "name")

def readJson (json : String) : Act Value := Act.ofExcept (Json.read json)

open Session (emitGuarded emitLineNumber) in
def step (handle : Handler) (current : Option Statement) : Action → Act Answer
  | .startBlock name level => do onSession (Session.startBlock name level); return .done
  | .enter name => do onSession (Session.enter name); return .done
  | .leave => do onSession Session.leave; return .done
  | .hasBlock name => do return .flag (← onSession (Session.hasBlock name))
  | .blockContent name => do return .text (← onSession (Session.blockContent name))
  | .blockNames => do return .texts ((← get).session.buffer.names.map Prod.fst)
  | .isReady => do return .flag (← onSession Session.isReady)
  | .increase => do onSession Session.increase; return .done
  | .decrease => do onSession Session.decrease; return .done
  | .write pieces => do onSession (Session.write pieces); return .done
  | .writeLine pieces => do onSession (Session.writeLine pieces); return .done
  | .setUnit unit => do
    onSession (Session.setUnit unit)
    return match unit with
      | some u => .text u
      | none => .done
  | .addReferences refs => do onSession (Session.addReferences refs); return .done
  | .declaration => do return .text (← onSession Session.declaration)
  | .references => do return .texts (← get).session.references.toList
  | .takeName => do return .text (← onSession Session.takeName)
  | .literal json => do return .text (← readJson json).json
  | .macroSlot name => do return .definition (← whole (← onSession (Session.macroSlot name)).definition)
  | .setMacro name definition => do
    onSession (Session.setMacro name (definition.resolve current))
    return .done
  | .viewSlot name => do
    let slot ← onSession (Session.viewSlot name)
    return .view { slot with firstDefinition := ← whole slot.firstDefinition }
  | .setView name definition count => do
    onSession (Session.setView name (definition.resolve current) count)
    return .done
  | .symbols => do
    let s := (← get).session
    return .symbols s.macros.names s.views.names
  | .emitGuarded expr subject errorName => do
    return .text (← onSession (emitGuarded expr (subject.resolve current) errorName))
  | .emitLineNumber json => do
    let line ← readJson json
    onSession (emitLineNumber line)
    return .done
  | .report isError subject id args => do
    let s := subject.resolve current
    onSession (if isError then Session.reportError s id args else Session.reportWarning s id args)
    return .done
  | .setContext json => do
    let context ← readJson json
    onSession (modify ({ · with context }))
    return .done
  | .handleAll places => do places.forM (handlePlace handle); return .done
  | .handle subject => do handlePlace handle (subject.resolve current); return .done
  | .handleContent => do (← need "content" current).content.forM (handlePlace handle); return .done
  | .writeParam => do
    onSession (Session.writeLine [(← need "param_block" current).param])
    return .done
  | .classText classpath => do return .text (← onSession (Compiler.classText classpath))
  | .surroundings => do return .surroundings (← get).session
  | .indented _ | .within _ _ => return .done

mutual

def run (handle : Handler) (current : Option Statement) : Action → Act Answer
  | .indented body => do
    Act.between (onSession Session.increase) (runInside handle current body) (onSession Session.decrease)
    return .done
  | .within name body => do
    Act.between (onSession (Session.enter name)) (runInside handle current body) (onSession Session.leave)
    return .done
  | action => step handle current action

def runInside (handle : Handler) (current : Option Statement) : List Action → Act Unit
  | [] => pure ()
  | action :: rest => do
    record (.answer (← run handle current action))
    runInside handle current rest

end

end Play

/-- The actions for statements of each name, and for all others under `"*"`. -/
abbrev Script := List (String × List Action)

namespace Script

def actionsFor (script : Script) (name : Value) : Except Fault (List Action) :=
  let others := (script.lookup "*").getD []
  match name with
  | .text s => .ok ((script.lookup s).getD others)
  | .list _ | .record _ => .error (.unhashable name.kind)
  | _ => .ok others

def depthLimit : Nat := 300

def handler (script : Script) : Nat → Play.Handler
  | 0, _ => throw (.nestedTooDeep .statement)
  | depth + 1, s => do
    Play.record (.met s.name)
    let actions ← Act.ofExcept (script.actionsFor s.name)
    Play.runInside (handler script depth) (some s) actions

end Script

inductive Handling where
  | compiled
  | scripted (script : Script)

def Handling.handler : Handling → Play.Handler
  | .compiled => fun s => Play.onSession (Compiler.compile s)
  | .scripted script => script.handler Script.depthLimit

end TemplateCompiler
