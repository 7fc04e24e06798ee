import TemplateCompiler.Buffer.Basic
import TemplateCompiler.Names
import TemplateCompiler.References
import TemplateCompiler.Report
import TemplateCompiler.Slots
import TemplateCompiler.Json.Printer
import TemplateCompiler.Value.Integer

namespace TemplateCompiler

structure Config where
  indentUnit : Option String := some " "
  nameStem : String := "__v_"
  framework : String := "aria:"
  dependenciesKeyword : String := "$dependencies"
  deriving DecidableEq, Repr

structure MacroSlot where
  definition : Option Statement := none
  deriving Repr

structure ViewSlot where
  firstDefinition : Option Statement := none
  parameterCount : Value := .null
  deriving Repr

/-- Where reports go: they are kept, or relayed to the log, which takes none without a level. -/
inductive Sink where
  | collect
  | relay (channel : String) (level : Option Int)
  deriving DecidableEq, Repr

structure Surroundings where
  allDependencies : Option Bool := none
  templateParam : Value := .null
  parentClassType : String := "JS"
  parentClassName : Option String := none
  parentClasspath : Option String := none
  scriptClassName : Option String := none
  scriptClasspath : Option String := none
  widgetLibraries : List (String × String) := []
  isDebug : Bool := false
  tree : Value := .null
  deriving Repr

structure Session where
  config : Config
  sink : Sink
  buffer : Buffer
  names : Names
  references : References := {}
  macros : Slots MacroSlot := {}
  views : Slots ViewSlot := {}
  failed : Bool := false
  context : Value := .null
  surroundings : Surroundings := {}
  reports : List Report := []
  /-- Whether notes are worded as they arise, so that one without words is a fault. -/
  isLogged : Bool := false
  notes : List Note := []

namespace Session

def fresh (config : Config) (digits : Digits) (sink : Sink) : Session :=
  { config, sink, buffer := { unit := config.indentUnit }, names := ⟨config.nameStem, digits, 0⟩ }

abbrev Act := EStateM Fault Session

def onBuffer {α : Type} (act : Buffer.Act α) : Act α := fun s =>
  match act s.buffer with
  | .ok a buffer => .ok a { s with buffer }
  | .error e buffer => .error e { s with buffer }

def note (n : Note) : Act Unit := modify fun s => { s with notes := s.notes ++ [n] }

def getBuffer : Act Buffer := do return (← get).buffer

/-! Blocks -/

def startBlock (name : String) (level : Level) : Act Unit := do
  onBuffer (Buffer.startBlock name level)
  match level.whole with
  | .ok n => note (.blockAdded name n)
  | .error fault => if (← get).isLogged then throw fault

def enter (name : String) : Act Unit := do
  onBuffer (Buffer.enter name)
  if !(← getBuffer).isReady then note (.unknownEntered name)

def leave : Act Unit := onBuffer Buffer.leave

def isReady : Act Bool := do return (← getBuffer).isReady

def hasBlock (name : String) : Act Bool := do return (← getBuffer).has name

def blockContent (name : String) : Act String := do Act.ofExcept ((← getBuffer).content name)

def write (pieces : List Value) : Act Unit := onBuffer (Buffer.write pieces)

def writeLine (pieces : List Value) : Act Unit := onBuffer (Buffer.writeLine pieces)

def increase : Act Unit := onBuffer Buffer.increase

def decrease : Act Unit := onBuffer Buffer.decrease

def setUnit (unit : Option String) : Act Unit := onBuffer (modify (·.setUnit unit))

def within {α : Type} (name : String) (body : Act α) : Act α := Act.between (enter name) body leave

def indented {α : Type} (body : Act α) : Act α := Act.between increase body decrease

/-! References and slots -/

def addReferences (refs : List String) : Act Unit :=
  modify fun s => { s with references := s.references.addAll refs }

def declaration : Act String := do
  let s ← get
  return s.references.declaration s.config.dependenciesKeyword

def macroSlot (name : String) : Act MacroSlot := do
  let s ← get
  let (slot, macros) := s.macros.get (fun _ => some {}) name
  set { s with macros }
  if macros.calls ≠ s.macros.calls then note (.macroSlotMade name)
  return slot.getD {}

def setMacro (name : String) (definition : Option Statement) : Act Unit := do
  let slot ← macroSlot name
  modify fun s => { s with macros := s.macros.put name { slot with definition } }

def viewSlot (name : String) : Act ViewSlot := do
  let s ← get
  let (slot, views) := s.views.get (fun _ => some {}) name
  set { s with views }
  if views.calls ≠ s.views.calls then note (.viewSlotMade name)
  return slot.getD {}

def setView (name : String) (firstDefinition : Option Statement) (parameterCount : Value) : Act Unit := do
  let slot ← viewSlot name
  modify fun s => { s with views := s.views.put name { slot with firstDefinition, parameterCount } }

/-! Reports -/

def report (statement : Option Statement) (id : String) (args : Value) : Act Unit := do
  let s ← get
  let r : Report := ⟨statement, id, args, s.context⟩
  match s.sink with
  | .collect => set { s with reports := s.reports ++ [r] }
  | .relay channel (some level) => note (.relayed ⟨level, channel, r.summary⟩)
  | .relay _ none => throw .logLevelNotInteger

def reportError (statement : Option Statement) (id : String) (args : Value) : Act Unit := do
  modify ({ · with failed := true })
  note (.errorReported id)
  report statement id args

def reportWarning (statement : Option Statement) (id : String) (args : Value) : Act Unit := do
  note (.warningReported id)
  report statement id args

/-! Generated code -/

def takeName : Act String := do
  let s ← get
  let (name, names) := s.names.next
  set { s with names }
  note (.nameGiven name)
  return name

def emitLine (parts : List String) : Act Unit := writeLine (parts.map .text)

def inner (s : String) : String := String.ofList (s.toList.drop 1).dropLast

/-- Emits a guarded evaluation of an expression and gives the name of the variable with its result. The variable stays
    `null` where the evaluation fails, and the failure is reported with the line and name of the statement. -/
def emitGuarded (expr : Value) (statement : Option Statement) (errorName : Value) : Act String := do
  let name ← takeName
  let code := inner expr.json
  emitLine ["var " ++ name ++ " = null;"]
  emitLine ["try \x7b"]
  indented (emitLine ["eval( \"" ++ name ++ "=(" ++ code ++ ")\" );"])
  emitLine ["\x7d catch (e) \x7b"]
  indented do
    match statement with
    | none => throw (.noAttribute .null "line_number")
    | some s =>
      writeLine [.text "this.$logError(", errorName, .text ",[\"", .text code, .text "\",", .text s.line.plain,
        .text ",", .text s.name.json, .text "], e);"]
  emitLine ["\x7d"]
  return name

def emitLineNumber (line : Value) : Act Unit := do
  if ← isReady then
    let n ← Act.ofExcept line.toInt
    emitLine ["this['" ++ (← get).config.framework ++ "currentLineNumber'] = " ++ integerText n ++ ";"]

end Session

end TemplateCompiler
