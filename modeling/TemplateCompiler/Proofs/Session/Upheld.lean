import TemplateCompiler.Compiler.ClassText
import TemplateCompiler.Proofs.Session.Emission

namespace TemplateCompiler

inductive Buffer.Elementary : Buffer.Act Unit → Prop where
  | startBlock (name : String) (level : Level) : Elementary (Buffer.startBlock name level)
  | enter (name : String) : Elementary (Buffer.enter name)
  | leave : Elementary Buffer.leave
  | write (pieces : List Value) : Elementary (Buffer.write pieces)
  | writeLine (pieces : List Value) : Elementary (Buffer.writeLine pieces)
  | shift (inward : Bool) : Elementary (Buffer.shift inward)
  | setUnit (unit : Option String) : Elementary (modify (·.setUnit unit))

namespace Session

variable {α β : Type} {s s' s'' : Session} {R : Session → Session → Prop}

def given (s : Session) : List String :=
  s.notes.filterMap fun
    | .nameGiven name => some name
    | _ => none

structure Quiet (s s' : Session) : Prop where
  buffer : s'.buffer = s.buffer
  names : s'.names = s.names
  given : s'.given = s.given

theorem Quiet.refl (s : Session) : Quiet s s := ⟨rfl, rfl, rfl⟩

/-- The relation is kept by each operation on the buffer and by all that is quiet. -/
structure Kept (R : Session → Session → Prop) : Prop where
  trans : ∀ {s s' s''}, R s s' → R s' s'' → R s s''
  quiet : ∀ {s s'}, Quiet s s' → R s s'
  buffer : ∀ {act : Buffer.Act Unit} (s : Session), Buffer.Elementary act →
    R s { s with buffer := Act.final act s.buffer }

/-- It is also kept by each name that is taken. -/
structure Upheld (R : Session → Session → Prop) : Prop extends Kept R where
  name : ∀ s : Session, R s s.named

def Upholds (R : Session → Session → Prop) (act : Act α) : Prop := ∀ s, R s (Act.final act s)

theorem given_note {notes : List Note} {n : Note} (other : ∀ name, n ≠ .nameGiven name) :
    ({ s with notes := notes ++ [n] } : Session).given = ({ s with notes } : Session).given := by
  have nothing : [n].filterMap (fun n => match n with | .nameGiven name => some name | _ => none) = [] := by
    cases n with
    | nameGiven name => exact absurd rfl (other name)
    | _ => rfl
  simp only [given, List.filterMap_append, nothing, List.append_nil]

def guard (expr : Value) (statement : Option Statement) (errorName : Value) (name : String) : Act String := do
  emitLine ["var " ++ name ++ " = null;"]
  emitLine ["try \x7b"]
  indented (emitLine ["eval( \"" ++ name ++ "=(" ++ inner expr.json ++ ")\" );"])
  emitLine ["\x7d catch (e) \x7b"]
  indented do
    match statement with
    | none => throw (.noAttribute .null "line_number")
    | some s =>
      writeLine [.text "this.$logError(", errorName, .text ",[\"", .text (inner expr.json), .text "\",",
        .text s.line.plain, .text ",", .text s.name.json, .text "], e);"]
  emitLine ["\x7d"]
  return name

theorem emitGuarded_eq_bind (expr : Value) (statement : Option Statement) (errorName : Value) :
    emitGuarded expr statement errorName = takeName >>= guard expr statement errorName := rfl

namespace Kept

variable (kept : Kept R)

include kept

theorem bind {act : Act α} {f : α → Act β} (first : Upholds R act) (rest : ∀ a, Upholds R (f a)) :
    Upholds R (act >>= f) := fun s =>
  Act.final_bind_rel R kept.trans (first s) fun a s' _ _ => rest a s'

theorem between {enter exit : Act Unit} {body : Act α} (entry : Upholds R enter) (inside : Upholds R body)
    (out : Upholds R exit) : Upholds R (Act.between enter body exit) := fun s =>
  Act.final_between_rel R kept.trans (entry s) (fun s' _ _ => inside s') fun _ _ _ => out _

theorem of_quiet {act : Act α} (quiet : ∀ s, Quiet s (Act.final act s)) : Upholds R act := fun s =>
  kept.quiet (quiet s)

theorem pure (a : α) : Upholds R (pure a : Act α) := kept.of_quiet Quiet.refl

theorem throw (fault : Fault) : Upholds R (throw fault : Act α) := kept.of_quiet Quiet.refl

theorem ofExcept (e : Except Fault α) : Upholds R (Act.ofExcept e) := by
  cases e with
  | ok a => exact kept.pure a
  | error fault => exact kept.throw fault

theorem look (f : Session → α) : Upholds R (do return f (← get) : Act α) := kept.of_quiet Quiet.refl

theorem get : Upholds R (MonadState.get : Act Session) := kept.of_quiet Quiet.refl

theorem note {n : Note} (other : ∀ name, n ≠ .nameGiven name) : Upholds R (Session.note n) :=
  kept.of_quiet fun _ => ⟨rfl, rfl, given_note other⟩

theorem onBuffer {act : Buffer.Act Unit} (elementary : Buffer.Elementary act) : Upholds R (onBuffer act) := by
  intro s
  rw [final_onBuffer_eq]
  exact kept.buffer s elementary

theorem startBlock (name : String) (level : Level) : Upholds R (Session.startBlock name level) := by
  refine kept.bind (kept.onBuffer (.startBlock name level)) fun _ => ?_
  cases level.whole with
  | ok n => exact kept.note (by simp)
  | error fault =>
    refine kept.bind kept.get fun s => ?_
    cases s.isLogged with
    | false => exact kept.pure ()
    | true => exact kept.throw fault

theorem enter (name : String) : Upholds R (Session.enter name) := by
  refine kept.bind (kept.onBuffer (.enter name)) fun _ => kept.bind (kept.look _) fun b => ?_
  cases b.isReady with
  | false => exact kept.note (by simp)
  | true => exact kept.pure ()

theorem leave : Upholds R Session.leave := kept.onBuffer .leave

theorem write (pieces : List Value) : Upholds R (Session.write pieces) := kept.onBuffer (.write pieces)

theorem writeLine (pieces : List Value) : Upholds R (Session.writeLine pieces) := kept.onBuffer (.writeLine pieces)

theorem emitLine (parts : List String) : Upholds R (Session.emitLine parts) := kept.writeLine _

theorem increase : Upholds R Session.increase := kept.onBuffer (.shift true)

theorem decrease : Upholds R Session.decrease := kept.onBuffer (.shift false)

theorem within (name : String) {body : Act α} (inside : Upholds R body) : Upholds R (Session.within name body) :=
  kept.between (kept.enter name) inside kept.leave

theorem indented {body : Act α} (inside : Upholds R body) : Upholds R (Session.indented body) :=
  kept.between kept.increase inside kept.decrease

theorem isReady : Upholds R Session.isReady := kept.look _

theorem blockContent (name : String) : Upholds R (Session.blockContent name) :=
  kept.bind (kept.look _) fun _ => kept.ofExcept _

theorem addReferences (refs : List String) : Upholds R (Session.addReferences refs) :=
  kept.of_quiet fun _ => ⟨rfl, rfl, rfl⟩

theorem macroSlot (name : String) : Upholds R (Session.macroSlot name) := by
  refine kept.of_quiet fun s => ?_
  by_cases made : (s.macros.get (fun _ => some {}) name).2.calls ≠ s.macros.calls
  · simp only [Session.macroSlot, Act.final, Act.get_bind, if_pos made]
    exact ⟨rfl, rfl, given_note (by simp)⟩
  · simp only [Session.macroSlot, Act.final, Act.get_bind, if_neg made]
    exact ⟨rfl, rfl, rfl⟩

theorem viewSlot (name : String) : Upholds R (Session.viewSlot name) := by
  refine kept.of_quiet fun s => ?_
  by_cases made : (s.views.get (fun _ => some {}) name).2.calls ≠ s.views.calls
  · simp only [Session.viewSlot, Act.final, Act.get_bind, if_pos made]
    exact ⟨rfl, rfl, given_note (by simp)⟩
  · simp only [Session.viewSlot, Act.final, Act.get_bind, if_neg made]
    exact ⟨rfl, rfl, rfl⟩

theorem setMacro (name : String) (definition : Option Statement) : Upholds R (Session.setMacro name definition) :=
  kept.bind (kept.macroSlot name) fun _ => kept.of_quiet fun _ => ⟨rfl, rfl, rfl⟩

theorem setView (name : String) (definition : Option Statement) (count : Value) :
    Upholds R (Session.setView name definition count) :=
  kept.bind (kept.viewSlot name) fun _ => kept.of_quiet fun _ => ⟨rfl, rfl, rfl⟩

theorem report (statement : Option Statement) (id : String) (args : Value) :
    Upholds R (Session.report statement id args) := by
  refine kept.of_quiet fun s => ?_
  rw [Act.final, report_eq]
  rcases s.sink with _ | ⟨_, _ | _⟩
  · exact ⟨rfl, rfl, rfl⟩
  · exact ⟨rfl, rfl, rfl⟩
  · exact ⟨rfl, rfl, given_note (by simp)⟩

theorem reportWarning (statement : Option Statement) (id : String) (args : Value) :
    Upholds R (Session.reportWarning statement id args) :=
  kept.bind (kept.note (by simp)) fun _ => kept.report statement id args

theorem reportError (statement : Option Statement) (id : String) (args : Value) :
    Upholds R (Session.reportError statement id args) := by
  have flagged : Upholds R (modify ({ · with failed := true }) : Act Unit) := kept.of_quiet fun _ => ⟨rfl, rfl, rfl⟩
  exact kept.bind flagged fun _ => kept.bind (kept.note (by simp)) fun _ => kept.report statement id args

theorem guard (expr : Value) (statement : Option Statement) (errorName : Value) (name : String) :
    Upholds R (Session.guard expr statement errorName name) := by
  refine kept.bind (kept.emitLine _) fun _ => kept.bind (kept.emitLine _) fun _ => ?_
  refine kept.bind (kept.indented (kept.emitLine _)) fun _ => kept.bind (kept.emitLine _) fun _ => ?_
  refine kept.bind (kept.indented ?_) fun _ => kept.bind (kept.emitLine _) fun _ => kept.pure name
  cases statement with
  | none => exact kept.throw _
  | some c => exact kept.writeLine _

theorem emitLineNumber (line : Value) : Upholds R (Session.emitLineNumber line) := by
  refine kept.bind kept.isReady fun ready => ?_
  cases ready with
  | false => exact kept.pure ()
  | true => exact kept.bind (kept.ofExcept _) fun _ => kept.bind kept.get fun _ => kept.emitLine _

theorem compileText (c : Statement) : Upholds R (Compiler.compileText c) := by
  refine kept.bind kept.isReady fun ready => ?_
  cases ready with
  | false => exact kept.reportError _ _ _
  | true =>
    simp only [↓reduceIte]
    split
    · exact kept.emitLine _
    · exact kept.pure ()

theorem compileDependency (c : Statement) : Upholds R (Compiler.compileDependency c) := by
  refine kept.bind (kept.ofExcept _) fun param => ?_
  dsimp only
  split
  · exact kept.reportError _ _ _
  · exact kept.addReferences _

theorem macroBlock (name : String) {body : Act Unit} (inside : Upholds R body) :
    Upholds R (Compiler.macroBlock name body) := by
  refine kept.bind (kept.startBlock _ _) fun _ => kept.within _ ?_
  refine kept.bind (kept.emitLine _) fun _ => kept.bind (kept.indented ?_) fun _ => kept.emitLine _
  refine kept.bind (kept.emitLine _) fun _ => kept.bind (kept.indented inside) fun _ => ?_
  refine kept.bind (kept.emitLine _) fun _ => kept.bind (kept.indented ?_) fun _ => kept.emitLine _
  exact kept.bind kept.get fun _ => kept.emitLine _

theorem compileMacro (c : Statement) {body : Act Unit} (inside : Upholds R body) :
    Upholds R (Compiler.compileMacro c body) := by
  refine kept.bind kept.isReady fun ready => ?_
  cases ready with
  | true => exact kept.reportError _ _ _
  | false =>
    refine kept.bind (kept.ofExcept _) fun param => ?_
    dsimp only
    split
    · exact kept.reportError _ _ _
    · refine kept.bind (kept.macroSlot _) fun slot => ?_
      cases slot.definition with
      | some first => exact kept.reportError _ _ _
      | none => exact kept.bind (kept.setMacro _ _) fun _ => kept.macroBlock _ inside

theorem classText (classpath : Value) : Upholds R (Compiler.classText classpath) :=
  kept.bind kept.get fun _ => kept.bind (kept.ofExcept _) fun _ =>
    kept.bind (kept.look _) fun _ => kept.pure _

end Kept

namespace Upheld

variable (upheld : Upheld R)

include upheld

theorem takeName : Upholds R takeName := upheld.name

theorem emitGuarded (expr : Value) (statement : Option Statement) (errorName : Value) :
    Upholds R (Session.emitGuarded expr statement errorName) :=
  upheld.bind upheld.takeName fun name => upheld.guard expr statement errorName name

theorem compileExpression (c : Statement) : Upholds R (Compiler.compileExpression c) := by
  refine upheld.bind upheld.isReady fun ready => ?_
  cases ready with
  | false => exact upheld.reportError _ _ _
  | true =>
    refine upheld.bind (upheld.ofExcept _) fun expr => ?_
    split
    · exact upheld.reportError _ _ _
    · refine upheld.bind (upheld.emitLineNumber _) fun _ => ?_
      exact upheld.bind (upheld.emitGuarded _ _ _) fun _ => upheld.emitLine _

mutual

theorem compile : (c : Statement) → Upholds R (Compiler.compile c)
  | ⟨name, line, param, content, properties⟩ => by
    rw [Compiler.compile]
    refine upheld.bind (upheld.ofExcept _) fun directive => ?_
    cases directive with
    | text => exact upheld.compileText _
    | expression => exact upheld.compileExpression _
    | macroDefinition => exact upheld.compileMacro _ (compileAll content)
    | dependency => exact upheld.compileDependency _
    | unknown => exact upheld.reportWarning _ _ _

theorem compilePlace : (place : Option Statement) → Upholds R (Compiler.compilePlace place)
  | none => by
    rw [Compiler.compilePlace]
    exact upheld.throw _
  | some c => by
    rw [Compiler.compilePlace]
    exact compile c

theorem compileAll : (places : List (Option Statement)) → Upholds R (Compiler.compileAll places)
  | [] => by
    rw [Compiler.compileAll]
    exact upheld.pure ()
  | place :: rest => by
    rw [Compiler.compileAll]
    exact upheld.bind (compilePlace place) fun _ => compileAll rest

end

theorem compileTemplate (statements : List Statement) (classpath : Value) :
    Upholds R (Compiler.compileTemplate statements classpath) := by
  refine upheld.bind (upheld.compileAll _) fun _ => upheld.bind upheld.get fun s => ?_
  have finish : Upholds R (do
      if (← MonadState.get).failed then
        Session.note (.generationFailed classpath.plain)
        return none
      else return some (← Compiler.classText classpath) : Act (Option String)) := by
    refine upheld.bind upheld.get fun s => ?_
    cases s.failed with
    | true => exact upheld.bind (upheld.note (by simp)) fun _ => upheld.pure none
    | false => exact upheld.bind (upheld.classText classpath) fun _ => upheld.pure _
  cases s.macros.contains Compiler.mainMacro with
  | true => exact finish
  | false => exact upheld.bind (upheld.reportWarning _ _ _) fun _ => finish

end Upheld

end Session

end TemplateCompiler
