import TemplateCompiler.Proofs.Compiler.TopLevel
import TemplateCompiler.Proofs.Session.Composition

namespace TemplateCompiler.Compiler

open Session

variable {k : Nat}

theorem aside_reject (c : Statement) (id : String) : Aside (reject c id) := aside_reportError _ _ _

theorem aside_compileDependency (c : Statement) : Aside (compileDependency c) := by
  refine (aside_ofExcept _).bind fun param => ?_
  dsimp only
  split
  · exact aside_reject c _
  · exact aside_addReferences _

theorem inside_compileText (c : Statement) : Inside k (compileText c) := by
  refine .ready ?_
  rw [if_pos rfl]
  split
  · exact .line _
  · exact .aside (aside_pure ())

theorem inside_emitGuarded (expr : Value) (c : Statement) (message : String) :
    Inside (k + 1) (emitGuarded expr (some c) (.text message)) := by
  have failure (code : String) : Inside k (emitLine
      ["this.$logError(", message, ",[\"", code, "\",", c.line.plain, ",", c.name.json, "], e);"]) := .line _
  refine .bind (.aside aside_takeName) fun name => ?_
  refine .bind (.line _) fun _ => .bind (.line _) fun _ => ?_
  refine .bind (.indented (.line _)) fun _ => .bind (.line _) fun _ => ?_
  refine .bind (.indented (failure (Session.inner expr.json))) fun _ => .bind (.line _) fun _ => ?_
  exact .aside (aside_pure name)

theorem inside_emitLineNumber (line : Value) : Inside k (emitLineNumber line) := by
  refine .ready ?_
  rw [if_pos rfl]
  refine .bind (.aside (aside_ofExcept _)) fun n => ?_
  exact .look (fun _ _ _ => rfl) fun s => .line _

theorem inside_compileExpression (c : Statement) : Inside (k + 1) (compileExpression c) := by
  refine .ready ?_
  rw [if_pos rfl]
  refine .bind (.aside (aside_ofExcept _)) fun expr => ?_
  split
  · exact .aside (aside_reject c _)
  · refine .bind (inside_emitLineNumber c.line) fun _ => ?_
    exact .bind (inside_emitGuarded _ _ _) fun name => .line _

theorem inside_compile (c : Statement) : Inside (k + 1) (compile c) := by
  obtain ⟨name, line, param, content, properties⟩ := c
  rw [compile]
  refine .bind (.aside (aside_ofExcept _)) fun directive => ?_
  cases directive with
  | text => exact inside_compileText _
  | expression => exact inside_compileExpression _
  | macroDefinition =>
    refine .ready ?_
    rw [if_pos rfl]
    exact .aside (aside_reject _ _)
  | dependency => exact .aside (aside_compileDependency _)
  | unknown => exact .aside (aside_reportWarning _ _ _)

theorem inside_compilePlace (place : Option Statement) : Inside (k + 1) (compilePlace place) := by
  cases place with
  | none =>
    rw [compilePlace]
    exact .aside (aside_throw _)
  | some c =>
    rw [compilePlace]
    exact inside_compile c

theorem inside_compileAll (places : List (Option Statement)) : Inside (k + 1) (compileAll places) := by
  induction places with
  | nil =>
    rw [compileAll]
    exact .aside (aside_pure ())
  | cons place rest ih =>
    rw [compileAll]
    exact .bind (inside_compilePlace place) fun _ => ih

theorem inside_macroFrame (name : String) {body : Session.Act Unit} (inner : Inside (k + 1) body) :
    Inside (k + 3) (macroFrame name body) := by
  have handler : Inside (k + 1) (do
      emitLine ["this.$logError(this.EXCEPTION_IN_MACRO,[" ++ Text.literal name ++ ",this['"
        ++ (← get).config.framework ++ "currentLineNumber']],_ex);"]) :=
    .look (fun _ _ _ => rfl) fun s => .line _
  have guarded : Inside (k + 2) (macroGuard name body) := by
    refine .bind (.line _) fun _ => .bind (.indented inner) fun _ => ?_
    exact .bind (.line _) fun _ => .bind (.indented handler) fun _ => .line _
  exact .bind (.line _) fun _ => .bind (.indented guarded) fun _ => .line _

theorem outside_compileMacro (c : Statement) {body : Session.Act Unit} (inner : Inside 1 body) :
    Outside (compileMacro c body) := by
  refine .idle ?_
  rw [if_neg Bool.false_ne_true]
  refine .bind (.blind (aside_ofExcept _).blind) fun param => ?_
  dsimp only
  split
  · exact .blind (aside_reject c _).blind
  · refine .bind (.blind (blind_macroSlot _)) fun slot => ?_
    cases slot.definition with
    | some first => exact .blind (aside_reportError _ _ _).blind
    | none =>
      refine .bind (.blind (blind_setMacro _ _)) fun _ => ?_
      rw [macroBlock_eq]
      exact .newBlock _ (by decide : 2 + 3 ≤ deepest) (inside_macroFrame _ inner)

theorem outside_compile (c : Statement) : Outside (compile c) := by
  obtain ⟨name, line, param, content, properties⟩ := c
  rw [compile]
  refine .bind (.blind (aside_ofExcept _).blind) fun directive => ?_
  cases directive with
  | text =>
    refine .idle ?_
    rw [if_neg Bool.false_ne_true]
    exact .blind (aside_reject _ _).blind
  | expression =>
    refine .idle ?_
    rw [if_neg Bool.false_ne_true]
    exact .blind (aside_reject _ _).blind
  | macroDefinition => exact outside_compileMacro _ (inside_compileAll content)
  | dependency => exact .blind (aside_compileDependency _).blind
  | unknown => exact .blind (aside_reportWarning _ _ _).blind

theorem outside_compilePlace (place : Option Statement) : Outside (compilePlace place) := by
  cases place with
  | none =>
    rw [compilePlace]
    exact .blind (aside_throw _).blind
  | some c =>
    rw [compilePlace]
    exact outside_compile c

theorem outside_compileAll (places : List (Option Statement)) : Outside (compileAll places) := by
  induction places with
  | nil =>
    rw [compileAll]
    exact .blind (aside_pure ()).blind
  | cons place rest ih =>
    rw [compileAll]
    exact .bind (outside_compilePlace place) fun _ => ih

end TemplateCompiler.Compiler
