import TemplateCompiler.Proofs.Compiler.Composition
import TemplateCompiler.Proofs.Session.Past

namespace TemplateCompiler

open Session

def Statement.isDependency (c : Statement) : Bool := Grammar.directive c.nameText = .dependency

namespace Compiler

theorem inward_reject (c : Statement) (id : String) : Inward (reject c id) :=
  .of_untouched (aside_reject c id).blind.untouched fun s => oblivious_reportError _ _ _ s

theorem inward_ofExcept {α : Type} (e : Except Fault α) : Inward (Act.ofExcept e) :=
  .of_untouched (untouched_ofExcept e) fun s => oblivious_ofExcept e s

theorem inward_pure {α : Type} (a : α) : Inward (pure a : Session.Act α) :=
  .of_untouched (untouched_pure a) fun s => oblivious_pure a s

theorem inward_compileText (c : Statement) : Inward (compileText c) := by
  apply Inward.asked
  rw [if_pos rfl]
  split
  · exact .line _
  · exact inward_pure ()

theorem inward_emitGuarded (expr : Value) (c : Statement) (message : String) :
    Inward (emitGuarded expr (some c) (.text message)) := by
  have failure (code : String) : Inward (emitLine
      ["this.$logError(", message, ",[\"", code, "\",", c.line.plain, ",", c.name.json, "], e);"]) := .line _
  have named : Inward takeName := .of_untouched aside_takeName.blind.untouched oblivious_takeName
  apply named.bind
  intro name
  apply (Inward.line _).bind
  intro _
  apply (Inward.line _).bind
  intro _
  apply (Inward.line _).indented.bind
  intro _
  apply (Inward.line _).bind
  intro _
  apply (failure (Session.inner expr.json)).indented.bind
  intro _
  apply (Inward.line _).bind
  intro _
  exact inward_pure name

theorem inward_emitLineNumber (line : Value) : Inward (emitLineNumber line) := by
  apply Inward.asked
  rw [if_pos rfl]
  apply (inward_ofExcept _).bind
  intro n
  exact .look (fun _ _ => rfl) fun s => .line _

theorem inward_compileExpression (c : Statement) : Inward (compileExpression c) := by
  apply Inward.asked
  rw [if_pos rfl]
  apply (inward_ofExcept _).bind
  intro expr
  split
  · exact inward_reject c _
  · apply (inward_emitLineNumber c.line).bind
    intro _
    apply (inward_emitGuarded _ _ _).bind
    intro name
    exact .line _

theorem inward_compileMacro (c : Statement) (body : Session.Act Unit) : Inward (compileMacro c body) := by
  apply Inward.asked
  rw [if_pos rfl]
  exact inward_reject c _

theorem inward_compile {c : Statement} (other : ¬ c.isDependency) : Inward (compile c) := by
  cases found : directive? c.name with
  | error fault =>
    have failed : compile c = throw fault := funext fun s => compile_of_error found
    rw [failed]
    exact .of_untouched (fun _ => rfl) (oblivious_throw fault)
  | ok kind =>
    have same := Statement.directive_of_ok found
    rw [compile_of_ok found]
    cases kind with
    | text => exact inward_compileText c
    | expression => exact inward_compileExpression c
    | macroDefinition => exact inward_compileMacro c _
    | dependency => exact absurd (decide_eq_true same) other
    | unknown =>
      exact .of_untouched (aside_reportWarning _ _ _).blind.untouched fun s => oblivious_reportWarning _ _ _ s

theorem inward_compileAll {places : List (Option Statement)}
    (others : ∀ c ∈ places.filterMap id, ¬ c.isDependency) : Inward (compileAll places) := by
  induction places with
  | nil => exact inward_pure ()
  | cons place rest ih =>
    rw [compileAll]
    cases place with
    | none =>
      have empty : Inward (compilePlace none) := .of_untouched (fun _ => rfl) fun s => oblivious_throw _ s
      exact empty.bind fun _ => ih others
    | some c =>
      have first : Inward (compilePlace (some c)) := inward_compile (others c List.mem_cons_self)
      exact first.bind fun _ => ih fun d member => others d (List.mem_cons_of_mem c member)

theorem inward_macroFrame (name : String) {body : Session.Act Unit} (inner : Inward body) :
    Inward (macroFrame name body) := by
  have handler : Inward (do
      emitLine ["this.$logError(this.EXCEPTION_IN_MACRO,[" ++ Text.literal name ++ ",this['"
        ++ (← get).config.framework ++ "currentLineNumber']],_ex);"]) :=
    .look (fun _ _ => rfl) fun s => .line _
  have guarded : Inward (macroGuard name body) := by
    apply (Inward.line _).bind
    intro _
    apply inner.indented.bind
    intro _
    apply (Inward.line _).bind
    intro _
    apply handler.indented.bind
    intro _
    exact .line _
  apply (Inward.line _).bind
  intro _
  apply guarded.indented.bind
  intro _
  exact .line _

theorem oblivious_compileMacro {c : Statement} {body : Session.Act Unit} (inner : Inward body) (s : Session) :
    Oblivious (compileMacro c body) s := by
  apply Oblivious.asked
  cases s.buffer.isReady with
  | true => exact oblivious_reportError _ _ _ s
  | false =>
    apply (oblivious_ofExcept _ s).bind
    intro text s₁ _
    dsimp only
    split
    · exact oblivious_reportError _ _ _ s₁
    · apply (oblivious_macroSlot _ s₁).bind
      intro slot s₂ _
      cases slot.definition with
      | some first => exact oblivious_reportError _ _ _ s₂
      | none =>
        apply (oblivious_setMacro _ _ s₂).bind
        intro _ s₃ _
        rw [macroBlock_eq]
        exact (inward_macroFrame _ inner).oblivious_newBlock _ 2 s₃

/-- The statement is no dependency, and no macro with a dependency in it. -/
def Independent (c : Statement) : Prop :=
  ¬ c.isDependency ∧ (Grammar.directive c.nameText = .macroDefinition → ∀ d ∈ c.children, ¬ d.isDependency)

theorem oblivious_compile {c : Statement} (independent : Independent c) (s : Session) : Oblivious (compile c) s := by
  obtain ⟨other, flat⟩ := independent
  cases ready : s.buffer.isReady with
  | true => exact (inward_compile other).oblivious s ready
  | false =>
    cases found : directive? c.name with
    | error fault =>
      have failed : compile c = throw fault := funext fun s => compile_of_error found
      rw [failed]
      exact oblivious_throw fault s
    | ok kind =>
      have same := Statement.directive_of_ok found
      rw [compile_of_ok found]
      cases kind with
      | text =>
        apply Oblivious.asked
        rw [ready]
        exact oblivious_reportError _ _ _ s
      | expression =>
        apply Oblivious.asked
        rw [ready]
        exact oblivious_reportError _ _ _ s
      | macroDefinition => exact oblivious_compileMacro (inward_compileAll (flat same)) s
      | dependency => exact absurd (decide_eq_true same) other
      | unknown => exact oblivious_reportWarning _ _ _ s

end Compiler

end TemplateCompiler
