import TemplateCompiler.Proofs.Compiler.Template

namespace TemplateCompiler.Compiler

open Session Layout

variable {config : Config} {digits : Digits} {sink : Sink} {statements : List Statement} {classpath text : String}
  {s : Session}

def Clean (statements : List Statement) : Prop := (Grammar.reportsAfter [] statements).any Report.isError = false

instance (statements : List Statement) : Decidable (Clean statements) := inferInstanceAs (Decidable (_ = false))

structure Success (config : Config) (digits : Digits) (classpath : String) (statements : List Statement)
    (text : String) (s : Session) : Prop where
  clean : Clean statements
  text : text = Layout.classText config digits classpath statements
  references : s.references.toList = (templateReferences statements).eraseDups

theorem clean_of_walk (clean : (Grammar.walk statements).any Report.isError = false) : Clean statements := by
  rw [Grammar.walk, List.any_append, Bool.or_eq_false_iff] at clean
  exact clean.1

theorem walk_of_clean (clean : Clean statements) : (Grammar.walk statements).any Report.isError = false := by
  rw [Grammar.walk, List.any_append, Bool.or_eq_false_iff]
  refine ⟨clean, ?_⟩
  -- the warning at the end is no error
  unfold Grammar.endReports
  split <;> rfl

theorem success_of_run (admissible : ∀ c ∈ statements, c.isAdmissible)
    (ran : compileTemplate statements (.text classpath) (Session.fresh config digits sink) = .ok (some text) s) :
    Success config digits classpath statements text s := by
  obtain ⟨-, failed, answer, references⟩ := outcome_of_run admissible ran
  obtain ⟨unfailed, whole⟩ := unfailed_of_text answer
  exact ⟨clean_of_walk (failed.symm.trans unfailed), whole, references unfailed⟩

theorem run_of_clean (config : Config) (digits : Digits) (sink : Sink) (classpath : String)
    (admissible : ∀ c ∈ statements, c.isAdmissible) (free : ¬ Hindered config.indentUnit sink statements)
    (clean : Clean statements) :
    ∃ text s, compileTemplate statements (.text classpath) (Session.fresh config digits sink) = .ok (some text) s := by
  have run := goes_start config digits sink statements admissible (.text classpath)
  cases ran : compileTemplate statements (.text classpath) (Session.fresh config digits sink) with
  | error fault s => exact absurd (run.of_error ran).1 free
  | ok result s =>
    obtain ⟨moved, answer⟩ := run.of_ok ran
    have unfailed : s.failed = false := by
      rw [moved.failed, reports_walk]
      exact walk_of_clean clean
    rw [unfailed] at answer
    exact ⟨_, s, by rw [answer]; rfl⟩

variable {accepted : Grammar.Accepted} {c d : Statement}

theorem children_of_clean (clean : (Grammar.reportsAfter accepted statements).any Report.isError = false)
    (member : c ∈ statements) (kind : Grammar.directive c.nameText = .macroDefinition) (child : d ∈ c.children) :
    (Grammar.childReports d).any Report.isError = false := by
  induction statements generalizing accepted with
  | nil => cases member
  | cons first rest ih =>
    rw [Grammar.reportsAfter, List.any_append, Bool.or_eq_false_iff] at clean
    rcases List.mem_cons.mp member with rfl | member
    · have reports := clean.1
      rw [topReports_of_accepts (accepts_of_clean kind clean.1), List.any_flatMap] at reports
      exact Bool.eq_false_iff.mpr (List.any_eq_false.mp reports d child)
    · exact ih clean.2 member

theorem present_of_clean (clean : Clean statements) (member : c ∈ statements)
    (kind : Grammar.directive c.nameText = .macroDefinition) (child : d ∈ c.children)
    (expression : Grammar.directive d.nameText = .expression) : d.title ≠ "" := by
  intro blank
  have reports := children_of_clean clean member kind child
  simp only [Grammar.childReports, expression, if_pos blank] at reports
  cases reports

end TemplateCompiler.Compiler
