import TemplateCompiler.Proofs.Compiler.Cosmetics
import TemplateCompiler.Proofs.Compiler.Dependencies
import TemplateCompiler.Proofs.Compiler.Independence

namespace TemplateCompiler

def Sink.relayed : Sink → Report → List Note
  | .relay channel (some level), r => [.relayed ⟨level, channel, r.summary⟩]
  | _, _ => []

namespace Session

variable {s t : Session}

/-- What is recorded on top of a past. -/
structure Gain where
  references : List String := []
  failed : Bool := false
  reports : List Report := []
  notes : List Note := []

def Gain.append (g h : Gain) : Gain :=
  ⟨g.references ++ h.references, g.failed || h.failed, g.reports ++ h.reports, g.notes ++ h.notes⟩

namespace Past

def plus (p : Past) (g : Gain) : Past :=
  ⟨p.references.addAll g.references, p.failed || g.failed, p.reports ++ g.reports, p.notes ++ g.notes⟩

theorem plus_append (p : Past) (g h : Gain) : p.plus (g.append h) = (p.plus g).plus h := by
  simp only [plus, Gain.append, References.addAll_append, Bool.or_assoc, List.append_assoc]

theorem plus_nothing (p : Past) : p.plus {} = p := by
  simp only [plus, Bool.or_false, List.append_nil]
  rfl

/-- The same was recorded, but for the order of reports and notes. -/
structure Similar (p q : Past) : Prop where
  references : q.references = p.references
  failed : q.failed = p.failed
  reports : q.reports.Perm p.reports
  notes : q.notes.Perm p.notes

theorem Similar.refl (p : Past) : p.Similar p := ⟨rfl, rfl, .refl _, .refl _⟩

end Past

def past (s : Session) : Past := ⟨s.references, s.failed, s.reports, s.notes⟩

def recording (s : Session) (p : Past) : Session :=
  { s with references := p.references, failed := p.failed, reports := p.reports, notes := p.notes }

theorem since_past (s : Session) : (s.recording {}).since s.past = s := by
  simp only [since, recording, past, Bool.or_false, List.append_nil]

/-- The sessions are the same, but for the order of reports and notes. -/
structure Reordered (s t : Session) : Prop where
  rest : { t with reports := s.reports, notes := s.notes } = s
  reports : t.reports.Perm s.reports
  notes : t.notes.Perm s.notes

theorem Reordered.same {α : Type} (reordered : Reordered s t) (f : Session → α)
    (blind : ∀ (s : Session) reports notes, f { s with reports, notes } = f s) : f t = f s := by
  rw [← blind t s.reports s.notes, reordered.rest]

theorem reordered_of_similar (rest : t.recording {} = s.recording {}) {p : Past} (similar : p.Similar t.past) :
    Reordered (s.recording p) t where
  rest := by
    have same := congrArg (recording · ⟨t.references, t.failed, p.reports, p.notes⟩) rest
    show t.recording ⟨t.references, t.failed, p.reports, p.notes⟩ = s.recording p
    have references : t.references = p.references := similar.references
    have failed : t.failed = p.failed := similar.failed
    rw [references, failed] at same ⊢
    exact same
  reports := similar.reports
  notes := similar.notes

end Session

namespace Compiler

open Session

variable {s t : Session} {c : Statement} {late statements : List Statement}

/-! Dependencies -/

def gain (outlet : Sink × Value) (c : Statement) : Gain :=
  if referencesOf c.paramText = [] then
    let r : Report := ⟨some c, Report.missingParameter, .list [c.name], outlet.2⟩
    ⟨[], true, outlet.1.kept [r], .errorReported Report.missingParameter :: outlet.1.relayed r⟩
  else { references := referencesOf c.paramText }

def gains (outlet : Sink × Value) : List Statement → Gain
  | [] => {}
  | c :: rest => (gain outlet c).append (gains outlet rest)

def Requires (c : Statement) : Prop := c.isDependency ∧ c.param.text?.isSome

theorem name_of_dependency {name : String} (dependency : Grammar.directive name = .dependency) :
    name = Statement.dependencyName := by
  revert dependency
  fun_cases Grammar.directive name
  case case5 => exact fun _ => rfl
  all_goals
    intro other
    cases other

theorem requiring_of_requires (requires : Requires c) : c.requiring c.paramText = c := by
  have dependency : Grammar.directive c.nameText = .dependency := of_decide_eq_true requires.1
  have named := Statement.name_of_directive (by rw [dependency]; decide)
  rw [name_of_dependency dependency] at named
  have given : c.param = .text c.paramText := Value.eq_text requires.2
  rw [Statement.requiring, ← named, ← given]
  cases c
  rfl

theorem refuse_of_heard (heard : ¬ s.sink.isMute) (c : Statement) :
    let r : Report := ⟨some c, Report.missingParameter, .list [c.name], s.context⟩
    refuse s c = .ok () (s.recording (s.past.plus
      ⟨[], true, s.sink.kept [r], .errorReported Report.missingParameter :: s.sink.relayed r⟩)) := by
  obtain ⟨_, _ | ⟨_, _ | _⟩⟩ := s
  · simp only [refuse, recording, past, Past.plus, Sink.kept, Sink.relayed, Bool.or_true]
    rfl
  · exact absurd trivial heard
  · simp only [refuse, recording, past, Past.plus, Sink.kept, Sink.relayed, Bool.or_true, List.append_nil,
      List.append_assoc]
    rfl

theorem compile_dependency (heard : ¬ s.sink.isMute) (requires : Requires c) :
    compile c s = .ok () (s.recording (s.past.plus (gain s.outlet c))) := by
  have run := compile_requiring s c c.paramText
  rw [requiring_of_requires requires] at run
  rw [run, gain]
  by_cases lacking : referencesOf c.paramText = []
  · rw [if_pos lacking, if_pos lacking]
    exact refuse_of_heard heard c
  · rw [if_neg lacking, if_neg lacking]
    simp only [recording, past, Past.plus, Bool.or_false, List.append_nil]

theorem compileAll_dependencies (heard : ¬ s.sink.isMute) (requires : ∀ c ∈ late, Requires c) :
    compileAll (late.map some) s = .ok () (s.recording (s.past.plus (gains s.outlet late))) := by
  induction late generalizing s with
  | nil =>
    rw [gains, Past.plus_nothing]
    rfl
  | cons c rest ih =>
    have first := compile_dependency heard (requires c List.mem_cons_self)
    have others := ih (s := s.recording (s.past.plus (gain s.outlet c))) heard
      fun d member => requires d (List.mem_cons_of_mem c member)
    rw [List.map_cons, compileAll, compilePlace, Act.bind_of_ok first, others, gains, Past.plus_append]
    rfl

/-! Running ahead -/

def dependenciesOf (statements : List Statement) : List Statement := statements.filter Statement.isDependency

def othersOf (statements : List Statement) : List Statement := statements.filter fun c => !c.isDependency

/-- The second session has what these dependencies are yet to add to the first. -/
structure Ahead (late : List Statement) (s t : Session) : Prop where
  heard : ¬ s.sink.isMute
  rest : t.recording {} = s.recording {}
  past : (s.past.plus (gains s.outlet late)).Similar t.past

namespace Ahead

theorem reordered (ahead : Ahead late s t) (requires : ∀ c ∈ late, Requires c) :
    Reordered (Act.final (compileAll (late.map some)) s) t := by
  rw [Act.final, compileAll_dependencies ahead.heard requires]
  exact reordered_of_similar ahead.rest ahead.past

theorem arrived (ahead : Ahead (c :: late) s t) : Ahead late (s.recording (s.past.plus (gain s.outlet c))) t where
  heard := ahead.heard
  rest := ahead.rest
  past := by
    have later := ahead.past
    rw [gains, Past.plus_append] at later
    exact later

theorem since (ahead : Ahead late s t) {b : Session} (outlet : b.outlet = s.outlet) :
    Ahead late (b.since s.past) (b.since t.past) where
  heard := by
    have sink : b.sink = s.sink := congrArg Prod.fst outlet
    show ¬ b.sink.isMute
    rw [sink]
    exact ahead.heard
  rest := rfl
  past := by
    have same : (b.since s.past).outlet = s.outlet := outlet
    obtain ⟨references, failed, reports, notes⟩ := ahead.past
    rw [same]
    refine ⟨references, ?_, ?_, ?_⟩
    · show (t.failed || b.failed) = ((s.failed || b.failed) || (gains s.outlet late).failed)
      rw [Bool.or_right_comm]
      exact congrArg (· || b.failed) failed
    · show (t.reports ++ b.reports).Perm ((s.reports ++ b.reports) ++ (gains s.outlet late).reports)
      apply (reports.append_right b.reports).trans
      show ((s.reports ++ _) ++ b.reports).Perm _
      rw [List.append_assoc, List.append_assoc]
      exact List.perm_append_comm.append_left s.reports
    · show (t.notes ++ b.notes).Perm ((s.notes ++ b.notes) ++ (gains s.outlet late).notes)
      apply (notes.append_right b.notes).trans
      show ((s.notes ++ _) ++ b.notes).Perm _
      rw [List.append_assoc, List.append_assoc]
      exact List.perm_append_comm.append_left s.notes

theorem step {α : Type} {act : Session.Act α} (ahead : Ahead late s t) (oblivious : ∀ s, Oblivious act s) :
    Act.Together (Ahead late) (Ahead late) (act s) (act t) := by
  have at_s := (oblivious (s.recording {})).resumes s.past
  have at_t := (oblivious (t.recording {})).resumes t.past
  have kept := (oblivious (s.recording {})).outlet
  rw [since_past] at at_s at_t
  rw [ahead.rest] at at_t
  rw [Act.final] at kept
  rw [at_s, at_t]
  cases ran : act (s.recording {}) with
  | ok a b =>
    rw [ran] at kept
    exact .ok (ahead.since kept)
  | error e b =>
    rw [ran] at kept
    exact .error (ahead.since kept)

/-- By the end all dependencies have arrived. Where the others fail before that, the last of them are missing. -/
theorem compileAll (kinds : ∀ c ∈ statements, Requires c ∨ Independent c)
    (ahead : Ahead (dependenciesOf statements) s t) :
    Act.Together (Ahead []) (fun s t => ∃ late, late <:+ dependenciesOf statements ∧ Ahead late s t)
      (Compiler.compileAll (statements.map some) s) (Compiler.compileAll ((othersOf statements).map some) t) := by
  induction statements generalizing s t with
  | nil => exact .ok ahead
  | cons c rest ih =>
    have others : ∀ d ∈ rest, Requires d ∨ Independent d := fun d member => kinds d (List.mem_cons_of_mem c member)
    rw [List.map_cons, Compiler.compileAll, compilePlace]
    rcases kinds c List.mem_cons_self with requires | independent
    · have listed : dependenciesOf (c :: rest) = c :: dependenciesOf rest := List.filter_cons_of_pos requires.1
      have dropped : othersOf (c :: rest) = othersOf rest := List.filter_cons_of_neg (by rw [requires.1]; decide)
      rw [listed] at ahead ⊢
      rw [dropped, Act.bind_of_ok (compile_dependency ahead.heard requires)]
      apply (ih others ahead.arrived).mono (fun _ _ related => related)
      rintro s' t' ⟨late, early, related⟩
      exact ⟨late, early.trans (List.suffix_cons c _), related⟩
    · have skipped : dependenciesOf (c :: rest) = dependenciesOf rest := List.filter_cons_of_neg independent.1
      have kept : othersOf (c :: rest) = c :: othersOf rest :=
        List.filter_cons_of_pos (by simpa using independent.1)
      have waiting (s' t' : Session) (related : Ahead (dependenciesOf rest) s' t') :
          ∃ late, late <:+ dependenciesOf rest ∧ Ahead late s' t' := ⟨_, List.suffix_rfl, related⟩
      rw [skipped] at ahead ⊢
      rw [kept, List.map_cons, Compiler.compileAll, compilePlace]
      have first := ahead.step (oblivious_compile independent)
      apply (first.mono (fun _ _ related => related) waiting).bind
      intro _ s' t' related
      exact ih others related

end Ahead

/-! The class -/

theorem oblivious_warnMissingMain (s : Session) : Oblivious warnMissingMain s := by
  apply Oblivious.look (fun _ => rfl)
  split
  · exact oblivious_reportWarning _ _ _ s
  · exact oblivious_pure _ s

theorem ending_reordered (reordered : Reordered s t) (classpath : Value) (bodies : Except Fault String) :
    Act.Together Reordered Reordered (ending classpath s bodies) (ending classpath t bodies) := by
  have failed : t.failed = s.failed := reordered.same Session.failed fun _ _ _ => rfl
  have references : t.references = s.references := reordered.same Session.references fun _ _ _ => rfl
  have config : t.config = s.config := reordered.same Session.config fun _ _ _ => rfl
  rw [ending.eq_def, ending.eq_def, failed]
  by_cases noted : s.failed = true
  · rw [if_pos noted, if_pos noted, concluded, concluded, if_pos noted, if_pos (failed.trans noted)]
    apply Act.Together.ok
    constructor
    · exact congrArg (fun s : Session => { s with notes := s.notes ++ [Note.generationFailed classpath.plain] })
        reordered.rest
    · exact reordered.reports
    · exact reordered.notes.append_right _
  · rw [if_neg noted, if_neg noted, references, config]
    cases bodies with
    | ok body => exact .ok reordered
    | error fault => exact .error reordered

theorem finish_reordered (reordered : Reordered s t) (classpath : Value) :
    Act.Together Reordered Reordered (finish classpath s) (finish classpath t) := by
  have buffer : t.buffer = s.buffer := reordered.same Session.buffer fun _ _ _ => rfl
  have macros : t.macros = s.macros := reordered.same Session.macros fun _ _ _ => rfl
  rw [finish_eq, finish_eq, buffer, macros]
  exact ending_reordered reordered classpath _

def hoist (statements : List Statement) : List Statement := dependenciesOf statements ++ othersOf statements

theorem compileAll_append (places others : List (Option Statement)) :
    compileAll (places ++ others) = (do compileAll places; compileAll others) := by
  induction places with
  | nil => rfl
  | cons place rest ih =>
    rw [List.cons_append, compileAll, compileAll, ih, bind_assoc]

/-- The first session lacks what the last few of these dependencies would add to it. -/
def Lacks (dependencies : List Statement) (s t : Session) : Prop :=
  ∃ late, late <:+ dependencies ∧ Reordered (Act.final (compileAll (late.map some)) s) t

theorem lacks_nothing {dependencies : List Statement} (reordered : Reordered s t) : Lacks dependencies s t :=
  ⟨[], List.nil_suffix, reordered⟩

theorem conclude_reordered (ahead : Ahead [] s t) (classpath : Value) :
    Act.Together Reordered Reordered ((do warnMissingMain; finish classpath) s)
      ((do warnMissingMain; finish classpath) t) := by
  have arrived (s t : Session) (related : Ahead [] s t) : Reordered s t := related.reordered (by simp)
  apply ((ahead.step oblivious_warnMissingMain).mono arrived arrived).bind
  intro _ s' t' reordered
  exact finish_reordered reordered classpath

/-- Moving the dependencies to the front of a template changes neither its class nor the session, but for the order of
    reports and notes. A template that fails still fails with the same fault, but with all of its dependencies added. -/
theorem hoisting_preserves_class (start : Session) (heard : ¬ start.sink.isMute) (statements : List Statement)
    (spelled : ∀ c ∈ statements, c.isSpelled)
    (flat : ∀ c ∈ statements, Grammar.directive c.nameText = .macroDefinition → ∀ d ∈ c.children, ¬ d.isDependency)
    (classpath : Value) :
    Act.Together Reordered (Lacks (dependenciesOf statements))
      (compileTemplate statements classpath start) (compileTemplate (hoist statements) classpath start) := by
  have kinds : ∀ c ∈ statements, Requires c ∨ Independent c := by
    intro c member
    by_cases dependency : c.isDependency
    · have texts := spelled c member
      simp only [Statement.isSpelled, Bool.and_eq_true] at texts
      exact .inl ⟨dependency, texts.2⟩
    · exact .inr ⟨dependency, flat c member⟩
  have requires : ∀ c ∈ dependenciesOf statements, Requires c := by
    intro c member
    obtain ⟨among, dependency⟩ := List.mem_filter.mp member
    exact (kinds c among).resolve_right fun independent => independent.1 dependency
  let opened := start.recording (start.past.plus (gains start.outlet (dependenciesOf statements)))
  have ahead : Ahead (dependenciesOf statements) start opened := ⟨heard, rfl, .refl _⟩
  have hoisted : compileAll ((hoist statements).map some) start =
      compileAll ((othersOf statements).map some) opened := by
    rw [hoist, List.map_append, compileAll_append, Act.bind_of_ok (compileAll_dependencies heard requires)]
  have compiled := ahead.compileAll kinds
  rw [← hoisted] at compiled
  rw [compileTemplate_eq, compileTemplate_eq, bind_assoc, bind_assoc]
  apply Act.Together.bind (compiled.mono (fun _ _ related => related) ?_)
  · intro _ s t ahead
    exact (conclude_reordered ahead classpath).mono (fun _ _ related => related) fun _ _ => lacks_nothing
  · rintro s t ⟨late, early, related⟩
    exact ⟨late, early, related.reordered fun c member => requires c (early.subset member)⟩

def belated : List Statement :=
  [⟨.text "macro", .int 1, .text "main", [some ⟨.text "#EXPRESSION#", .int 2, .text " ", [], []⟩], []⟩,
    ⟨.text "macro", .int 4, .text " main ", [some ⟨.text "macro", .int 5, .text "", [], []⟩], []⟩,
    ⟨.text "call", .int 7, .text "main", [], []⟩, ⟨.text "dependency", .int 8, .text " , ", [], []⟩,
    ⟨.text "dependency", .int 9, .text "a.B", [], []⟩]

theorem hoisting_preserves_class_belated :
    ∃ s t, compileTemplate belated .null (Session.fresh {} (fun _ => 3) .collect) = .ok none s ∧
      compileTemplate (hoist belated) .null (Session.fresh {} (fun _ => 3) .collect) = .ok none t ∧
      Reordered s t ∧ s.reports.map (·.id) =
        ["MISSING_PARAMETER", "MACRO_ALREADY_DEFINED", "UNKNOWN_STATEMENT", "MISSING_PARAMETER"] := by
  have together := hoisting_preserves_class (Session.fresh {} (fun _ => 3) .collect) id belated (by decide) (by decide)
    .null
  have run := goes_fresh {} (fun _ => 3) .collect belated (by decide) .null
  have free : ¬ Hindered ({} : Config).indentUnit .collect belated := not_hindered short_default id (by decide)
  have wrong : (Grammar.walk belated).any Report.isError = true := by decide
  cases ran : compileTemplate belated .null (Session.fresh {} (fun _ => 3) .collect) with
  | error fault s => exact absurd (run.of_error ran).1 free
  | ok result s =>
    obtain ⟨moved, answer⟩ := run.of_ok ran
    have failed : s.failed = true := by
      rw [moved.failed, reports_walk, wrong]
      rfl
    have reports : s.reports = Grammar.walk belated := by
      rw [moved.reports, reports_walk]
      rfl
    rw [if_pos failed] at answer
    subst answer
    rw [ran] at together
    cases ran' : compileTemplate (hoist belated) .null (Session.fresh {} (fun _ => 3) .collect) with
    | error fault t =>
      rw [ran'] at together
      cases together
    | ok result' t =>
      rw [ran'] at together
      cases together with
      | ok reordered =>
        refine ⟨s, t, rfl, rfl, reordered, ?_⟩
        rw [reports]
        decide

end Compiler

end TemplateCompiler
