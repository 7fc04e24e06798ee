import TemplateCompiler.Proofs.Compiler.Body
import TemplateCompiler.Proofs.References
import TemplateCompiler.Proofs.Session.Performance

namespace TemplateCompiler

namespace Compiler

theorem referencesOf_append (p q : String) : referencesOf (p ++ "," ++ q) = referencesOf p ++ referencesOf q := by
  have spelled : (p ++ "," ++ q).toList = p.toList ++ ',' :: q.toList := by simp
  rw [referencesOf, spelled, Text.pieces_append_separator, List.map_append, List.filter_append]
  rfl

theorem referencesOf_alone {part : String} (alone : ',' ∉ part.toList) :
    referencesOf part = [Text.trim part].filter (· ≠ "") := by
  rw [referencesOf, Text.pieces_alone alone, List.map_singleton, String.ofList_toList]

theorem referencesOf_blank {part : String} (blank : Text.Blank part) : referencesOf part = [] := by
  rw [referencesOf_alone blank.code, Text.trim_eq_empty.mpr blank]
  rfl

theorem referencesOf_intercalate (parts : List String) :
    referencesOf (String.intercalate "," parts) = parts.flatMap referencesOf := by
  induction parts with
  | nil => rfl
  | cons part rest ih =>
    cases rest with
    | nil => simp
    | cons next others =>
      rw [String.intercalate_cons_of_ne_nil (by simp), referencesOf_append, ih]
      rfl

theorem referencesOf_surrounded {left part right : String} (before : Text.Blank left) (after : Text.Blank right)
    (alone : ',' ∉ part.toList) : referencesOf (left ++ part ++ right) = referencesOf part := by
  have spelled : ',' ∉ (left ++ part ++ right).toList := by
    simp only [String.toList_append, List.mem_append, not_or]
    exact ⟨⟨before.code, alone⟩, after.code⟩
  rw [referencesOf_alone spelled, referencesOf_alone alone, Text.trim_surrounded before after]

theorem referencesOf_tidy {ref : String} (alone : ',' ∉ ref.toList) (tidy : Text.trim ref = ref) (filled : ref ≠ "") :
    referencesOf ref = [ref] := by
  rw [referencesOf_alone alone, tidy]
  simpa using filled

theorem flatMap_tidy {refs : List String} (tidy : ∀ ref ∈ refs, ref ≠ "" ∧ ',' ∉ ref.toList ∧ Text.trim ref = ref) :
    refs.flatMap referencesOf = refs := by
  induction refs with
  | nil => rfl
  | cons ref rest ih =>
    obtain ⟨filled, alone, same⟩ := tidy ref List.mem_cons_self
    have others := ih fun other member => tidy other (List.mem_cons_of_mem ref member)
    rw [List.flatMap_cons, referencesOf_tidy alone same filled, others]
    rfl

end Compiler

def Statement.requiring (c : Statement) (param : String) : Statement :=
  { c with name := .text dependencyName, param := .text param }

def Session.process (s : Session) (c : Statement) : Outcome := s.perform .compiled (.handle (.given (some c)))

namespace Outcome

/-- The error is noted, and goes to where reports go. -/
def Reports (o : Outcome) (id : String) : Prop :=
  Note.errorReported id ∈ o.notes ∧ match o.before.sink with
    | .collect => ∃ r ∈ o.reports, r.id = id
    | .relay channel (some level) => ∃ more, Note.relayed ⟨level, channel, id ++ more⟩ ∈ o.notes
    | .relay _ none => o.answer = .error .logLevelNotInteger

/-- The outcome with its reports about another statement. -/
def about (c : Statement) (o : Outcome) : Outcome :=
  { o with after := { o.after with
      reports := o.before.reports ++ o.reports.map fun r => { r with statement := some c } } }

end Outcome

namespace Compiler

open Session

variable {s : Session} {c : Statement} {param : String}

def refuse (s : Session) (c : Statement) : EStateM.Result Fault Session Unit :=
  let told : Session := { s with failed := true, notes := s.notes ++ [.errorReported Report.missingParameter] }
  let r : Report := ⟨some c, Report.missingParameter, .list [c.name], s.context⟩
  match s.sink with
  | .collect => .ok () { told with reports := s.reports ++ [r] }
  | .relay channel (some level) => .ok () { told with notes := told.notes ++ [.relayed ⟨level, channel, r.summary⟩] }
  | .relay _ none => .error .logLevelNotInteger told

theorem reject_missing (s : Session) (c : Statement) : reject c Report.missingParameter s = refuse s c :=
  report_eq { s with failed := true, notes := s.notes ++ [.errorReported Report.missingParameter] } (some c)
    Report.missingParameter (.list [c.name])

theorem compile_requiring (s : Session) (c : Statement) (param : String) :
    compile (c.requiring param) s = if referencesOf param = [] then refuse s (c.requiring param)
      else .ok () { s with references := s.references.addAll (referencesOf param) } := by
  have named : directive? (c.requiring param).name = .ok .dependency := rfl
  rw [compile_of_ok named]
  dsimp only
  rw [compileDependency]
  apply (Act.bind_of_ok (Act.ofExcept_ok param s) _).trans
  cases referencesOf param with
  | nil => exact reject_missing s _
  | cons ref rest => rfl

theorem process_eq (s : Session) (c : Statement) :
    s.process c = ⟨(Act.outcome (compile c) s).map fun _ => .done, [], s, Act.final (compile c) s⟩ := by
  have played : Play.run Handling.compiled.handler none (.handle (.given (some c))) { session := s } =
      match compile c s with
      | .ok _ s' => .ok .done { session := s' }
      | .error fault s' => .error fault { session := s' } := by
    rw [Play.run_eq_step (by simp) (by simp)]
    simp only [Play.step, Play.handlePlace, Play.need, Subject.resolve, Handling.handler, Play.onSession, bind,
      EStateM.bind, pure, EStateM.pure]
    cases compile c s <;> rfl
  rw [process, perform, played, Act.outcome, Act.final]
  cases compile c s <;> rfl

theorem references_process (s : Session) (c : Statement) (param : String) :
    (s.process (c.requiring param)).after.references = s.references.addAll (referencesOf param) := by
  rw [process_eq]
  show (Act.final (compile (c.requiring param)) s).references = _
  rw [Act.final, compile_requiring]
  by_cases lacking : referencesOf param = []
  · rw [if_pos lacking, lacking, refuse]
    rcases s.sink with _ | ⟨_, _ | _⟩ <;> rfl
  · rw [if_neg lacking]

theorem reports_process (s : Session) (c : Statement) (param : String) :
    (s.process (c.requiring param)).Reports Report.missingParameter ↔ referencesOf param = [] := by
  rw [process_eq, Outcome.Reports, Outcome.notes, Outcome.reports, Act.final, Act.outcome, compile_requiring]
  by_cases lacking : referencesOf param = []
  · rw [if_pos lacking, refuse]
    apply iff_of_true _ lacking
    rcases s.sink with _ | ⟨channel, _ | level⟩
    · exact ⟨by simp, by simp⟩
    · exact ⟨by simp, rfl⟩
    · exact ⟨by simp, by simp [Report.summary, String.append_assoc]⟩
  · rw [if_neg lacking]
    apply iff_of_false _ lacking
    rintro ⟨noted, -⟩
    simp at noted

theorem process_about {p q : String} (same : referencesOf p = referencesOf q) (s : Session) (c : Statement) :
    s.process (c.requiring q) = (s.process (c.requiring p)).about (c.requiring q) := by
  rw [process_eq, process_eq, Outcome.about, Outcome.reports, Act.final, Act.final, Act.outcome, Act.outcome,
    compile_requiring, compile_requiring, same]
  by_cases lacking : referencesOf q = []
  · rw [if_pos lacking, if_pos lacking, refuse, refuse]
    -- the report has the name and the line of its statement, and neither depends on the parameter
    rcases s.sink with _ | ⟨channel, _ | level⟩
    · simp only [List.drop_left, List.map_singleton]
      rfl
    · simp only [List.drop_length, List.map_nil, List.append_nil]
    · simp only [List.drop_length, List.map_nil, List.append_nil]
      rfl
  · simp only [if_neg lacking, List.drop_length, List.map_nil, List.append_nil]

/-- Dependencies may be joined and split. A parameter of two parts does what two statements do one after the other, and
    is refused if both of these are. Blanks around the parts and blank parts make no difference, and what is listed
    without them becomes the references of the class, each once. -/
theorem dependencies_split :
    (∀ (s : Session) (c₁ c₂ c₃ : Statement) (p q : String),
      let first := s.process (c₁.requiring p)
      let second := first.after.process (c₂.requiring q)
      let joined := s.process (c₃.requiring (p ++ "," ++ q))
      joined.after.references = second.after.references ∧
      (joined.Reports Report.missingParameter ↔
        first.Reports Report.missingParameter ∧ second.Reports Report.missingParameter)) ∧
    (∀ (s : Session) (c : Statement) (before after : List String) (left part right : String),
      Text.Blank left → Text.Blank right → ',' ∉ part.toList →
      let plain := c.requiring (String.intercalate "," (before ++ part :: after))
      let spaced := c.requiring (String.intercalate "," (before ++ (left ++ part ++ right) :: after))
      s.process spaced = (s.process plain).about spaced) ∧
    (∀ (s : Session) (c : Statement) (before after : List String) (part : String), Text.Blank part →
      let plain := c.requiring (String.intercalate "," (before ++ after))
      let padded := c.requiring (String.intercalate "," (before ++ part :: after))
      s.process padded = (s.process plain).about padded) ∧
    ∀ (config : Config) (digits : Digits) (sink : Sink) (c : Statement) (refs : List String), refs ≠ [] →
      (∀ ref ∈ refs, ref ≠ "" ∧ ',' ∉ ref.toList ∧ Text.trim ref = ref) →
      let o := (Session.fresh config digits sink).process (c.requiring (String.intercalate "," refs))
      o.after.references.toList = refs.eraseDups ∧ o.answer = .ok .done := by
  refine ⟨fun s c₁ c₂ c₃ p q => ⟨?_, ?_⟩, fun s c before after left part right blank blank' alone => ?_,
    fun s c before after part blank => ?_, fun config digits sink c refs filled tidy => ?_⟩
  · rw [references_process, references_process, references_process, referencesOf_append, References.addAll_append]
  · rw [reports_process, reports_process, reports_process, referencesOf_append, List.append_eq_nil_iff]
  · apply process_about
    simp only [referencesOf_intercalate, List.flatMap_append, List.flatMap_cons,
      referencesOf_surrounded blank blank' alone]
  · apply process_about
    simp only [referencesOf_intercalate, List.flatMap_append, List.flatMap_cons, referencesOf_blank blank,
      List.nil_append]
  · have listed : referencesOf (String.intercalate "," refs) = refs := by
      rw [referencesOf_intercalate]
      exact flatMap_tidy tidy
    have accepted : referencesOf (String.intercalate "," refs) ≠ [] := by rwa [listed]
    refine ⟨?_, ?_⟩
    · rw [references_process, listed]
      exact toList_addAll refs
    · rw [process_eq]
      show (Act.outcome _ _).map _ = _
      rw [Act.outcome, compile_requiring, if_neg accepted]
      rfl

theorem dependencies_split_listed :
    let s := Session.fresh {} (fun _ => 3) .collect
    let c : Statement := ⟨.null, .int 1, .null, [], []⟩
    (s.process (c.requiring "a.B,c,a.B")).after.references.toList = ["a.B", "c"] ∧
      s.process (c.requiring "a.B, c\u2003") = (s.process (c.requiring "a.B,c")).about (c.requiring "a.B, c\u2003") ∧
      s.process (c.requiring "a.B, ,c") = (s.process (c.requiring "a.B,c")).about (c.requiring "a.B, ,c") := by
  intro s c
  obtain ⟨-, spaced, padded, listed⟩ := dependencies_split
  have alone : ',' ∉ "c".toList := by decide
  exact ⟨(listed {} (fun _ => 3) .collect c ["a.B", "c", "a.B"] (by decide) (by decide)).1,
    spaced s c ["a.B"] [] " " "c" "\u2003" (by decide) (by decide) alone,
    padded s c ["a.B"] ["c"] " " (by decide)⟩

example : referencesOf " a,, b\u2003,a," = ["a", "b", "a"] := by decide

end Compiler

end TemplateCompiler
