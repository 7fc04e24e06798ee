import TemplateCompiler.Proofs.Compiler.Success
import TemplateCompiler.Proofs.Session.Naming

namespace TemplateCompiler

namespace Layout

open Grammar (directive)

def expressions (statements : List Statement) : List Statement :=
  (statements.filter fun c => directive c.nameText = .macroDefinition).flatMap fun c =>
    c.children.filter fun d => directive d.nameText = .expression

def evaluates (l : Line) : Bool := "eval( ".toList.isPrefixOf l.text.toList

def evaluations (lines : List Line) : List String := (lines.filter evaluates).map Line.text

def evaluation (name : String) (c : Statement) : String := "eval( \"" ++ name ++ "=(" ++ escaped c.paramText ++ ")\" );"

theorem evaluations_append (lines more : List Line) :
    evaluations (lines ++ more) = evaluations lines ++ evaluations more := by
  rw [evaluations, List.filter_append, List.map_append]
  rfl

theorem evaluations_expressionLines (framework name : String) (c : Statement) :
    evaluations (expressionLines framework name c) = [evaluation name c] := by
  simp [evaluations, evaluates, expressionLines, guardedLines, evaluation]

theorem evaluations_macroLines (framework name : String) (body : List Line) :
    evaluations (macroLines framework name body) = evaluations body := by
  rw [macroLines, guardLines, evaluations_append, evaluations_append, evaluations_append, evaluations_append]
  simp [evaluations, evaluates, handlerLine]

end Layout

namespace Compiler

open Session Layout

variable {accepted : Grammar.Accepted}

/-- The evaluations of expressions, each into the variable with the next name. -/
def evaluated (names : Names) (cs : List Statement) : List String :=
  List.zipWith evaluation (names.following cs.length) cs

theorem evaluated_append (names : Names) (cs more : List Statement) :
    evaluated names (cs ++ more) = evaluated names cs ++ evaluated (names.skip cs.length) more := by
  rw [evaluated, List.length_append, Names.following_add, List.zipWith_append (names.length_following cs.length)]
  rfl

theorem evaluations_shownLines (framework : String) (names : Names) (c : Statement) :
    evaluations (shownLines framework names c) = evaluated names (if takesName c then [c] else []) := by
  unfold shownLines childLines takesName
  cases kind : Grammar.directive c.nameText with
  | text =>
    by_cases filled : c.param.isTruthy
    · simp [filled, evaluations, evaluates, evaluated]
    · simp [filled, evaluations, evaluated]
  | expression =>
    by_cases blank : c.title = ""
    · simp [blank, evaluations, evaluated]
    · simp [blank, evaluations_expressionLines, evaluated, Names.following, variableName_eq]
  | _ => simp [evaluations, evaluated]

theorem evaluations_shownBody (framework : String) (names : Names) (body : List Statement) :
    evaluations (shownBody framework names body) = evaluated names (body.filter takesName) := by
  induction body generalizing names with
  | nil => rfl
  | cons c rest ih =>
    rw [shownBody, evaluations_append, evaluations_shownLines, ih]
    cases takes : takesName c with
    | true =>
      rw [List.filter_cons_of_pos takes]
      exact (evaluated_append names [c] _).symm
    | false =>
      rw [List.filter_cons_of_neg (by simp [takes])]
      exact (evaluated_append names [] _).symm

theorem takesName_of_clean {body : List Statement}
    (clean : (body.flatMap Grammar.childReports).any Report.isError = false) :
    body.filter takesName = body.filter fun d => Grammar.directive d.nameText = .expression := by
  apply List.filter_congr
  intro d member
  have quiet := clean
  rw [List.any_flatMap, List.any_eq_false] at quiet
  have mild := quiet d member
  rw [takesName]
  cases kind : Grammar.directive d.nameText with
  | expression =>
    by_cases blank : d.title = ""
    · simp only [Grammar.childReports, kind, if_pos blank] at mild
      exact absurd rfl mild
    · simp [blank]
  | _ => simp

/-- Without errors the expressions are evaluated in their order, and each takes one name. -/
theorem evaluations_sections {statements : List Statement}
    (clean : (Grammar.reportsAfter accepted statements).any Report.isError = false) (framework : String)
    (names : Names) :
    evaluations ((sectionsOf shownBody accepted framework names statements).flatMap Prod.snd) =
        evaluated names (expressions statements) ∧
      (templateTally accepted statements).names = (expressions statements).length := by
  -- the names go on behind those of the macros before
  induction statements generalizing accepted names with
  | nil => exact ⟨rfl, rfl⟩
  | cons c rest ih =>
    rw [Grammar.reportsAfter, List.any_append, Bool.or_eq_false_iff] at clean
    obtain ⟨here, later⟩ := clean
    have others := ih later
    have counted : (templateTally accepted (c :: rest)).names =
        (topTally accepted c).names + (templateTally (accepted.and c) rest).names := rfl
    rw [sectionsOf, List.flatMap_append, evaluations_append, counted, (others names).2, (others _).1]
    by_cases kind : Grammar.directive c.nameText = .macroDefinition
    · have accepts := accepts_of_clean kind here
      rw [topReports_of_accepts accepts] at here
      have same : expressions (c :: rest) = c.children.filter takesName ++ expressions rest := by
        rw [expressions, List.filter_cons_of_pos (by simpa using kind), List.flatMap_cons, takesName_of_clean here]
        rfl
      have named : (topTally accepted c).names = (c.children.filter takesName).length := by
        simp only [topTally, if_pos accepts, List.countP_eq_length_filter]
      have written : (sectionOf shownBody accepted framework names c).flatMap Prod.snd =
          macroLines framework c.title (shownBody framework names c.children) := by
        rw [sectionOf, if_pos accepts]
        simp
      rw [written, evaluations_macroLines, evaluations_shownBody, same, named, evaluated_append, List.length_append]
      exact ⟨rfl, rfl⟩
    · have refused : Grammar.accepts accepted c = false := accepts_of_other kind
      have same : expressions (c :: rest) = expressions rest := by
        rw [expressions, List.filter_cons_of_neg (by simpa using kind)]
        rfl
      have unnamed : (topTally accepted c).names = 0 := by simp [topTally, refused]
      rw [sectionOf, refused, same, unnamed]
      exact ⟨rfl, Nat.zero_add _⟩

/-- A template without errors takes one name for each expression in its macros, in their order, and the prototype of the
    class has a line that evaluates the expression into the variable of that name. -/
theorem evaluations_of_text {config : Config} {digits : Digits} {sink : Sink} {isLogged : Bool}
    {statements : List Statement} {classpath : Value} {text : String} {s : Session}
    (ran : compileTemplate statements classpath { Session.fresh config digits sink with isLogged } =
      .ok (some text) s) :
    let names : Names := ⟨config.nameStem, digits, 0⟩
    let made := sectionsOf shownBody [] config.framework names statements
    text = joined config.indentUnit config.dependenciesKeyword classpath s.references made ∧
      s.given = names.following (expressions statements).length ∧
      evaluations (made.flatMap Prod.snd) = List.zipWith evaluation s.given (expressions statements) := by
  intro names made
  let start : Session := { Session.fresh config digits sink with isLogged }
  have run := goes_compileTemplate (idle_logged config digits sink isLogged) statements (fun _ _ _ => trivial) classpath
  obtain ⟨moved, answer⟩ := run.of_ok ran
  obtain ⟨unfailed, whole⟩ := unfailed_of_text answer
  have clean : Clean statements := by
    have failed := moved.failed
    rw [unfailed, reports_walk] at failed
    exact clean_of_walk failed.symm
  obtain ⟨lines, counted⟩ := evaluations_sections clean config.framework start.names
  have continues := upheld_continues.compileTemplate statements classpath start
  rw [Act.final, ran] at continues
  have given := continues.given_eq rfl rfl
  have taken : s.names.count = (expressions statements).length := by
    rw [moved.names, ← counted]
    exact Nat.zero_add _
  rw [taken] at given
  refine ⟨whole, given, ?_⟩
  rw [given]
  exact lines

/-- In every session that actions lead to, whatever its stem is and whatever digits are drawn, the names that were given
    are those of the numbers from one on, in order, and no two of them are alike. Taking a name and a guarded evaluation
    add just the next name, also where the evaluation fails. So in the text of a class each expression is evaluated into
    a variable of its own. -/
theorem given_distinct (config : Config) (digits : Digits) (sink : Sink) (isLogged : Bool) :
    let name (k : Nat) := config.nameStem ++ naturalText (k + 1) ++ "_" ++ integerText (digits k)
    (∀ handling actions, let s := performed config digits sink isLogged handling actions
      s.given = (List.range s.names.count).map name ∧ s.given.Nodup) ∧
    (∀ s : Session, takeName s = .ok s.nextName s.named ∧ s.named.given = s.given ++ [s.nextName] ∧
      ∀ expr statement errorName,
        (Act.final (emitGuarded expr statement errorName) s).given = s.given ++ [s.nextName] ∧
        ∀ answer s', emitGuarded expr statement errorName s = .ok answer s' → answer = s.nextName) ∧
    ∀ statements classpath text s,
      compileTemplate statements classpath { Session.fresh config digits sink with isLogged } = .ok (some text) s →
      let made := sectionsOf shownBody [] config.framework ⟨config.nameStem, digits, 0⟩ statements
      text = joined config.indentUnit config.dependenciesKeyword classpath s.references made ∧
      evaluations (made.flatMap Prod.snd) = List.zipWith evaluation s.given (expressions statements) ∧
      s.given = (List.range (expressions statements).length).map name ∧ s.given.Nodup := by
  intro name
  let names : Names := ⟨config.nameStem, digits, 0⟩
  have spelled (n : Nat) : names.following n = (List.range n).map name := Names.following_fresh _ _ n
  refine ⟨fun handling actions => ?_, fun s => ⟨takeName_eq s, given_named s, ?_⟩, ?_⟩
  · have continues := upheld_continues.performed config digits sink isLogged handling actions
    have given := continues.given_eq rfl rfl
    refine ⟨given.trans (spelled _), ?_⟩
    rw [given]
    exact Names.nodup_following _ _
  · intro expr statement errorName
    exact ⟨given_emitGuarded expr statement errorName s, fun answer s' ran => emitGuarded_answer ran⟩
  · intro statements classpath text s ran
    obtain ⟨whole, given, lines⟩ := evaluations_of_text ran
    refine ⟨whole, lines, given.trans (spelled _), ?_⟩
    rw [given]
    exact names.nodup_following _

def numbered : Config := { nameStem := "v1_" }

def repeatedly : List Statement :=
  [⟨.text "macro", .int 1, .text "main", [some ⟨.text "#EXPRESSION#", .int 2, .text "a", [], []⟩], []⟩,
    ⟨.text "macro", .int 3, .text "b", [some ⟨.text "#EXPRESSION#", .int 4, .text "a", [], []⟩], []⟩]

theorem given_distinct_numbered :
    (performed numbered (Digits.cycle [-3, 12]) .collect false .compiled
      [.takeName, .emitGuarded (.text "a") (.given none) .null, .takeName]).given =
        ["v1_1_-3", "v1_2_12", "v1_3_-3"] ∧
    ∃ text s made, compileTemplate repeatedly (.text "A") (Session.fresh numbered (Digits.cycle [-3, 12]) .collect) =
        .ok (some text) s ∧
      text = joined (some " ") "$dependencies" (.text "A") s.references made ∧
      evaluations (made.flatMap Prod.snd) = ["eval( \"v1_1_-3=(a)\" );", "eval( \"v1_2_12=(a)\" );"] := by
  obtain ⟨played, -, compiled⟩ := given_distinct numbered (Digits.cycle [-3, 12]) .collect false
  obtain ⟨given, -⟩ := played .compiled [.takeName, .emitGuarded (.text "a") (.given none) .null, .takeName]
  have free : ¬ Hindered numbered.indentUnit .collect repeatedly := not_hindered short_default id (by decide)
  obtain ⟨text, s, ran⟩ := run_of_clean numbered (Digits.cycle [-3, 12]) .collect "A" (by decide) free (by decide)
  obtain ⟨whole, lines, given', -⟩ := compiled repeatedly (.text "A") text s ran
  refine ⟨given.trans (by decide), text, s, _, ran, whole, lines.trans ?_⟩
  rw [given']
  decide

end Compiler

end TemplateCompiler
