import Mathlib.Data.List.Induction
import TemplateCompiler.Proofs.Compiler.Assembly

namespace TemplateCompiler.Compiler

open Session Layout

variable {hindered : Prop} {s s' : Session} {made : Made} {c : Statement} {accepted : Grammar.Accepted}

theorem accepts_of_clean (kind : Grammar.directive c.nameText = .macroDefinition)
    (clean : (Grammar.topReports accepted c).any Report.isError = false) : Grammar.accepts accepted c = true := by
  by_cases blank : c.title = ""
  · simp only [Grammar.topReports, kind, if_pos blank] at clean
    cases clean
  · cases taken : accepted.lookup c.title with
    | some line =>
      simp only [Grammar.topReports, kind, if_neg blank, taken] at clean
      cases clean
    | none => simp [Grammar.accepts, kind, blank, taken]

theorem topReports_of_accepts (accepts : Grammar.accepts accepted c = true) :
    Grammar.topReports accepted c = c.children.flatMap Grammar.childReports := by
  simp only [Grammar.accepts, Bool.and_eq_true, decide_eq_true_eq, Option.isNone_iff_eq_none] at accepts
  obtain ⟨⟨kind, present⟩, new⟩ := accepts
  simp only [Grammar.topReports, kind, if_neg present, new]

theorem sections_of_clean {statements : List Statement}
    (clean : (Grammar.reportsAfter accepted statements).any Report.isError = false) (framework : String)
    (names : Names) :
    (sectionsOf bodyLines accepted framework names statements).flatMap Prod.snd =
        prototypeLines framework names statements ∧
      (templateTally accepted statements).references = templateReferences statements := by
  -- names count on through all macros, and what was accepted before decides on the rest
  induction statements generalizing accepted names with
  | nil => exact ⟨rfl, rfl⟩
  | cons c rest ih =>
    rw [Grammar.reportsAfter, List.any_append, Bool.or_eq_false_iff] at clean
    obtain ⟨here, later⟩ := clean
    have others := ih later
    have references : (templateTally accepted (c :: rest)).references =
        (topTally accepted c).references ++ (templateTally (accepted.and c) rest).references := rfl
    rw [sectionsOf, List.flatMap_append, references, templateReferences, List.flatMap_cons, ← templateReferences]
    by_cases kind : Grammar.directive c.nameText = .macroDefinition
    · have accepts := accepts_of_clean kind here
      have named : (topTally accepted c).names = c.children.countP takesName := by simp only [topTally, if_pos accepts]
      have taken : (topTally accepted c).references = c.children.flatMap referencesIn := by
        simp only [topTally, if_pos accepts]
      rw [prototypeLines, if_pos kind, if_pos kind, named, taken, (others _).1, (others names).2, sectionOf,
        if_pos accepts]
      exact ⟨by simp, rfl⟩
    · have refused : Grammar.accepts accepted c = false := accepts_of_other kind
      have named : (topTally accepted c).names = 0 := by simp [topTally, refused]
      have taken : (topTally accepted c).references = referencesIn c := by simp [topTally, refused]
      rw [prototypeLines, if_neg kind, if_neg kind, named, taken, (others _).1, (others names).2, sectionOf, refused]
      exact ⟨rfl, rfl⟩

theorem closed_append {lines : List Line} (closed : Closed lines) (more : List Line) (rest : more = [] ∨ Closed more) :
    Closed (lines ++ more) := by
  rcases rest with rfl | ⟨front, rfl⟩
  · rwa [List.append_nil]
  · exact ⟨lines ++ front, (List.append_assoc _ _ _).symm⟩

theorem closed_prototypeLines (framework : String) (names : Names) (statements : List Statement) :
    prototypeLines framework names statements = [] ∨ Closed (prototypeLines framework names statements) := by
  induction statements generalizing names with
  | nil => exact .inl rfl
  | cons c rest ih =>
    rw [prototypeLines]
    split
    · exact .inr (closed_append ⟨_, rfl⟩ _ (ih _))
    · exact ih names

theorem toList_addAll (refs : List String) : (({} : References).addAll refs).toList = refs.eraseDups := by
  -- from the end, since a reference is looked for among all before it
  induction refs using List.reverseRecOn with
  | nil => rfl
  | append_singleton refs ref ih =>
    have last : ({} : References).addAll (refs ++ [ref]) = (({} : References).addAll refs).add ref := by
      rw [References.addAll_append]
      rfl
    rw [last, References.toList_add, ih, Ordered.eraseDups_concat]

def joined (unit : Option String) (keyword : String) (classpath : Value) (refs : References) (made : Made) : String :=
  String.intercalate "\n" (Compiler.classLines classpath (refs.declaration keyword)
    (rendered unit (made.flatMap Prod.snd))) ++ "\n"

def finish (classpath : Value) : Session.Act (Option String) := do
  if (← get).failed then
    note (.generationFailed classpath.plain)
    return none
  else return some (← classText classpath)

theorem goes_finish (idle : Idle hindered s made) (classpath : Value) :
    Goes hindered (finish classpath) s {} fun result s' => result =
      if s'.failed then none
      else some (joined s.buffer.unit s.config.dependenciesKeyword classpath s'.references made) := by
  apply goes_of_look (Act.get_apply s)
  cases failed : s.failed with
  | true =>
    rw [if_pos rfl, ← Tally.empty_append {}]
    apply Goes.bind (goes_note s (.generationFailed classpath.plain))
    intro _ s' moved _
    have kept : s'.failed = true := by rw [moved.failed, failed]; rfl
    exact goes_of_ok rfl (Moved.refl s') (if_pos kept).symm
  | false =>
    apply goes_of_look (classText_of_idle idle classpath)
    have unfailed : ¬ s.failed = true := by rw [failed]; exact Bool.false_ne_true
    exact Act.ends_of_ok rfl ⟨Moved.refl s, (if_neg unfailed).symm⟩

theorem Idle.contains_main (idle : Idle hindered s made) :
    s.macros.contains mainMacro = (made.accepted.lookup "main").isSome := by
  rw [Slots.contains, idle.macros, lookup_map_key (fun m : Statement × List Line => m.1.title), Made.lookup_accepted]
  rw [Option.isSome_map, Option.isSome_map]
  rfl

theorem goes_compileTemplate (idle : Idle hindered s []) (statements : List Statement)
    (bars : ∀ c ∈ statements, BarsTop c → hindered) (classpath : Value) :
    Goes hindered (compileTemplate statements classpath) s
      (templateTally [] statements ++ { reports := Grammar.endReports (Grammar.acceptedFrom statements) })
      fun result s' => result =
        if s'.failed then none
        else some (joined s.buffer.unit s.config.dependenciesKeyword classpath s'.references
          (sectionsOf shownBody [] s.config.framework s.names statements)) := by
  apply Goes.bind (goes_compileAll_top idle statements bars)
  intro _ s₁ m₁ idle₁
  have accepted := accepted_sections shownBody [] s.config.framework s.names statements
  have known : s₁.macros.contains mainMacro = ((Grammar.acceptedFrom statements).lookup "main").isSome := by
    rw [idle₁.contains_main, accepted]
    rfl
  apply goes_of_look (Act.get_apply s₁)
  have answer (s₂ : Session) (t : Tally) (m₂ : Moved s₁ s₂ t) (still : Still s₁ s₂) :
      Goes hindered (finish classpath) s₂ {} fun result s' => result =
        if s'.failed then none
        else some (joined s.buffer.unit s.config.dependenciesKeyword classpath s'.references
          (sectionsOf shownBody [] s.config.framework s.names statements)) := by
    have m := m₁.trans m₂
    have last := goes_finish (idle₁.still m₂ still) classpath
    rw [m.unit, m.config] at last
    exact last
  cases main : s₁.macros.contains mainMacro with
  | true =>
    have present := Option.isNone_eq_false_iff.mpr (known.symm.trans main)
    have due : Grammar.endReports (Grammar.acceptedFrom statements) = [] := by
      rw [Grammar.endReports, present]
      rfl
    rw [due]
    exact answer s₁ {} (Moved.refl s₁) ⟨rfl, rfl⟩
  | false =>
    have missing := Option.isSome_eq_false_iff.mp (known.symm.trans main)
    have warned := goes_reportWarning idle₁.steady none (.list [.text mainMacro])
      (show (⟨none, Report.missingMainMacro, .list [.text mainMacro], .null⟩ : Report).isError = false from rfl)
    have due : Grammar.endReports (Grammar.acceptedFrom statements) =
        [⟨none, Report.missingMainMacro, .list [.text mainMacro], .null⟩] := by
      rw [Grammar.endReports, if_pos missing]
      rfl
    rw [due]
    exact Goes.bind warned fun _ s₂ m₂ still => answer s₂ _ m₂ still

/-- What may keep a template from being compiled: a unit that lines cannot be indented by, a log that takes no reports,
    or an expression in a macro whose line is no number. -/
def Hindered (unit : Option String) (sink : Sink) (statements : List Statement) : Prop :=
  TooLong unit ∨ sink.isMute ∨ ∃ c ∈ statements, Grammar.directive c.nameText = .macroDefinition ∧
    ∃ d ∈ c.children, takesName d ∧ ∃ fault, d.line.toInt = .error fault

theorem not_hindered {unit : Option String} {sink : Sink} {statements : List Statement}
    (short : ∀ u ∈ unit, u.length * deepest ≤ Level.roomLimit) (heard : ¬ sink.isMute)
    (readable : ∀ c ∈ statements, ∀ d ∈ c.children, d.line.toInt.toBool) : ¬ Hindered unit sink statements := by
  rintro (⟨u, given, long⟩ | mute | ⟨c, member, -, d, child, -, fault, unreadable⟩)
  · have fits := short u given
    omega
  · exact heard mute
  · have read := readable c member d child
    rw [unreadable] at read
    cases read

theorem short_of_few {unit : Option String} (few : ∀ u ∈ unit, u.length ≤ 80) :
    ∀ u ∈ unit, u.length * deepest ≤ Level.roomLimit := by
  intro u given
  have few := few u given
  simp only [deepest, Level.roomLimit]
  omega

theorem short_default : ∀ u ∈ ({} : Config).indentUnit, u.length * deepest ≤ Level.roomLimit :=
  short_of_few (by decide)

theorem unfailed_of_text {failed : Bool} {text whole : String}
    (answer : some text = if failed then none else some whole) : failed = false ∧ text = whole := by
  cases failed with
  | true => cases answer
  | false => exact ⟨rfl, Option.some.inj answer⟩

variable (config : Config) (digits : Digits) (sink : Sink) (statements : List Statement)

theorem idle_fresh : Idle (Hindered config.indentUnit sink statements) (Session.fresh config digits sink) [] where
  steady := ⟨rfl, fun long => .inl long, fun mute => .inr (.inl mute)⟩
  idle := rfl
  macros := rfl
  known name i found := by cases found
  contents m member := by cases member

theorem idle_logged (isLogged : Bool) :
    Idle True { Session.fresh config digits sink with isLogged } [] where
  steady := ⟨rfl, fun _ => trivial, fun _ => trivial⟩
  idle := rfl
  macros := rfl
  known name i found := by cases found
  contents m member := by cases member

theorem shownBody_of_textual {body : List Statement} (textual : ∀ c ∈ body, c.isTextual) (framework : String)
    (names : Names) : shownBody framework names body = bodyLines framework names body := by
  induction body generalizing names with
  | nil => rfl
  | cons c rest ih =>
    have given (kind : Grammar.directive c.nameText = .text) : c.param = .text c.paramText :=
      Statement.param_of_isTextual (textual c List.mem_cons_self) (by simp [kind])
    rw [shownBody, bodyLines, shownLines_of_text given, ih fun d member => textual d (List.mem_cons_of_mem c member)]

theorem bars_of_isTextual {d : Statement} (textual : d.isTextual) (bars : Bars (some d)) :
    takesName d ∧ ∃ fault, d.line.toInt = .error fault := by
  cases bars with
  | name unknown =>
    rw [Statement.directive?_of_isTextual textual] at unknown
    cases unknown
  | param other kind =>
    have given := Statement.param_of_isTextual textual (by rcases kind with kind | kind <;> simp [kind])
    rw [given] at other
    cases other
  | line takes unreadable => exact ⟨takes, _, unreadable⟩

theorem bars_of_isAdmissible (admissible : c.isAdmissible) (bars : BarsTop c) :
    Grammar.directive c.nameText = .macroDefinition ∧
      ∃ d ∈ c.children, takesName d ∧ ∃ fault, d.line.toInt = .error fault := by
  have textual := Statement.isTextual_of_isAdmissible admissible
  cases bars with
  | name unknown =>
    rw [Statement.directive?_of_isTextual textual] at unknown
    cases unknown
  | param other kind =>
    have given := Statement.param_of_isTextual textual (by rcases kind with kind | kind <;> simp [kind])
    rw [given] at other
    cases other
  | inside kind member bars =>
    obtain ⟨filled, textuals⟩ := Statement.children_of_isAdmissible admissible kind
    rw [filled] at member
    obtain ⟨d, child, rfl⟩ := List.mem_map.mp member
    exact ⟨kind, d, child, bars_of_isTextual (textuals d child) bars⟩

theorem goes_start (admissible : ∀ c ∈ statements, c.isAdmissible) (classpath : Value) :
    Goes (Hindered config.indentUnit sink statements) (compileTemplate statements classpath)
      (Session.fresh config digits sink)
      (templateTally [] statements ++ { reports := Grammar.endReports (Grammar.acceptedFrom statements) })
      fun result s => result =
        if s.failed then none
        else some (joined config.indentUnit config.dependenciesKeyword classpath s.references
          (sectionsOf bodyLines [] config.framework ⟨config.nameStem, digits, 0⟩ statements)) := by
  have run := goes_compileTemplate (idle_fresh config digits sink statements) statements
    (fun c member bars => .inr (.inr ⟨c, member, bars_of_isAdmissible (admissible c member) bars⟩)) classpath
  have same (c : Statement) (member : c ∈ statements) (kind : Grammar.directive c.nameText = .macroDefinition) :=
    shownBody_of_textual (Statement.children_of_isAdmissible (admissible c member) kind).2
  rw [sectionsOf_congr same] at run
  exact run

theorem goes_fresh (legible : ∀ c ∈ statements, c.isLegible) (classpath : Value) :
    Goes (Hindered config.indentUnit sink statements) (compileTemplate statements classpath)
      (Session.fresh config digits sink)
      (templateTally [] statements ++ { reports := Grammar.endReports (Grammar.acceptedFrom statements) })
      fun result s => result =
        if s.failed then none
        else some (joined config.indentUnit config.dependenciesKeyword classpath s.references
          (sectionsOf bodyLines [] config.framework ⟨config.nameStem, digits, 0⟩ statements)) :=
  goes_start config digits sink statements
    (fun c member => Statement.isAdmissible_of_isLegible (legible c member)) classpath

theorem handled_of_free {config : Config} {digits : Digits} {sink : Sink} {statements : List Statement}
    (admissible : ∀ c ∈ statements, c.isAdmissible) (free : ¬ Hindered config.indentUnit sink statements) :
    ∃ s, compileAll (statements.map some) (Session.fresh config digits sink) = .ok () s := by
  have run := goes_compileAll_top (idle_fresh config digits sink statements) statements
    fun c member bars => .inr (.inr ⟨c, member, bars_of_isAdmissible (admissible c member) bars⟩)
  cases ran : compileAll (statements.map some) (Session.fresh config digits sink) with
  | ok _ s => exact ⟨s, rfl⟩
  | error fault s => exact absurd (run.of_error ran).1 free

theorem reports_walk : (templateTally [] statements ++
    { reports := Grammar.endReports (Grammar.acceptedFrom statements) }).reports = Grammar.walk statements :=
  congrArg (· ++ Grammar.endReports (Grammar.acceptedFrom statements)) (reports_templateTally [] statements)

/-- A run that ends has made the reports of the grammar, and its text is that of the layout if no report is an error. -/
theorem outcome_of_run {config : Config} {digits : Digits} {sink : Sink} {statements : List Statement}
    {classpath : String} {result : Option String} (admissible : ∀ c ∈ statements, c.isAdmissible)
    (ran : compileTemplate statements (.text classpath) (Session.fresh config digits sink) = .ok result s) :
    s.reports = sink.kept (Grammar.walk statements) ∧
    s.failed = (Grammar.walk statements).any Report.isError ∧
    (result = if s.failed then none else some (Layout.classText config digits classpath statements)) ∧
    (s.failed = false → s.references.toList = (templateReferences statements).eraseDups) := by
  have due := reports_walk statements
  obtain ⟨moved, answer⟩ := (goes_start config digits sink statements admissible (.text classpath)).of_ok ran
  have reports : s.reports = sink.kept (Grammar.walk statements) := by
    rw [moved.reports, due]
    exact List.nil_append _
  have failed : s.failed = (Grammar.walk statements).any Report.isError := by
    rw [moved.failed, due]
    exact Bool.false_or _
  refine ⟨reports, failed, ?_⟩
  rw [answer]
  cases flag : s.failed with
  | true => exact ⟨rfl, fun unfailed => absurd unfailed (by decide)⟩
  | false =>
    rw [flag, Grammar.walk, List.any_append, eq_comm, Bool.or_eq_false_iff] at failed
    obtain ⟨prototype, references⟩ := sections_of_clean failed.1 config.framework ⟨config.nameStem, digits, 0⟩
    have listed : s.references.toList = (templateReferences statements).eraseDups := by
      rw [moved.references, Tally.references_append, List.append_nil, references]
      exact toList_addAll _
    rw [joined, prototype, joined_classLines _ _ _ _ (closed_prototypeLines _ _ _), listed]
    exact ⟨rfl, fun _ => rfl⟩

/-- The collected reports are those of the grammar, and there is a text exactly if none of them is an error. A run that
    is hindered has made the first of these reports. -/
theorem compileTemplate_reports (legible : ∀ c ∈ statements, c.isLegible) (classpath : Value) :
    Act.Ends (compileTemplate statements classpath) (Session.fresh config digits .collect)
      (fun result s =>
        s.reports = Grammar.walk statements ∧
        s.failed = (Grammar.walk statements).any Report.isError ∧
        (result = none ↔ s.failed = true))
      (fun s => s.reports <+: Grammar.walk statements ∧ Hindered config.indentUnit .collect statements) := by
  have due := reports_walk statements
  apply Act.Ends.mono (goes_fresh config digits .collect statements legible classpath)
  · rintro result s ⟨moved, answer⟩
    have failed : s.failed = (Grammar.walk statements).any Report.isError := by rw [moved.failed, due]; rfl
    refine ⟨?_, failed, ?_⟩
    · rw [moved.reports, due]
      rfl
    · rw [answer]
      cases s.failed <;> simp
  · rintro s ⟨reason, made, early, same⟩
    rw [due] at early
    have kept : s.reports = made := same
    rw [← kept] at early
    exact ⟨early, reason⟩

def repeated : List Statement :=
  [⟨.text "dependency", .int 1, .text "a.B, ,c.D", [], []⟩,
    ⟨.text "macro", .int 2, .text "main", [some ⟨.text "#EXPRESSION#", .int 3, .text " ", [], []⟩,
      some ⟨.text "dependency", .int 4, .text " ,\t", [], []⟩], []⟩,
    ⟨.text "macro", .int 5, .text " main ", [some ⟨.text "macro", .int 6, .text "", [], []⟩], []⟩,
    ⟨.text "call", .int 8, .text "main", [], []⟩,
    ⟨.text "dependency", .int 9, .text "", [], []⟩]

theorem compileTemplate_reports_repeated :
    ∃ s, compileTemplate repeated .null (Session.fresh {} (fun _ => 0) .collect) = .ok none s ∧
      s.reports.map (fun r => (r.id, (r.statement.map Statement.line).map Value.plain, r.args.display)) =
        [("MISSING_PARAMETER", some "3", "['#EXPRESSION#']"), ("MISSING_PARAMETER", some "4", "['dependency']"),
          ("MACRO_ALREADY_DEFINED", some "5", "['main', 2]"), ("UNKNOWN_STATEMENT", some "8", "['call']"),
          ("MISSING_PARAMETER", some "9", "['dependency']")] := by
  have run := compileTemplate_reports {} (fun _ => 0) repeated (by decide) .null
  have free : ¬ Hindered ({} : Config).indentUnit .collect repeated := not_hindered short_default id (by decide)
  have wrong : (Grammar.walk repeated).any Report.isError = true := by decide
  cases ran : compileTemplate repeated .null (Session.fresh {} (fun _ => 0) .collect) with
  | error fault s => exact absurd (run.of_error ran).2 free
  | ok result s =>
    obtain ⟨reports, failed, answer⟩ := run.of_ok ran
    refine ⟨s, ?_, ?_⟩
    · rw [answer.mpr (failed.trans wrong)]
    · rw [reports]
      decide +kernel

/-- Without errors the text is that of the layout, whatever the unit, the names and the digits are. -/
theorem compileTemplate_text (legible : ∀ c ∈ statements, c.isLegible) (classpath : String) :
    Act.Ends (compileTemplate statements (.text classpath)) (Session.fresh config digits sink)
      (fun result s =>
        s.failed = (Grammar.walk statements).any Report.isError ∧
        result = if s.failed then none else some (Layout.classText config digits classpath statements))
      (fun _ => Hindered config.indentUnit sink statements) := by
  have run := goes_fresh config digits sink statements legible (.text classpath)
  have admissible c (member : c ∈ statements) := Statement.isAdmissible_of_isLegible (legible c member)
  cases ran : compileTemplate statements (.text classpath) (Session.fresh config digits sink) with
  | ok result s =>
    obtain ⟨-, failed, answer, -⟩ := outcome_of_run admissible ran
    exact Act.ends_of_ok ran ⟨failed, answer⟩
  | error fault s => exact Act.ends_of_error ran (run.of_error ran).1

def greeting : List Statement :=
  [⟨.text "dependency", .int 1, .text "a.B, c.D,a.B", [], []⟩,
    ⟨.text "macro", .int 2, .text " main ",
      [some ⟨.text "#TEXT#", .int 3, .text "Hi ", [], []⟩,
        some ⟨.text "#EXPRESSION#", .int 4, .text "user.name", [], []⟩,
        some ⟨.text "dependency", .int 4, .text " e.F ", [], []⟩,
        some ⟨.text "#EXPRESSION#", .int 5, .text "a[\"b\"]", [], []⟩], []⟩,
    ⟨.text "macro", .int 7, .text "bye", [some ⟨.text "#EXPRESSION#", .int 8, .text "n", [], []⟩], []⟩]

def greetingConfig : Config := ⟨some "--", "tmp", "fw:", "$uses"⟩

def greetingDigits : Digits := Digits.cycle [7, -2]

def greetingText : String := String.join
  ["Aria.classDefinition(\x7b\n",
    " $classpath: \"app.Hi\",\n",
    " $uses: [\"a.B\",\"c.D\",\"e.F\"],\n",
    " $prototype: \x7b\n",
    "----macro_main : function () \x7b\n",
    "------try \x7b\n",
    "--------this.__$write(\"Hi \");\n",
    "--------this['fw:currentLineNumber'] = 4;\n",
    "--------var tmp1_7 = null;\n",
    "--------try \x7b\n",
    "----------eval( \"tmp1_7=(user.name)\" );\n",
    "--------\x7d catch (e) \x7b\n",
    "----------this.$logError(this.EXCEPTION_IN_EXPRESSION,[\"user.name\",4,\"#EXPRESSION#\"], e);\n",
    "--------\x7d\n",
    "--------this.__$write(tmp1_7);\n",
    "--------this['fw:currentLineNumber'] = 5;\n",
    "--------var tmp2_-2 = null;\n",
    "--------try \x7b\n",
    "----------eval( \"tmp2_-2=(a[\\\"b\\\"])\" );\n",
    "--------\x7d catch (e) \x7b\n",
    "----------this.$logError(this.EXCEPTION_IN_EXPRESSION,[\"a[\\\"b\\\"]\",5,\"#EXPRESSION#\"], e);\n",
    "--------\x7d\n",
    "--------this.__$write(tmp2_-2);\n",
    "------\x7d catch (_ex) \x7b\n",
    "--------this.$logError(this.EXCEPTION_IN_MACRO,[\"main\",this['fw:currentLineNumber']],_ex);\n",
    "------\x7d\n",
    "----\x7d,\n",
    "----macro_bye : function () \x7b\n",
    "------try \x7b\n",
    "--------this['fw:currentLineNumber'] = 8;\n",
    "--------var tmp3_7 = null;\n",
    "--------try \x7b\n",
    "----------eval( \"tmp3_7=(n)\" );\n",
    "--------\x7d catch (e) \x7b\n",
    "----------this.$logError(this.EXCEPTION_IN_EXPRESSION,[\"n\",8,\"#EXPRESSION#\"], e);\n",
    "--------\x7d\n",
    "--------this.__$write(tmp3_7);\n",
    "------\x7d catch (_ex) \x7b\n",
    "--------this.$logError(this.EXCEPTION_IN_MACRO,[\"bye\",this['fw:currentLineNumber']],_ex);\n",
    "------\x7d\n",
    "----\x7d,\n",
    " \x7d\n",
    "\x7d);\n"]

theorem compileTemplate_text_greeting :
    ∃ s, compileTemplate greeting (.text "app.Hi") (Session.fresh greetingConfig greetingDigits .collect) =
      .ok (some greetingText) s := by
  have run := compileTemplate_text greetingConfig greetingDigits .collect greeting (by decide) "app.Hi"
  have free : ¬ Hindered greetingConfig.indentUnit .collect greeting :=
    not_hindered (short_of_few (by decide)) id (by decide)
  have clean : (Grammar.walk greeting).any Report.isError = false := by decide
  have text : Layout.classText greetingConfig greetingDigits "app.Hi" greeting = greetingText := by decide +kernel
  cases ran : compileTemplate greeting (.text "app.Hi") (Session.fresh greetingConfig greetingDigits .collect) with
  | error fault s => exact absurd (run.of_error ran) free
  | ok result s =>
    obtain ⟨failed, answer⟩ := run.of_ok ran
    rw [if_neg (by rw [failed, clean]; exact Bool.false_ne_true), text] at answer
    exact ⟨s, by rw [answer]⟩

end TemplateCompiler.Compiler
