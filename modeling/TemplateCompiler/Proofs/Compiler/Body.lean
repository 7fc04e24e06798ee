import TemplateCompiler.Proofs.Compiler.Layout

namespace TemplateCompiler.Compiler

open Session Layout

variable {hindered : Prop} {s : Session} {i level : Nat}

theorem inner_literal (text : String) : Session.inner (Text.literal text) = escaped text := by
  simp only [Session.inner, Text.literal, String.toList_ofList, List.cons_append, List.drop_succ_cons, List.drop_zero,
    List.dropLast_concat, escaped]

theorem emits_emitGuarded (writes : Writes hindered s i level) (shallow : level < deepest) (code message : String)
    (c : Statement) :
    Emits hindered i (emitGuarded (.text code) (some c) (.text message)) s s.nextName
      (guardedLines level s.nextName (escaped code) message c) { names := 1 } := by
  have named : Emits hindered i takeName s s.nextName [] { names := 1 } := (goes_takeName s).emits (fun _ _ h => h) i
  have failure (s' : Session) (deep : Writes hindered s' i (level + 1)) :=
    emits_writeLine deep
      ["this.$logError(", message, ",[\"", escaped code, "\",", c.line.plain, ",", c.name.json, "], e);"]
  simp only [emitGuarded, Value.json, inner_literal]
  apply Emits.congr
  · apply Emits.bind named writes
    intro s₁ w₁ _
    apply Emits.bind (emits_emitLine w₁ _) w₁
    intro s₂ w₂ _
    apply Emits.bind (emits_emitLine w₂ _) w₂
    intro s₃ w₃ _
    apply Emits.bind (Emits.indented w₃ shallow fun _ deep _ => emits_emitLine deep _) w₃
    intro s₄ w₄ _
    apply Emits.bind (emits_emitLine w₄ _) w₄
    intro s₅ w₅ _
    apply Emits.bind (Emits.indented w₅ shallow fun s' deep _ => failure s' deep) w₅
    intro s₆ w₆ _
    apply Emits.bind (emits_emitLine w₆ _) w₆
    intro s₇ _ _
    exact emits_pure s₇ i _
  · simp [guardedLines, String.append_assoc]
  · rfl

variable {c : Statement}

theorem isReady_of_writes (writes : Writes hindered s i level) : isReady s = .ok true s :=
  isReady_of_ready (by rw [Buffer.isReady, writes.writing.active]; rfl)

theorem emits_reject (writes : Writes hindered s i level) (c : Statement) {id : String}
    (grave : (Grammar.complaint c id).isError = true) :
    Emits hindered i (reject c id) s () [] { reports := [Grammar.complaint c id] } :=
  (goes_reportError writes.steady (some c) _ grave).emits (fun _ _ still => ⟨rfl, still⟩) i

def shownLines (framework : String) (names : Names) (c : Statement) : List Line :=
  if Grammar.directive c.nameText = .text then
    if c.param.isTruthy then [⟨4, "this.__$write(" ++ c.param.json ++ ");"⟩] else []
  else childLines framework names c

def shownBody (framework : String) (names : Names) : List Statement → List Line
  | [] => []
  | c :: rest => shownLines framework names c ++ shownBody framework (names.skip (if takesName c then 1 else 0)) rest

theorem shownLines_of_text (given : Grammar.directive c.nameText = .text → c.param = .text c.paramText)
    (framework : String) (names : Names) : shownLines framework names c = childLines framework names c := by
  unfold shownLines childLines
  cases kind : Grammar.directive c.nameText with
  | text =>
    rw [if_pos rfl, given kind]
    by_cases empty : c.paramText = ""
    · simp [empty, Value.isTruthy]
    · simp [empty, Value.isTruthy, Value.json]
  | _ => rfl

theorem emits_compileText (writes : Writes hindered s i 4) :
    Emits hindered i (compileText c) s ()
      (if c.param.isTruthy then [⟨4, "this.__$write(" ++ c.param.json ++ ");"⟩] else []) {} := by
  apply emits_of_look (isReady_of_writes writes)
  rw [if_pos rfl]
  cases c.param.isTruthy with
  | false => exact emits_pure s i ()
  | true =>
    apply Emits.congr (emits_emitLine writes _)
    · simp [String.append_assoc]
    · rfl

theorem emits_emitLineNumber (writes : Writes hindered s i level)
    (unreadable : ∀ fault, c.line.toInt = .error fault → hindered) :
    Emits hindered i (emitLineNumber c.line) s ()
      [⟨level, "this['" ++ s.config.framework ++ "currentLineNumber'] = " ++ integerText (lineNumber c) ++ ";"⟩]
      {} := by
  apply emits_of_look (isReady_of_writes writes)
  rw [if_pos rfl]
  cases read : c.line.toInt with
  | error fault => exact emits_of_fault (Act.bind_of_error (Act.ofExcept_error fault s) _) (unreadable fault read)
  | ok n =>
    apply emits_of_look (Act.ofExcept_ok n s)
    apply emits_of_look (Act.get_apply s)
    refine (emits_emitLine writes _).congr ?_ rfl
    simp [lineNumber, read, Except.toOption, String.append_assoc]

theorem emits_compileExpression (writes : Writes hindered s i 4) (given : c.param = .text c.paramText)
    (unreadable : ∀ fault, c.line.toInt = .error fault → hindered) (present : c.title ≠ "") :
    Emits hindered i (compileExpression c) s () (expressionLines s.config.framework s.nextName c) { names := 1 } := by
  apply emits_of_look (isReady_of_writes writes)
  rw [if_pos rfl, given]
  apply emits_of_look (Act.ofExcept_ok c.paramText s)
  have filled : ¬ Text.trim c.paramText = "" := present
  rw [if_neg filled]
  apply Emits.congr
  · apply Emits.bind (emits_emitLineNumber writes unreadable) writes
    intro s₁ w₁ moved
    have next : s₁.nextName = s.nextName := by
      rw [nextName, moved.names]
      rfl
    have guarded := emits_emitGuarded w₁ (by decide) c.paramText ("this." ++ Report.exceptionInExpression) c
    rw [next] at guarded
    apply Emits.bind guarded w₁
    intro s₂ w₂ _
    exact emits_emitLine w₂ _
  · have message : "this." ++ Report.exceptionInExpression = "this.EXCEPTION_IN_EXPRESSION" := by decide
    simp [expressionLines, message, integerText_eq, String.append_assoc]
  · rfl

theorem emits_compileExpression_blank (writes : Writes hindered s i level) (given : c.param = .text c.paramText)
    (blank : c.title = "") :
    Emits hindered i (compileExpression c) s () [] { reports := [Grammar.complaint c Report.missingParameter] } := by
  apply emits_of_look (isReady_of_writes writes)
  rw [if_pos rfl]
  apply emits_of_look (show Act.ofExcept (textFor "strip" c.param) s = .ok c.paramText s by rw [given]; rfl)
  have empty : Text.trim c.paramText = "" := blank
  rw [if_pos empty]
  exact emits_reject writes c rfl

theorem emits_compileMacro_inside (writes : Writes hindered s i level) (c : Statement) (body : Session.Act Unit) :
    Emits hindered i (compileMacro c body) s () []
      { reports := [Grammar.complaint c Report.statementNotAllowed] } := by
  apply emits_of_look (isReady_of_writes writes)
  rw [if_pos rfl]
  exact emits_reject writes c rfl

theorem goes_compileDependency (steady : Steady hindered s) (given : c.param = .text c.paramText) :
    Goes hindered (compileDependency c) s
      { references := referencesOf c.paramText, reports := Grammar.dependencyReports c } fun _ => Still s := by
  unfold compileDependency
  rw [given]
  apply goes_of_look (Act.ofExcept_ok c.paramText s)
  cases refs : referencesOf c.paramText with
  | nil =>
    rw [if_pos (by rfl), Grammar.dependencyReports, if_pos (Grammar.referencesOf_eq_nil.mp refs)]
    exact goes_reportError steady (some c) _ rfl
  | cons ref rest =>
    have named : ¬ Grammar.namesNothing c.paramText := by simp [← Grammar.referencesOf_eq_nil, refs]
    rw [if_neg (by simp), Grammar.dependencyReports, if_neg named]
    exact goes_addReferences s (ref :: rest)

theorem compile_of_ok {kind : Directive} :
    directive? c.name = .ok kind → compile c = match kind with
      | .text => compileText c
      | .expression => compileExpression c
      | .macroDefinition => compileMacro c (compileAll c.content)
      | .dependency => compileDependency c
      | .unknown => reportWarning (some c) Report.unknownStatement (.list [c.name]) := by
  obtain ⟨name, line, param, content, properties⟩ := c
  intro found
  rw [compile, found]
  rfl

theorem compile_of_error {fault : Fault} (unknown : directive? c.name = .error fault) :
    compile c s = .error fault s := by
  obtain ⟨name, line, param, content, properties⟩ := c
  have unknown : directive? name = .error fault := unknown
  rw [compile, unknown]
  rfl

theorem param_cases (c : Statement) : c.param.text? = none ∨ c.param = .text c.paramText := by
  cases given : c.param.text? with
  | none => exact .inl rfl
  | some text => exact .inr (Value.eq_text (by rw [given]; rfl))

theorem textFor_of_other {v : Value} (other : v.text? = none) (operation : String) :
    textFor operation v = .error (.noAttribute v.kind operation) := by
  cases v with
  | text _ => cases other
  | _ => rfl

theorem compileDependency_of_other (other : c.param.text? = none) (s : Session) :
    compileDependency c s = .error (.noAttribute c.param.kind "split") s := by
  rw [compileDependency, textFor_of_other other]
  rfl

/-- What a place in a macro cannot be compiled for: nothing is there, a name is not looked up, a parameter is no text
    though one is needed, or the line of an expression is no number. -/
inductive Bars : Option Statement → Prop where
  | empty : Bars none
  | name {c : Statement} {fault : Fault} (unknown : directive? c.name = .error fault) : Bars (some c)
  | param {c : Statement} (other : c.param.text? = none)
    (kind : Grammar.directive c.nameText = .expression ∨ Grammar.directive c.nameText = .dependency) : Bars (some c)
  | line {c : Statement} {fault : Fault} (takes : takesName c) (unreadable : c.line.toInt = .error fault) :
    Bars (some c)

def childTally (s : Statement) : Tally where
  names := if takesName s then 1 else 0
  references := referencesIn s
  reports := Grammar.childReports s

def bodyTally (body : List Statement) : Tally where
  names := body.countP takesName
  references := body.flatMap referencesIn
  reports := body.flatMap Grammar.childReports

theorem bodyTally_cons (c : Statement) (rest : List Statement) :
    bodyTally (c :: rest) = childTally c ++ bodyTally rest := by
  change bodyTally (c :: rest) = (childTally c).append (bodyTally rest)
  simp [bodyTally, childTally, Tally.append, List.countP_cons, Nat.add_comm]

theorem emits_compile_child (writes : Writes hindered s i 4) (bars : Bars (some c) → hindered) :
    Emits hindered i (compile c) s () (shownLines s.config.framework s.names c) (childTally c) := by
  cases found : directive? c.name with
  | error fault => exact emits_of_fault (compile_of_error found) (bars (.name found))
  | ok what =>
    have kind := Statement.directive_of_ok found
    rw [compile_of_ok found, shownLines, kind]
    cases what with
    | text =>
      apply Emits.congr (emits_compileText writes)
      · rfl
      · simp [childTally, takesName, referencesIn, Grammar.childReports, kind]
    | expression =>
      rcases param_cases c with other | given
      · have failed : compileExpression c s = .error (.noAttribute c.param.kind "strip") s := by
          rw [compileExpression, Act.bind_of_ok (isReady_of_writes writes), if_pos rfl, textFor_of_other other]
          rfl
        exact emits_of_fault failed (bars (.param other (.inl kind)))
      by_cases blank : c.title = ""
      · apply Emits.congr (emits_compileExpression_blank writes given blank)
        · simp [childLines, kind, blank]
        · simp [childTally, takesName, referencesIn, Grammar.childReports, kind, blank, Report.missingParameter]
      · have takes : takesName c = true := by simp [takesName, kind, blank]
        have readable (fault : Fault) (unreadable : c.line.toInt = .error fault) := bars (.line takes unreadable)
        apply Emits.congr (emits_compileExpression writes given readable blank)
        · simp [childLines, kind, blank, nextName, variableName_eq]
        · simp [childTally, takesName, referencesIn, Grammar.childReports, kind, blank]
    | macroDefinition =>
      apply Emits.congr (emits_compileMacro_inside writes c _)
      · simp [childLines, kind]
      · simp [childTally, takesName, referencesIn, Grammar.childReports, kind, Report.statementNotAllowed]
    | dependency =>
      rcases param_cases c with other | given
      · have failed := compileDependency_of_other other s
        exact emits_of_fault failed (bars (.param other (.inr kind)))
      have goes := goes_compileDependency writes.steady given
      apply Emits.congr (goes.emits (fun _ _ still => ⟨rfl, still⟩) i)
      · simp [childLines, kind]
      · simp [childTally, takesName, referencesIn, Grammar.childReports, kind]
    | unknown =>
      have warned := goes_reportWarning writes.steady (some c) (.list [c.name])
        (show (Grammar.complaint c Report.unknownStatement).isError = false from rfl)
      apply Emits.congr (warned.emits (fun _ _ still => ⟨rfl, still⟩) i)
      · simp [childLines, kind]
      · simp [childTally, takesName, referencesIn, Grammar.childReports, kind, Grammar.complaint,
          Report.unknownStatement]

theorem emits_compileAll (writes : Writes hindered s i 4) (places : List (Option Statement))
    (bars : ∀ place ∈ places, Bars place → hindered) :
    Emits hindered i (compileAll places) s () (shownBody s.config.framework s.names (places.filterMap id))
      (bodyTally (places.filterMap id)) := by
  induction places generalizing s with
  | nil => exact emits_pure s i ()
  | cons place rest ih =>
    cases place with
    | none =>
      have failed : compileAll (none :: rest) s = .error (.noAttribute .null "name") s := rfl
      exact emits_of_fault failed (bars none List.mem_cons_self .empty)
    | some c =>
      apply Emits.congr
      · apply Emits.bind (emits_compile_child writes (bars (some c) List.mem_cons_self)) writes
        intro s' writes' moved
        have others := ih writes' fun place member => bars place (List.mem_cons_of_mem (some c) member)
        -- the rest takes its names after those that `c` took
        rw [moved.config, moved.names] at others
        exact others
      · rfl
      · exact (bodyTally_cons c _).symm

def macroGuard (name : String) (body : Session.Act Unit) : Session.Act Unit := do
  emitLine ["try \x7b"]
  indented body
  emitLine ["\x7d catch (_ex) \x7b"]
  indented do
    emitLine ["this.$logError(this.EXCEPTION_IN_MACRO,[" ++ Text.literal name ++ ",this['"
      ++ (← get).config.framework ++ "currentLineNumber']],_ex);"]
  emitLine ["\x7d"]

def macroFrame (name : String) (body : Session.Act Unit) : Session.Act Unit := do
  emitLine [blockOf name ++ " : function () \x7b"]
  indented (macroGuard name body)
  emitLine ["\x7d,"]

theorem macroBlock_eq (name : String) (body : Session.Act Unit) :
    macroBlock name body = (do
      startBlock (blockOf name) (.count 2)
      within (blockOf name) (macroFrame name body)) := rfl

theorem emits_macroGuard (writes : Writes hindered s i 3) (name : String) {body : Session.Act Unit}
    {lines : List Line} {t : Tally}
    (inside : ∀ s', Writes hindered s' i 4 → Moved s s' {} → Emits hindered i body s' () lines t) :
    Emits hindered i (macroGuard name body) s () (guardLines s.config.framework name lines) t := by
  have handler (s' : Session) (w : Writes hindered s' i 4) (same : s'.config = s.config) :
      Emits hindered i (do
        emitLine ["this.$logError(this.EXCEPTION_IN_MACRO,[" ++ Text.literal name ++ ",this['"
          ++ (← get).config.framework ++ "currentLineNumber']],_ex);"]) s' ()
        [handlerLine s.config.framework name] {} := by
    apply emits_of_look (Act.get_apply s')
    refine (emits_emitLine w _).congr ?_ rfl
    simp [handlerLine, same]
  apply Emits.congr
  · apply Emits.bind (emits_emitLine writes _) writes
    intro s₁ w₁ m₁
    apply Emits.bind (Emits.indented w₁ (by decide) fun s' w m => inside s' w (m₁.trans m)) w₁
    intro s₂ w₂ m₂
    apply Emits.bind (emits_emitLine w₂ _) w₂
    intro s₃ w₃ m₃
    have same : s₃.config = s.config := by rw [m₃.config, m₂.config, m₁.config]
    apply Emits.bind (Emits.indented w₃ (by decide) fun s' w m => handler s' w (m.config.trans same)) w₃
    intro s₄ w₄ _
    exact emits_emitLine w₄ _
  · simp [guardLines]
  · rw [Tally.empty_append]
    exact Tally.append_empty t

theorem emits_macroFrame (writes : Writes hindered s i 2) (name : String) {body : Session.Act Unit}
    {lines : List Line} {t : Tally}
    (inside : ∀ s', Writes hindered s' i 4 → Moved s s' {} → Emits hindered i body s' () lines t) :
    Emits hindered i (macroFrame name body) s () (macroLines s.config.framework name lines) t := by
  have guarded (s' : Session) (w : Writes hindered s' i 3) (m : Moved s s' {}) :
      Emits hindered i (macroGuard name body) s' () (guardLines s.config.framework name lines) t := by
    rw [← m.config]
    exact emits_macroGuard w name fun s'' w' m' => inside s'' w' (m.trans m')
  apply Emits.congr
  · apply Emits.bind (emits_emitLine writes _) writes
    intro s₁ w₁ m₁
    apply Emits.bind (Emits.indented w₁ (by decide) fun s' w m => guarded s' w (m₁.trans m)) w₁
    intro s₂ w₂ _
    exact emits_emitLine w₂ _
  · simp [macroLines, blockOf]
  · rw [Tally.empty_append]
    exact Tally.append_empty t

end TemplateCompiler.Compiler
