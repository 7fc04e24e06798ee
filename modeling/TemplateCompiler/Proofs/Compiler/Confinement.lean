import TemplateCompiler.Proofs.Compiler.Success
import TemplateCompiler.Proofs.Number.Notation
import TemplateCompiler.Proofs.Text.Outline

namespace TemplateCompiler

open Layout Text

structure Config.IsBare (config : Config) : Prop where
  unit : ∀ u ∈ config.indentUnit, Bare u
  stem : Bare config.nameStem
  framework : Bare config.framework
  keyword : Bare config.dependenciesKeyword

namespace Statement

/-- The name and the line of two statements are the same, as is the title of a macro and whether a text is empty. -/
structure SameNode (c d : Statement) : Prop where
  name : c.name = d.name
  line : ∃ n, c.line = .int n ∧ d.line = .int n
  title : Grammar.directive c.nameText = .macroDefinition → c.title = d.title
  empty : Grammar.directive c.nameText = .text → (c.paramText = "" ↔ d.paramText = "")

/-- So it is for the statements directly inside them. What is further inside is never looked at. -/
structure SameShape (c d : Statement) : Prop where
  node : SameNode c d
  children : List.Forall₂ SameNode c.children d.children

theorem SameNode.nameText {c d : Statement} (same : SameNode c d) : d.nameText = c.nameText := by
  rw [Statement.nameText, ← same.name]
  rfl

end Statement

namespace Text

theorem bare_of_isDigit {c : Char} (digit : c.isDigit = true) : IsBare c := by
  have bounds : '0' ≤ c ∧ c ≤ '9' := by simpa [Char.isDigit, Char.le_def] using digit
  refine ⟨⟨Char.le_trans (by decide) bounds.1, Char.le_trans bounds.2 (by decide)⟩, ?_, ?_⟩
  · rintro rfl
    cases digit
  · rintro rfl
    cases digit

theorem bare_naturalText (n : Nat) : Bare (naturalText n) := fun _ member =>
  bare_of_isDigit (isDigit_of_mem_naturalText member)

theorem bare_integerText (n : Int) : Bare (integerText n) := by
  intro c member
  rcases mem_integerText member with rfl | digit
  · decide
  · exact bare_of_isDigit digit

theorem bare_name {names : Names} (stem : Bare names.stem) (k : Nat) : Bare (names.name k) :=
  ((stem.append (bare_naturalText k)).append (by decide)).append (bare_integerText _)

theorem inert_escaped (text : String) : Inert (escaped text).toList := by
  rw [escaped, String.toList_ofList]
  exact inert_literalBody text.toList

theorem inert_wrapped {front back : String} (bare : Bare front) (bare' : Bare back) (text : String) :
    Inert (front ++ escaped text ++ back).toList := by
  rw [String.toList_append, String.toList_append]
  exact ((inert_of_bare bare).append (inert_escaped text)).append (inert_of_bare bare')

end Text

/-- Lines on one level that differ at most inside their literals. -/
structure Line.Alike (line line' : Line) : Prop where
  level : line.level = line'.level
  text : Text.Alike line.text line'.text

theorem Line.alike_code (level : Nat) {text : String} (code : '"' ∉ text.toList) :
    Line.Alike ⟨level, text⟩ ⟨level, text⟩ := ⟨rfl, Text.alike_code code⟩

variable {unit : Option String}

theorem code_margin (code : ∀ u ∈ unit, '"' ∉ u.toList) (level : Nat) : '"' ∉ (margin unit level).toList := by
  have unquoted : '"' ∉ (unit.getD "").toList := by
    cases unit with
    | none => simp
    | some u => exact code u rfl
  rw [margin, String.toList_join]
  intro member
  obtain ⟨part, repeated, inside⟩ := List.mem_flatMap.mp member
  rw [List.eq_of_mem_replicate repeated] at inside
  exact unquoted inside

theorem alike_render (code : ∀ u ∈ unit, '"' ∉ u.toList) {line line' : Line} (alike : Line.Alike line line') :
    Text.Alike (line.render unit) (line'.render unit) := by
  have start := Text.alike_code (code_margin code line'.level)
  rw [Line.render, Line.render, alike.level]
  exact (start.append alike.text).append (Text.alike_code (by decide))

theorem alike_rendered (code : ∀ u ∈ unit, '"' ∉ u.toList) {lines lines' : List Line}
    (alike : List.Forall₂ Line.Alike lines lines') : Text.Alike (rendered unit lines) (rendered unit lines') := by
  induction alike with
  | nil => exact Text.alike_code (by simp [rendered])
  | cons first _ ih =>
    rw [rendered_cons, rendered_cons]
    exact (alike_render code first).append ih

namespace Compiler

open Statement (SameNode SameShape)

variable {c d : Statement} {framework : String}

theorem alike_written {front back : String} (code : '"' ∉ front.toList) (code' : '"' ∉ back.toList) (s t : String) :
    Text.Alike (front ++ literal s ++ back) (front ++ literal t ++ back) :=
  ((alike_code code).append (alike_literal s t)).append (alike_code code')

theorem alike_evaluation {name : String} (bare : Bare name) (code code' : String) :
    Text.Alike ("eval( \"" ++ name ++ "=(" ++ escaped code ++ ")\" );")
      ("eval( \"" ++ name ++ "=(" ++ escaped code' ++ ")\" );") := by
  have parts (body : String) : "eval( \"" ++ name ++ "=(" ++ escaped body ++ ")\" );" =
      "eval( " ++ ("\"" ++ (name ++ "=(" ++ escaped body ++ ")") ++ "\"") ++ " );" := by
    apply String.toList_injective
    simp
  have inert (body : String) := inert_wrapped (bare.append (by decide : Bare "=(")) (by decide : Bare ")") body
  rw [parts, parts]
  exact ((alike_code (by decide)).append (alike_literals (inert code) (inert code'))).append (alike_code (by decide))

theorem alike_failure {message line : String} (bare : '"' ∉ message.toList) (bare' : '"' ∉ line.toList)
    (name code code' : String) :
    Text.Alike
      ("this.$logError(" ++ message ++ ",[\"" ++ escaped code ++ "\"," ++ line ++ "," ++ literal name ++ "], e);")
      ("this.$logError(" ++ message ++ ",[\"" ++ escaped code' ++ "\"," ++ line ++ "," ++ literal name ++
        "], e);") := by
  have parts (body : String) :
      "this.$logError(" ++ message ++ ",[\"" ++ escaped body ++ "\"," ++ line ++ "," ++ literal name ++ "], e);" =
        "this.$logError(" ++ message ++ ",[" ++ ("\"" ++ escaped body ++ "\"") ++ "," ++ line ++ "," ++ literal name ++
          "], e);" := by
    apply String.toList_injective
    simp
  have opened : Text.Alike ("this.$logError(" ++ message ++ ",[") ("this.$logError(" ++ message ++ ",[") := by
    exact ((alike_code (by decide)).append (alike_code bare)).append (alike_code (by decide))
  have named : Text.Alike ("," ++ literal name ++ "], e);") ("," ++ literal name ++ "], e);") :=
    alike_written (by decide) (by decide) name name
  have expression := alike_literals (inert_escaped code) (inert_escaped code')
  rw [parts, parts]
  simpa [String.append_assoc] using
    (((opened.append expression).append (alike_code (by decide : '"' ∉ ",".toList))).append (alike_code bare')).append
      named

theorem alike_guardedLines {name message : String} (bare : Bare name) (code : '"' ∉ message.toList) (level : Nat)
    (same : SameNode c d) (kind : Grammar.directive c.nameText = .expression) (expr expr' : String) :
    List.Forall₂ Line.Alike (guardedLines level name (escaped expr) message c)
      (guardedLines level name (escaped expr') message d) := by
  obtain ⟨n, line, line'⟩ := same.line
  have named : c.name.json = literal c.nameText := by
    rw [Statement.name_of_directive (by simp [kind])]
    rfl
  have number : (Value.int n).plain = integerText n := rfl
  have variableLine : '"' ∉ ("var " ++ name ++ " = null;").toList := by
    simpa using bare.code
  rw [guardedLines, guardedLines, ← same.name, line, line', named, number]
  exact .cons (Line.alike_code level variableLine) <| .cons (Line.alike_code level (by decide)) <|
    .cons ⟨rfl, alike_evaluation bare expr expr'⟩ <| .cons (Line.alike_code level (by decide)) <|
    .cons ⟨rfl, alike_failure code (bare_integerText n).code c.nameText expr expr'⟩ <|
    .cons (Line.alike_code level (by decide)) .nil

theorem alike_expressionLines {name : String} (bare : Bare framework) (bare' : Bare name) (same : SameNode c d)
    (kind : Grammar.directive c.nameText = .expression) :
    List.Forall₂ Line.Alike (expressionLines framework name c) (expressionLines framework name d) := by
  obtain ⟨n, line, line'⟩ := same.line
  have number : lineNumber d = lineNumber c := by rw [lineNumber, lineNumber, line, line']
  have trackLine :
      '"' ∉ ("this['" ++ framework ++ "currentLineNumber'] = " ++ integerText (lineNumber c) ++ ";").toList := by
    have written := (bare_integerText (lineNumber c)).code
    simpa using ⟨bare.code, written⟩
  have writeLine : '"' ∉ ("this.__$write(" ++ name ++ ");").toList := by
    simpa using bare'.code
  rw [expressionLines, expressionLines, number]
  refine List.rel_append (List.rel_append ?_ ?_) ?_
  · exact .cons (Line.alike_code 4 trackLine) .nil
  · exact alike_guardedLines bare' (by decide) 4 same kind c.paramText d.paramText
  · exact .cons (Line.alike_code 4 writeLine) .nil

def Filled (c : Statement) : Prop := Grammar.directive c.nameText = .expression → c.title ≠ ""

theorem takesName_eq (same : SameNode c d) (filled : Filled c) (filled' : Filled d) : takesName c = takesName d := by
  have name := same.nameText
  rw [takesName, takesName, name]
  by_cases expression : Grammar.directive c.nameText = .expression
  · have present := filled expression
    have present' := filled' (by rw [name, expression])
    simp [present, present']
  · simp [expression]

theorem alike_childLines {names : Names} (bare : Bare framework) (stem : Bare names.stem) (same : SameNode c d)
    (filled : Filled c) (filled' : Filled d) :
    List.Forall₂ Line.Alike (childLines framework names c) (childLines framework names d) := by
  have name := same.nameText
  unfold childLines
  rw [name]
  cases kind : Grammar.directive c.nameText with
  | text =>
    have empty := same.empty kind
    by_cases none : c.paramText = ""
    · simp only [if_pos none, if_pos (empty.mp none)]
      exact .nil
    · simp only [if_neg none, if_neg (mt empty.mpr none)]
      exact .cons ⟨rfl, alike_written (by decide) (by decide) _ _⟩ .nil
  | expression =>
    have present := filled kind
    have present' := filled' (by rw [name, kind])
    simp only [if_neg present, if_neg present']
    exact alike_expressionLines bare (bare_name stem _) same kind
  | macroDefinition => exact .nil
  | dependency => exact .nil
  | unknown => exact .nil

theorem alike_bodyLines {names : Names} {body body' : List Statement} (bare : Bare framework) (stem : Bare names.stem)
    (same : List.Forall₂ SameNode body body') (filled : ∀ c ∈ body, Filled c) (filled' : ∀ c ∈ body', Filled c) :
    List.Forall₂ Line.Alike (bodyLines framework names body) (bodyLines framework names body') ∧
      body.countP takesName = body'.countP takesName := by
  induction same generalizing names with
  | nil => exact ⟨.nil, rfl⟩
  | cons first _ ih =>
    rename_i c d rest rest' _
    have here : c ∈ c :: rest := List.mem_cons_self
    have here' : d ∈ d :: rest' := List.mem_cons_self
    have takes := takesName_eq first (filled c here) (filled' d here')
    have later (n : Nat) := @ih (names.skip n) stem
      (fun e member => filled e (List.mem_cons_of_mem c member))
      fun e member => filled' e (List.mem_cons_of_mem d member)
    refine ⟨?_, ?_⟩
    · rw [bodyLines, bodyLines, ← takes]
      exact List.rel_append (alike_childLines bare stem first (filled c here) (filled' d here'))
        (later _).1
    · rw [List.countP_cons, List.countP_cons, (later 0).2, takes]

theorem alike_macroLines {title : String} (bare : Bare framework) (code : '"' ∉ title.toList) {body body' : List Line}
    (alike : List.Forall₂ Line.Alike body body') :
    List.Forall₂ Line.Alike (macroLines framework title body) (macroLines framework title body') := by
  have header : '"' ∉ ("macro_" ++ title ++ " : function () \x7b").toList := by
    simpa using code
  have handler : Line.Alike (handlerLine framework title) (handlerLine framework title) := by
    have closing : '"' ∉ (",this['" ++ framework ++ "currentLineNumber']],_ex);").toList := by
      simpa using bare.code
    refine ⟨rfl, ?_⟩
    have opening : '"' ∉ "this.$logError(this.EXCEPTION_IN_MACRO,[".toList := by decide
    have written := alike_written opening closing title title
    simpa [handlerLine, String.append_assoc] using written
  refine List.rel_append (List.rel_append ?_ (List.rel_append (List.rel_append ?_ alike) ?_)) ?_
  · exact .cons (Line.alike_code 2 header) .nil
  · exact .cons (Line.alike_code 3 (by decide)) .nil
  · exact .cons (Line.alike_code 3 (by decide)) <| .cons handler <| .cons (Line.alike_code 3 (by decide)) .nil
  · exact .cons (Line.alike_code 2 (by decide)) .nil

/-- Macros are titled without quotes, and expressions directly in them are not blank. -/
structure Sound (statements : List Statement) : Prop where
  titles : ∀ c ∈ statements, Grammar.directive c.nameText = .macroDefinition → '"' ∉ c.title.toList
  filled : ∀ c ∈ statements, Grammar.directive c.nameText = .macroDefinition → ∀ d ∈ c.children, Filled d

theorem Sound.tail {rest : List Statement} (sound : Sound (c :: rest)) : Sound rest :=
  ⟨fun d member => sound.titles d (List.mem_cons_of_mem c member),
    fun d member => sound.filled d (List.mem_cons_of_mem c member)⟩

theorem alike_prototypeLines {names : Names} {statements statements' : List Statement} (bare : Bare framework)
    (stem : Bare names.stem) (shape : List.Forall₂ SameShape statements statements')
    (sound : Sound statements) (sound' : Sound statements') :
    List.Forall₂ Line.Alike (prototypeLines framework names statements)
      (prototypeLines framework names statements') := by
  induction shape generalizing names with
  | nil => exact .nil
  | cons first _ ih =>
    rename_i c d rest rest' _
    have later (n : Nat) := @ih (names.skip n) stem sound.tail sound'.tail
    have name := first.node.nameText
    rw [prototypeLines, prototypeLines, name]
    by_cases kind : Grammar.directive c.nameText = .macroDefinition
    · have kind' : Grammar.directive d.nameText = .macroDefinition := by rw [name, kind]
      obtain ⟨body, count⟩ := alike_bodyLines bare stem first.children (sound.filled c List.mem_cons_self kind)
        (sound'.filled d List.mem_cons_self kind')
      rw [if_pos kind, if_pos kind, ← count, ← first.node.title kind]
      exact List.rel_append (alike_macroLines bare (sound.titles c List.mem_cons_self kind) body) (later _)
    · rw [if_neg kind, if_neg kind]
      exact later 0

theorem alike_listing {refs refs' : List String} (same : refs.length = refs'.length) :
    Text.Alike (String.intercalate "," (refs.map literal)) (String.intercalate "," (refs'.map literal)) := by
  induction refs generalizing refs' with
  | nil =>
    rw [List.eq_nil_of_length_eq_zero same.symm]
    exact alike_code (by simp)
  | cons ref rest ih =>
    obtain ⟨ref', rest', rfl⟩ := List.exists_cons_of_length_eq_add_one same.symm
    have others : rest.length = rest'.length := Nat.succ.inj same
    by_cases last : rest = []
    · have last' : rest' = [] := List.eq_nil_of_length_eq_zero (by rw [← others, last]; rfl)
      subst last last'
      simpa using alike_literal ref ref'
    · have more' : rest' ≠ [] := by
        rintro rfl
        exact last (List.eq_nil_of_length_eq_zero others)
      rw [List.map_cons, List.map_cons, String.intercalate_cons_of_ne_nil (by simpa using last),
        String.intercalate_cons_of_ne_nil (by simpa using more')]
      exact ((alike_literal ref ref').append (alike_code (by decide))).append (ih others)

theorem alike_declarationLines {keyword : String} (bare : Bare keyword) {refs refs' : List String}
    (same : refs.length = refs'.length) :
    List.Forall₂ Line.Alike (declarationLines keyword refs) (declarationLines keyword refs') := by
  have empty : refs = [] ↔ refs' = [] := by
    rw [← List.length_eq_zero_iff, ← List.length_eq_zero_iff, same]
  rw [declarationLines, declarationLines]
  by_cases none : refs = []
  · rw [if_pos none, if_pos (empty.mp none)]
    exact .nil
  · have opening : '"' ∉ (" " ++ keyword ++ ": [").toList := by simpa using bare.code
    rw [if_neg none, if_neg (mt empty.mpr none)]
    exact .cons ⟨rfl, ((alike_code opening).append (alike_listing same)).append (alike_code (by decide))⟩ .nil

theorem alike_classLines {keyword : String} (bare : Bare keyword) (classpath classpath' : String)
    {refs refs' : List String} (same : refs.length = refs'.length) {prototype prototype' : List Line}
    (alike : List.Forall₂ Line.Alike prototype prototype') :
    List.Forall₂ Line.Alike (Layout.classLines keyword classpath refs prototype)
      (Layout.classLines keyword classpath' refs' prototype') := by
  refine List.rel_append (List.rel_append (List.rel_append (List.rel_append ?_ ?_) ?_) alike) ?_
  · exact .cons (Line.alike_code 0 (by decide)) <| .cons ⟨rfl, alike_written (by decide) (by decide) _ _⟩ .nil
  · exact alike_declarationLines bare same
  · exact .cons (Line.alike_code 0 (by decide)) .nil
  · exact .cons (Line.alike_code 0 (by decide)) <| .cons (Line.alike_code 0 (by decide)) .nil

theorem alike_classText {config : Config} (bare : config.IsBare) (digits : Digits) (classpath classpath' : String)
    {statements statements' : List Statement} (shape : List.Forall₂ SameShape statements statements')
    (sound : Sound statements) (sound' : Sound statements')
    (same : (templateReferences statements).eraseDups.length = (templateReferences statements').eraseDups.length) :
    Text.Alike (Layout.classText config digits classpath statements)
      (Layout.classText config digits classpath' statements') := by
  have code : ∀ u ∈ config.indentUnit, '"' ∉ u.toList := fun u given => (bare.unit u given).code
  apply alike_rendered code
  apply alike_classLines bare.keyword classpath classpath' same
  exact alike_prototypeLines bare.framework bare.stem shape sound sound'

theorem titles_of_shape {statements statements' : List Statement}
    (shape : List.Forall₂ SameShape statements statements')
    (titles : ∀ c ∈ statements, Grammar.directive c.nameText = .macroDefinition → '"' ∉ c.title.toList) :
    ∀ c ∈ statements', Grammar.directive c.nameText = .macroDefinition → '"' ∉ c.title.toList := by
  induction shape with
  | nil => exact titles
  | cons first _ ih =>
    rename_i c d rest rest' _
    intro e member kind
    rcases List.mem_cons.mp member with rfl | member
    · have kind' : Grammar.directive c.nameText = .macroDefinition := by rw [← first.node.nameText, kind]
      rw [← first.node.title kind']
      exact titles c List.mem_cons_self kind'
    · exact ih (fun f inside => titles f (List.mem_cons_of_mem c inside)) e member kind

/-- Two templates of one shape with as many references, both compiled without errors, give classes with one outline, in
    which literals hold nothing but printable ASCII. -/
theorem compileTemplate_confined {config : Config} (bare : config.IsBare) {digits : Digits} {sink sink' : Sink}
    {statements statements' : List Statement} (admissible : ∀ c ∈ statements, c.isAdmissible)
    (admissible' : ∀ c ∈ statements', c.isAdmissible) (shape : List.Forall₂ SameShape statements statements')
    (titles : ∀ c ∈ statements, Grammar.directive c.nameText = .macroDefinition → '"' ∉ c.title.toList)
    {classpath classpath' text text' : String} {s s' : Session}
    (ran : compileTemplate statements (.text classpath) (Session.fresh config digits sink) = .ok (some text) s)
    (ran' : compileTemplate statements' (.text classpath') (Session.fresh config digits sink') = .ok (some text') s')
    (sizes : s.references.size = s'.references.size) :
    Mode.code.outline text.toList = Mode.code.outline text'.toList ∧
      ∀ t ∈ [text, text'], Mode.code.after t.toList = .code ∧ '\n' ∉ Mode.code.interior t.toList ∧
        ∀ c ∈ Mode.code.interior t.toList, ' ' ≤ c ∧ c ≤ '~' := by
  have success := success_of_run admissible ran
  have success' := success_of_run admissible' ran'
  -- a blank expression would have been an error
  have sound : Sound statements :=
    ⟨titles, fun _ member kind _ child => present_of_clean success.clean member kind child⟩
  have sound' : Sound statements' :=
    ⟨titles_of_shape shape titles, fun _ member kind _ child => present_of_clean success'.clean member kind child⟩
  have same : (templateReferences statements).eraseDups.length = (templateReferences statements').eraseDups.length := by
    rw [← success.references, ← success'.references]
    exact sizes
  have alike := alike_classText bare digits classpath classpath' shape sound sound' same
  rw [← success.text, ← success'.text] at alike
  have tidy {t : String} (tidy : Tidy t) : Mode.code.after t.toList = .code ∧
      '\n' ∉ Mode.code.interior t.toList ∧ ∀ c ∈ Mode.code.interior t.toList, ' ' ≤ c ∧ c ≤ '~' :=
    ⟨tidy.after, fun member => absurd (tidy.plain '\n' member) (by decide), tidy.plain⟩
  refine ⟨alike.outline, ?_⟩
  intro t member
  simp only [List.mem_cons, List.not_mem_nil, or_false] at member
  rcases member with rfl | rfl
  · exact tidy alike.left
  · exact tidy alike.right

def notice (ref text code : String) : List Statement :=
  [⟨.text "dependency", .int 1, .text ref, [], []⟩,
    ⟨.text "macro", .int 2, .text "main", [some ⟨.text "#TEXT#", .int 3, .text text, [], []⟩,
      some ⟨.text "#EXPRESSION#", .int 4, .text code, [], []⟩], []⟩,
    ⟨.null, .int 6, .int 7, [none], []⟩]

theorem compileTemplate_confined_notice :
    ∃ text text' s s',
      compileTemplate (notice "a.B" "Hi" "x") (.text "app.A") (Session.fresh {} (fun _ => 3) .collect) =
        .ok (some text) s ∧
      compileTemplate (notice "a\"" "\");stop(\"" "x\n\\") (.text "é\\\"") (Session.fresh {} (fun _ => 3) .collect) =
        .ok (some text') s' ∧
      Mode.code.outline text.toList = Mode.code.outline text'.toList := by
  have free (ref text code : String) : ¬ Hindered ({} : Config).indentUnit .collect (notice ref text code) :=
    not_hindered short_default id (by simp [notice, Statement.children, Value.toInt, Except.toBool])
  have bare : Config.IsBare {} :=
    ⟨by intro u given; cases given; decide, by decide, by decide, by decide⟩
  have shape : List.Forall₂ SameShape (notice "a.B" "Hi" "x") (notice "a\"" "\");stop(\"" "x\n\\") := by
    refine .cons ⟨⟨rfl, ⟨1, rfl, rfl⟩, by decide, by decide⟩, .nil⟩ ?_
    refine .cons ⟨⟨rfl, ⟨2, rfl, rfl⟩, fun _ => rfl, by decide⟩, ?_⟩ ?_
    · exact .cons ⟨rfl, ⟨3, rfl, rfl⟩, by decide, by decide⟩ (.cons ⟨rfl, ⟨4, rfl, rfl⟩, by decide, by decide⟩ .nil)
    · exact .cons ⟨⟨rfl, ⟨6, rfl, rfl⟩, by decide, by decide⟩, .nil⟩ .nil
  have admissible : ∀ c ∈ notice "a.B" "Hi" "x", c.isAdmissible := by decide
  have admissible' : ∀ c ∈ notice "a\"" "\");stop(\"" "x\n\\", c.isAdmissible := by decide
  obtain ⟨text, s, ran⟩ :=
    run_of_clean {} (fun _ => 3) .collect "app.A" admissible (free _ _ _) (by decide)
  obtain ⟨text', s', ran'⟩ :=
    run_of_clean {} (fun _ => 3) .collect "é\\\"" admissible' (free _ _ _) (by decide)
  have sizes : s.references.size = s'.references.size := by
    rw [References.size, References.size, (success_of_run admissible ran).references,
      (success_of_run admissible' ran').references]
    decide
  have confined := compileTemplate_confined bare admissible admissible' shape (by decide) ran ran' sizes
  exact ⟨text, text', s, s', ran, ran', confined.1⟩

end Compiler

end TemplateCompiler
