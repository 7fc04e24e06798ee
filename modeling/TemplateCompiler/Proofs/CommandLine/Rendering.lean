import Mathlib
import TemplateCompiler.CommandLine.Render
import TemplateCompiler.Proofs.Compiler.Cosmetics
import TemplateCompiler.Proofs.Json.Scalars
import TemplateCompiler.Proofs.Text.Octets

namespace TemplateCompiler

open Compiler Session

namespace Compiler

variable {s s' : Session}

theorem warnMissingMain_of_collect (collects : s.sink = .collect) :
    ∃ s', warnMissingMain s = .ok () s' ∧ s'.buffer = s.buffer ∧ s'.macros = s.macros := by
  rw [warnMissingMain, Act.get_bind]
  cases s.macros.contains mainMacro with
  | true => exact ⟨s, rfl, rfl, rfl⟩
  | false =>
    let noted : Session := { s with notes := s.notes ++ [.warningReported Report.missingMainMacro] }
    have reported := report_eq noted none Report.missingMainMacro (.list [.text mainMacro])
    have collects' : noted.sink = .collect := collects
    rw [collects'] at reported
    exact ⟨_, reported, rfl, rfl⟩

theorem compileTemplate_of_handled {config : Config} {digits : Digits} {statements : List Statement}
    (handled : compileAll (statements.map some) (Session.fresh config digits .collect) = .ok () s) (classpath : Value) :
    ∃ result s', compileTemplate statements classpath (Session.fresh config digits .collect) = .ok result s' ∧
      result.isSome = !s'.failed := by
  have run := goes_compileAll_top (idle_logged config digits .collect false) statements fun _ _ _ => trivial
  obtain ⟨moved, idle⟩ := run.of_ok handled
  obtain ⟨s₁, warned, buffer, macros⟩ := warnMissingMain_of_collect moved.sink
  obtain ⟨body, bodies⟩ : ∃ body, macroBodies s₁.buffer s₁.macros = .ok body := by
    rw [buffer, macros]
    exact ⟨_, macroBodies_of_idle idle⟩
  obtain ⟨text, ended, shape⟩ := ending_of_ok classpath s₁ body
  have whole : compileTemplate statements classpath (Session.fresh config digits .collect) =
      .ok text (concluded classpath s₁) := by
    rw [compileTemplate_eq, Act.bind_of_ok ((Act.bind_of_ok handled _).trans warned), finish_eq, bodies, ended]
  have failed : (concluded classpath s₁).failed = s₁.failed := by
    rw [concluded]
    split <;> rfl
  exact ⟨text, _, whole, by rw [failed]; exact shape⟩

end Compiler

namespace CommandLine

def eventLine (r : Report) : String :=
  r.id ++
    (match r.statement with
      | some s => " at line " ++ s.line.plain ++ " (" ++ s.name.plain ++ ")"
      | none => "") ++
    (if r.args.isTruthy then " " ++ r.args.display else "") ++ "\n"

def eventText (reports : List Report) : String := String.join (reports.map eventLine)

theorem lines_summary (reports : List Report) : lines (reports.map Report.summary) = eventText reports := by
  rw [lines, eventText, List.map_map]
  rfl

def Input.octets (standard : List UInt8) (files : String → Except Fault (List UInt8)) :
    Input → Except Fault (List UInt8)
  | .standard => .ok standard
  | .file path => files path

variable {file classpath indent text text' : String} {n : Int} {octets octets' : List UInt8}
  {statements : List Statement}

def rendering (file classpath : String) (n : Int) (noIndent : Bool) : Request :=
  { render := { file, classpath := .text classpath, indent := .count n, noIndent } }

def spaces (n : Int) (noIndent : Bool) : Option String :=
  if noIndent then none else some (String.ofList (List.replicate n.toNat ' '))

theorem repeatText_space (n : Nat) : Level.repeatText " " n = String.ofList (List.replicate n ' ') := by
  apply String.toList_injective
  rw [Level.repeatText, String.toList_join, List.flatMap_replicate, String.toList_ofList]
  simp

theorem spaces_off (low : n ≤ 0) (noIndent : Bool) : (spaces n noIndent).getD "" = "" := by
  have nothing : n.toNat = 0 := by omega
  cases noIndent with
  | true => rfl
  | false =>
    rw [spaces, nothing]
    rfl

theorem statementsOf_content {items : List Value} {fields : List (String × Value)}
    (listed : Json.read text = .ok (.list items)) (wrapped : Json.read text' = .ok (.record fields))
    (content : field? fields "content" = some (.list items)) : statementsOf text' = statementsOf text := by
  rw [statementsOf, statementsOf, listed, wrapped]
  change Statement.allOf ((field? fields "content").getD (.list [])) = Statement.allOf (.list items)
  rw [content]
  rfl

theorem unit_rendering (fits : (Level.count n).indent " " = .ok indent) (noIndent : Bool) :
    (rendering file classpath n noIndent).render.unit = .ok (spaces n noIndent) := by
  obtain ⟨m, same, spelled⟩ := Level.indent_ok fits
  cases same
  cases noIndent with
  | true => rfl
  | false =>
    change some <$> (Level.count n).indent " " = _
    rw [fits, spelled, repeatText_space]
    rfl

theorem run_of_accepted {request : Request} {unit : Option String} (silent : request.verbose = false)
    (decoded : Octets.toText octets = .ok text) (accepted : statementsOf text = .ok statements)
    (united : request.render.unit = .ok unit) (digits : Digits) :
    request.run digits (.ok octets) =
      request.printed (compileTemplate statements request.render.classpath
        (Session.fresh { indentUnit := unit } digits .collect)) := by
  have loaded : request.load (.ok octets) = .ok (statements, unit) := by
    simp only [Request.load, bind, Except.bind, decoded, accepted, united]
    rfl
  rw [Request.run, loaded]
  change request.printed (compileTemplate statements request.render.classpath
    { Session.fresh { indentUnit := unit } digits .collect with isLogged := request.verbose }) = _
  rw [silent]
  rfl

theorem printed_rendering (noIndent : Bool) (result : Option String) (s : Session) :
    (rendering file classpath n noIndent).printed (.ok result s) =
      match result with
      | some out => { exit := .ok 0, out, err := eventText s.reports }
      | none => { exit := .ok 1, err := eventText s.reports ++ classpath ++ ": generation failed\n" } := by
  have silent : (rendering file classpath n noIndent).logText s = "" := rfl
  simp only [Request.printed, silent, String.empty_append, lines_summary]
  cases result <;> rfl

theorem printed_cases {noIndent : Bool} {result : Option String} {s : Session} {printed : Printed}
    (shown : printed = (rendering file classpath n noIndent).printed (.ok result s))
    (shape : result.isSome = !s.failed) :
    let events := eventText s.reports
    s.failed = false ∧ (∃ out, result = some out ∧ printed = { exit := .ok 0, out, err := events }) ∨
      s.failed = true ∧ result = none ∧
        printed = { exit := .ok 1, err := events ++ classpath ++ ": generation failed\n" } := by
  intro events
  rw [printed_rendering] at shown
  cases result with
  | some out =>
    have unfailed : s.failed = false := by simpa using shape.symm
    exact .inl ⟨unfailed, out, rfl, shown⟩
  | none =>
    have failed : s.failed = true := by simpa using shape.symm
    exact .inr ⟨failed, rfl, shown⟩

theorem printed_unindented {u v : Option String} (off : u.getD "" = "") (off' : v.getD "" = "") (request : Request)
    (digits : Digits) (statements : List Statement) (classpath : Value) :
    request.printed (compileTemplate statements classpath (Session.fresh { indentUnit := u } digits .collect)) =
      request.printed (compileTemplate statements classpath (Session.fresh { indentUnit := v } digits .collect)) := by
  obtain ⟨result, b, b', ran, ran'⟩ :=
    compileTemplate_unindented off off' statements classpath (Session.fresh {} digits .collect)
  have same (unit : Option String) (b : Buffer) :
      request.printed (redressed unit b result) = request.printed result := by
    cases result <;> rfl
  have left := congrArg request.printed ran
  have right := congrArg request.printed ran'
  rw [same] at left right
  exact left.trans right.symm

theorem run_of_refused {request : Request} {fault : Fault} (decoded : Octets.toText octets = .ok text)
    (refused : statementsOf text = .error fault) (digits : Digits) :
    request.run digits (.ok octets) = { exit := .error fault } := by
  have unloaded : request.load (.ok octets) = .error fault := by
    simp only [Request.load, bind, Except.bind, decoded, refused]
  rw [Request.run, unloaded]

theorem run_of_half {unit : Nat} (decoded : Octets.toText octets = .ok text)
    (broken : Json.half? text.toList = some unit) (request : Request) (digits : Digits) :
    ∃ fault, request.run digits (.ok octets) = { exit := .error fault } := by
  obtain ⟨fault, refused⟩ := Json.readWith_of_half true broken
  refine ⟨fault, run_of_refused decoded ?_ digits⟩
  rw [statementsOf, Json.read, refused]
  rfl

/-- What is printed for legible statements is told by the grammar and the layout. -/
theorem printed_of_legible {digits : Digits} {unit result : Option String} {s : Session} {printed : Printed}
    (legible : ∀ c ∈ statements, c.isLegible)
    (ran : compileTemplate statements (.text classpath) (Session.fresh { indentUnit := unit } digits .collect) =
      .ok result s)
    (outcome : s.failed = false ∧
        (∃ out, result = some out ∧ printed = { exit := .ok 0, out, err := eventText s.reports }) ∨
      s.failed = true ∧ result = none ∧
        printed = { exit := .ok 1, err := eventText s.reports ++ classpath ++ ": generation failed\n" }) :
    printed =
      if (Grammar.walk statements).any Report.isError then
        { exit := .ok 1, err := eventText (Grammar.walk statements) ++ classpath ++ ": generation failed\n" }
      else
        { exit := .ok 0
          out := Layout.classText { indentUnit := unit } digits classpath statements
          err := eventText (Grammar.walk statements) } := by
  have admissible c (member : c ∈ statements) := Statement.isAdmissible_of_isLegible (legible c member)
  obtain ⟨reports, failed, answer, -⟩ := outcome_of_run admissible ran
  have reports : s.reports = Grammar.walk statements := reports
  rw [← failed, ← reports]
  rcases outcome with ⟨unfailed, out, made, shown⟩ | ⟨failed', -, shown⟩
  · rw [unfailed, made] at answer
    rw [unfailed, shown, Option.some.inj answer]
    rfl
  · rw [failed', shown]
    rfl

/-! Texts with a warning alone, as a list and in a record, with an error too, and with half of a surrogate pair -/

def warnedText : String := "[\x7b\"name\":\"macro\",\"param_block\":\"m\"\x7d]"

def wrappedText : String := "\x7b\"content\":[\x7b\"name\":\"macro\",\"param_block\":\"m\"\x7d]\x7d"

def failingText : String :=
  "[\x7b\"name\":\"call\",\"line_number\":3\x7d,\x7b\"name\":\"macro\",\"line_number\":4\x7d]"

def tornText : String :=
  "[\x7b\"name\":\"macro\",\"param_block\":\"main\"\x7d,\x7b\"name\":\"macro\",\"param_block\":\"\\ud800\"\x7d]"

def warned : List Statement := [⟨.text "macro", .int 0, .text "m", [], []⟩]

def failing : List Statement := [⟨.text "call", .int 3, .text "", [], []⟩, ⟨.text "macro", .int 4, .text "", [], []⟩]

def warnedClass : String := String.join
  ["Aria.classDefinition(\x7b\n", " $classpath: \"A\",\n", " $prototype: \x7b\n", "    macro_m : function () \x7b\n",
    "      try \x7b\n", "      \x7d catch (_ex) \x7b\n",
    "        this.$logError(this.EXCEPTION_IN_MACRO,[\"m\",this['aria:currentLineNumber']],_ex);\n", "      \x7d\n",
    "    \x7d,\n", " \x7d\n", "\x7d);\n"]

end CommandLine

end TemplateCompiler
