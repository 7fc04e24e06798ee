import TemplateCompiler.Proofs.Compiler.Composition
import TemplateCompiler.Proofs.Compiler.Template
import TemplateCompiler.Proofs.Session.Uniform

namespace TemplateCompiler

open Buffer (Operation)

/-- What can be seen of a buffer is the draft as a unit shows it. Without a unit the texts stand by themselves. -/
structure Draft.SeenIn (d : Draft) (unit : Option String) (b : Buffer) : Prop where
  depth : b.depth = d.stack.length
  ready : b.isReady = d.active.isSome
  names : b.names = d.names
  content : ∀ name, b.content name = d.content unit name
  plain : unit.getD "" = "" → ∀ name i, d.names.lookup name = some i →
    b.content name = .ok (String.join ((d.entries i).map Entry.text))

theorem Draft.Describes.seenIn {d : Draft} {b : Buffer} {unit : Option String} (describes : d.Describes b)
    (same : b.unit = unit) : d.SeenIn unit b where
  depth := congrArg List.length describes.shows.stack
  ready := congrArg Option.isSome describes.shows.active
  names := describes.shows.names
  content name := by rw [describes.content, same]
  plain disabled name i named := by
    have texts : (d.entries i).map (Entry.shown unit) = (d.entries i).map Entry.text :=
      List.map_congr_left fun e _ => Entry.shown_of_disabled disabled e
    rw [describes.content, same, Draft.content, named, ← texts]

theorem Buffer.seen_of_ok {u : String} {ops : List Operation} (indents : u ≠ "") (plain : ∀ op ∈ ops, op.isPlain)
    (fine : ∀ answer ∈ answers { unit := some u } ops, answer = .ok ()) {v : Option String}
    (orderly : Orderly { unit := v } ops) :
    (∀ answer ∈ answers { unit := v } ops, answer = .ok ()) ∧
      ∀ n, (Draft.run {} (ops.take n)).SeenIn v (run { unit := v } (ops.take n)) := by
  have enabled : ({ unit := some u } : Buffer).unit?.isSome := by simp [unit?, indents]
  obtain ⟨takes, -⟩ := (Draft.describes_empty (some u)).takesAll_of_ok enabled plain fine
  obtain ⟨fine', describes⟩ := (Draft.describes_empty v).run takes orderly
  refine ⟨fine', fun n => (describes n).seenIn (unit_run fun op member => ?_)⟩
  have plain' := plain op (List.mem_of_mem_take member)
  cases op with
  | setUnit unit => cases plain'
  | _ => rfl

namespace Compiler

open Session

variable {s : Session}

def warnMissingMain : Session.Act Unit := do
  if !(← get).macros.contains mainMacro then
    reportWarning none Report.missingMainMacro (.list [.text mainMacro])

theorem blind_warnMissingMain : Blind warnMissingMain := by
  intro s unit b
  have same : (s.dressed unit b).macros.contains mainMacro = s.macros.contains mainMacro := rfl
  rw [warnMissingMain, Act.get_bind, Act.get_bind, same]
  split
  · exact (aside_reportWarning _ _ _).blind s unit b
  · rfl

theorem compileTemplate_eq (statements : List Statement) (classpath : Value) :
    compileTemplate statements classpath =
      (do compileAll (statements.map some); warnMissingMain) >>= fun _ => finish classpath := by
  funext s
  rw [compileTemplate]
  cases ran : compileAll (statements.map some) s with
  | error fault s' =>
    rw [Act.bind_of_error ran, Act.bind_of_error (Act.bind_of_error ran _)]
  | ok _ s' =>
    rw [Act.bind_of_ok ran, Act.get_bind]
    cases main : s'.macros.contains mainMacro with
    | true =>
      have quiet : warnMissingMain s' = .ok () s' := by rw [warnMissingMain, Act.get_bind, main]; rfl
      rw [Act.bind_of_ok ((Act.bind_of_ok ran _).trans quiet)]
      rfl
    | false =>
      have warns : warnMissingMain s' = reportWarning none Report.missingMainMacro (.list [.text mainMacro]) s' := by
        rw [warnMissingMain, Act.get_bind, main]
        rfl
      have same := (Act.bind_of_ok ran fun _ => warnMissingMain).trans warns
      cases warned : reportWarning none Report.missingMainMacro (.list [.text mainMacro]) s' with
      | ok _ s'' =>
        rw [warned] at same
        rw [Act.bind_of_ok same]
        exact Act.bind_of_ok warned _
      | error fault s'' =>
        rw [warned] at same
        rw [Act.bind_of_error same]
        exact Act.bind_of_error warned _

def concluded (classpath : Value) (s : Session) : Session :=
  if s.failed then { s with notes := s.notes ++ [.generationFailed classpath.plain] } else s

def ending (classpath : Value) (s : Session) (bodies : Except Fault String) :
    EStateM.Result Fault Session (Option String) :=
  if s.failed then .ok none (concluded classpath s)
  else match bodies with
    | .ok body => .ok (some (String.intercalate "\n" (classLines classpath
        (s.references.declaration s.config.dependenciesKeyword) body) ++ "\n")) s
    | .error fault => .error fault s

theorem finish_eq (classpath : Value) (s : Session) :
    finish classpath s = ending classpath s (macroBodies s.buffer s.macros) := by
  rw [finish, Act.get_bind, ending.eq_def, concluded]
  by_cases failed : s.failed = true
  · rw [if_pos failed, if_pos failed, if_pos failed]
    rfl
  · rw [if_neg failed, if_neg failed, classText, bind_assoc, Act.get_bind]
    cases macroBodies s.buffer s.macros <;> rfl

theorem ending_dressed (classpath : Value) (s : Session) (unit : Option String) (b : Buffer)
    (bodies : Except Fault String) :
    ending classpath (s.dressed unit b) bodies = redressed unit b (ending classpath s bodies) := by
  have same : (s.dressed unit b).failed = s.failed := rfl
  rw [ending.eq_def, ending.eq_def, same, concluded, concluded, same]
  by_cases failed : s.failed = true
  · simp only [if_pos failed]
    rfl
  · simp only [if_neg failed]
    cases bodies <;> rfl

theorem ending_of_ok (classpath : Value) (s : Session) (body : String) :
    ∃ text, ending classpath s (.ok body) = .ok text (concluded classpath s) ∧ text.isSome = !s.failed := by
  rw [ending.eq_def, concluded]
  by_cases failed : s.failed = true
  · rw [if_pos failed, if_pos failed]
    exact ⟨none, rfl, by rw [failed]; rfl⟩
  · rw [if_neg failed, if_neg failed]
    exact ⟨_, rfl, by rw [Bool.eq_false_iff.mpr failed]; rfl⟩

theorem finish_of_valid (valid : s.buffer.Valid) (classpath : Value) :
    ∃ text, finish classpath s = .ok text (concluded classpath s) ∧ text.isSome = !s.failed := by
  rw [finish_eq, macroBodies_of_valid valid]
  exact ending_of_ok classpath s _

theorem compileAll_uniform (statements : List Statement) (s : Session) :
    ∃ (result : EStateM.Result Fault Session Unit) (d : Draft), ∀ unit, ¬ TooLong unit →
      ∃ b, (do compileAll (statements.map some); warnMissingMain) (s.dressed unit { unit }) =
          redressed unit b result ∧ d.Describes b ∧ b.unit = unit := by
  have composed : Outside (do compileAll (statements.map some); warnMissingMain) :=
    .bind (outside_compileAll _) fun _ => .blind blind_warnMissingMain
  obtain ⟨result, d, same⟩ := composed.uniform s {}
  refine ⟨result, d, fun unit short => ?_⟩
  have starts : Regime.outside.starts { unit } := ⟨rfl, short⟩
  obtain ⟨b, ran, describes⟩ := same unit { unit } (Draft.describes_empty unit) starts
  have returns := (composed.allows (s.dressed unit { unit }) starts).2
  rw [buffer_of_redressed ran] at returns
  exact ⟨b, ran, describes, returns.unit⟩

/-- Compiling a template ends the same under all units that fit, in a session that is the same but for the buffer, which
    shows one draft. -/
theorem compileTemplate_uniform (config : Config) (digits : Digits) (sink : Sink) (statements : List Statement)
    (classpath : Value) :
    ∃ (common : Session) (d : Draft) (answer : Except Fault Bool), ∀ unit, ¬ TooLong unit →
      let start := Session.fresh { config with indentUnit := unit } digits sink
      (Act.outcome (compileTemplate statements classpath) start).map Option.isSome = answer ∧
      ∃ b, Act.final (compileTemplate statements classpath) start = common.dressed unit b ∧ d.SeenIn unit b := by
  obtain ⟨result, d, same⟩ := compileAll_uniform statements (Session.fresh config digits sink)
  have runs (unit : Option String) (short : ¬ TooLong unit) :
      ∃ b, (do compileAll (statements.map some); warnMissingMain)
        (Session.fresh { config with indentUnit := unit } digits sink) = redressed unit b result ∧
          d.Describes b ∧ b.unit = unit := same unit short
  rw [compileTemplate_eq]
  cases result with
  | error fault common =>
    refine ⟨common, d, .error fault, fun unit short => ?_⟩
    obtain ⟨b, ran, describes, given⟩ := runs unit short
    refine ⟨?_, b, Act.final_bind_of_error ran _, describes.seenIn given⟩
    rw [Act.outcome, Act.bind_of_error ran]
    rfl
  | ok _ last =>
    refine ⟨concluded classpath last, d, .ok !last.failed, fun unit short => ?_⟩
    obtain ⟨b, ran, describes, given⟩ := runs unit short
    obtain ⟨text, finished, shape⟩ := finish_of_valid (s := last.dressed unit b) describes.valid classpath
    have whole := (Act.bind_of_ok ran fun _ => finish classpath).trans finished
    refine ⟨?_, b, ?_, describes.seenIn given⟩
    · rw [Act.outcome, whole]
      exact congrArg Except.ok shape
    · rw [Act.final, whole]
      cases failed : last.failed <;> simp [concluded, dressed, failed]

theorem compileTemplate_unindented {u v : Option String} (off : u.getD "" = "") (off' : v.getD "" = "")
    (statements : List Statement) (classpath : Value) (s : Session) :
    ∃ (result : EStateM.Result Fault Session (Option String)) (b b' : Buffer),
      compileTemplate statements classpath (s.dressed u { unit := u }) = redressed u b result ∧
      compileTemplate statements classpath (s.dressed v { unit := v }) = redressed v b' result := by
  have short {unit : Option String} (disabled : unit.getD "" = "") : ¬ TooLong unit := by
    rintro ⟨w, rfl, long⟩
    have empty : w = "" := disabled
    rw [empty] at long
    exact absurd long (by decide)
  obtain ⟨result, d, same⟩ := compileAll_uniform statements s
  obtain ⟨b, ran, describes, given⟩ := same u (short off)
  obtain ⟨b', ran', describes', given'⟩ := same v (short off')
  have seen := describes.seenIn given
  have seen' := describes'.seenIn given'
  rw [compileTemplate_eq]
  cases result with
  | error fault last => exact ⟨.error fault last, b, b', Act.bind_of_error ran _, Act.bind_of_error ran' _⟩
  | ok _ last =>
    have shown (unit : Option String) (disabled : unit.getD "" = "") : Entry.shown unit = Entry.text :=
      funext (Entry.shown_of_disabled disabled)
    have contents : b.content = b'.content := by
      funext name
      rw [seen.content, seen'.content, Draft.content, Draft.content, shown u off, shown v off']
    have has : b.has = b'.has := by
      funext name
      rw [Buffer.has, Buffer.has, Buffer.find?, Buffer.find?, seen.names, seen'.names]
    have bodies : macroBodies b last.macros = macroBodies b' last.macros := by
      rw [macroBodies, macroBodies, has, contents]
    have ends (unit : Option String) (b : Buffer) :
        finish classpath (last.dressed unit b) = redressed unit b (ending classpath last (macroBodies b last.macros)) :=
      (finish_eq classpath _).trans (ending_dressed classpath last unit b _)
    refine ⟨ending classpath last (macroBodies b last.macros), b, b', ?_, ?_⟩
    · exact (Act.bind_of_ok ran _).trans (ends u b)
    · rw [bodies]
      exact (Act.bind_of_ok ran' _).trans (ends v b')

/-- Indentation is cosmetic. Operations on a buffer that go through under a unit that indents lines go through under
    every unit, with the same navigation and names after every step, and each block is a sequence of entries that the
    unit only puts margins to. A template is compiled with the same answer and the same session under every unit. -/
theorem indentation_cosmetic :
    (∀ (u : String) (ops : List Operation), u ≠ "" → (∀ op ∈ ops, op.isPlain) →
      (∀ answer ∈ Buffer.answers { unit := some u } ops, answer = .ok ()) →
      ∀ v, Buffer.Orderly { unit := v } ops →
        (∀ answer ∈ Buffer.answers { unit := v } ops, answer = .ok ()) ∧
        ∀ n, (Draft.run {} (ops.take n)).SeenIn v (Buffer.run { unit := v } (ops.take n))) ∧
    ∀ (config : Config) (digits : Digits) (sink : Sink) (statements : List Statement) (classpath : Value),
      ∃ (common : Session) (d : Draft) (answer : Except Fault Bool), ∀ unit, ¬ TooLong unit →
        let start := Session.fresh { config with indentUnit := unit } digits sink
        (Act.outcome (compileTemplate statements classpath) start).map Option.isSome = answer ∧
        ∃ b, Act.final (compileTemplate statements classpath) start = common.dressed unit b ∧ d.SeenIn unit b :=
  ⟨fun _ _ indents plain fine _ orderly => Buffer.seen_of_ok indents plain fine orderly, compileTemplate_uniform⟩

theorem indentation_cosmetic_nested :
    let ops : List Operation := [.startBlock "a" (.count 1), .enter "a", .shift true, .writeLine ["x"],
      .startBlock "b" (.count (-1)), .enter "b", .shift true, .writeLine ["y"], .leave, .shift false, .write ["z"]]
    (Buffer.run { unit := some "--" } ops).content "a" = .ok "----x\nz" ∧
    (Buffer.run { unit := none } ops).content "a" = .ok "x\nz" ∧
    ∃ (common : Session) (b b' : Buffer),
      Act.final (compileTemplate greeting .null)
        (Session.fresh { indentUnit := some "--" } (fun _ => 0) .collect) = common.dressed (some "--") b ∧
      Act.final (compileTemplate greeting .null)
        (Session.fresh { indentUnit := none } (fun _ => 0) .collect) = common.dressed none b' ∧
      b.names = b'.names := by
  intro ops
  obtain ⟨buffers, sessions⟩ := indentation_cosmetic
  have fine : ∀ answer ∈ Buffer.answers { unit := some " " } ops, answer = .ok () := by
    have all : Buffer.answers { unit := some " " } ops = List.replicate 11 (.ok ()) := rfl
    rw [all]
    exact fun answer member => List.eq_of_mem_replicate member
  have seen := buffers " " ops (by decide) (by decide) fine
  refine ⟨((seen (some "--") (by decide)).2 11).content "a", ((seen none (by decide)).2 11).content "a", ?_⟩
  obtain ⟨common, d, answer, same⟩ := sessions {} (fun _ => 0) .collect greeting .null
  have wide : ¬ TooLong (some "--") := by
    rintro ⟨u, given, long⟩
    cases given
    exact absurd long (by decide)
  have off : ¬ TooLong none := by
    rintro ⟨u, given, -⟩
    cases given
  obtain ⟨-, b, ran, shows⟩ := same (some "--") wide
  obtain ⟨-, b', ran', shows'⟩ := same none off
  exact ⟨common, b, b', ran, ran', shows.names.trans shows'.names.symm⟩

end Compiler

end TemplateCompiler
