import TemplateCompiler.Proofs.Buffer.Scopes
import TemplateCompiler.Proofs.Compiler.Confinement
import TemplateCompiler.Proofs.Json.Scalars
import TemplateCompiler.Proofs.Session.Performance

namespace TemplateCompiler

open Buffer (texts)

namespace Buffer

variable {b : Buffer}

theorem Placed.elementary {act : Act Unit} (elementary : Elementary act) (placed : b.Placed) :
    (Act.final act b).Placed := by
  cases elementary with
  | startBlock name level => exact placed.addBlock name level
  | enter name =>
    have ended : Act.final (Buffer.enter name) b = (b.push name).renewed := final_renewIndent _
    rw [ended]
    exact (placed.push name).of_same (.renewed _)
  | leave =>
    have ended : Act.final Buffer.leave b = b.pop.renewed := final_renewIndent _
    rw [ended]
    exact placed.pop.of_same (.renewed _)
  | write pieces =>
    rw [final_write]
    exact placed.of_same (.written b pieces)
  | writeLine pieces =>
    rw [final_writeLine]
    exact placed.of_same (.written b _)
  | shift inward =>
    rw [final_shift]
    exact placed.of_same (.shifted b inward)
  | setUnit unit => exact placed

structure Gains (b b' : Buffer) (i : Nat) (text : String) : Prop where
  text : b'.textOf i = b.textOf i ++ text
  others : ∀ j ≠ i, b'.blocks[j]? = b.blocks[j]?
  levels : ∀ j, b'.levelOf j = b.levelOf j
  names : b'.names = b.names
  active : b'.active = b.active
  stack : b'.stack = b.stack
  indent : b'.indent = b.indent
  unit : b'.unit = b.unit

theorem gains_appendTo {i : Nat} (known : i < b.blocks.length) (parts : List String) :
    b.Gains (b.appendTo i (texts parts)) i (String.join parts) where
  text := by rw [textOf_appendTo known, if_pos rfl, texts_join]
  others j other := by simp [appendTo, Ne.symm other]
  levels := levelOf_appendTo b i (texts parts)
  names := rfl
  active := rfl
  stack := rfl
  indent := rfl
  unit := rfl

end Buffer

namespace Text

theorem escapeLiteral_of_bare {c : Char} (bare : IsBare c) : escapeLiteral c = [c] := by
  obtain ⟨⟨low, high⟩, noQuote, noBackslash⟩ := bare
  have printed {d : Char} (control : ¬ ' ' ≤ d) : c ≠ d := by
    rintro rfl
    exact control low
  have long : shortEscape? c = none := by
    rw [shortEscape?, if_neg noQuote, if_neg noBackslash, if_neg (printed (by decide)), if_neg (printed (by decide)),
      if_neg (printed (by decide)), if_neg (printed (by decide)), if_neg (printed (by decide))]
  simp [escapeLiteral, long, low, high]

theorem literalBody_append (cs cs' : List Char) : literalBody (cs ++ cs') = literalBody cs ++ literalBody cs' :=
  List.flatMap_append

theorem literalBody_of_bare {cs : List Char} (bare : ∀ c ∈ cs, IsBare c) : literalBody cs = cs := by
  induction cs with
  | nil => rfl
  | cons c cs ih =>
    have first := escapeLiteral_of_bare (bare c List.mem_cons_self)
    have rest := ih fun d member => bare d (List.mem_cons_of_mem c member)
    rw [literalBody, List.flatMap_cons, first]
    exact congrArg (c :: ·) rest

theorem literal_eq (s : String) : literal s = "\"" ++ Layout.escaped s ++ "\"" := by
  apply String.toList_injective
  simp [literal, Layout.escaped]

theorem literal_of_bare {front back : String} (bare : Bare front) (bare' : Bare back) (expr : String) :
    literal (front ++ expr ++ back) = "\"" ++ front ++ Layout.escaped expr ++ back ++ "\"" := by
  apply String.toList_injective
  simp [literal, Layout.escaped, literalBody_append, literalBody_of_bare bare, literalBody_of_bare bare']

end Text

namespace Session

variable {α β : Type} {s : Session} {i : Nat} {n : Int}

def put (s : Session) (i : Nat) (parts : List String) : Session :=
  { s with buffer := s.buffer.appendTo i (texts parts) }

theorem put_put (s : Session) (i : Nat) (parts more : List String) :
    (s.put i parts).put i more = s.put i (parts ++ more) := by
  simp only [put, Buffer.appendTo_appendTo, texts, List.map_append]

theorem put_nil (s : Session) (i : Nat) : s.put i [] = s := by
  simp only [put, texts, List.map_nil, Buffer.appendTo_nil]

/-- The operation answers `a`, adds lines to block `i` and does nothing else. -/
def Puts (i : Nat) (act : Act α) (s : Session) (a : α) (lines : List Line) : Prop :=
  ∃ parts, act s = .ok a (s.put i parts) ∧ String.join parts = rendered s.buffer.unit lines

theorem Puts.bind {act : Act α} {f : α → Act β} {a : α} {b : β} {lines more : List Line}
    (first : Puts i act s a lines) (rest : ∀ parts, Puts i (f a) (s.put i parts) b more) :
    Puts i (act >>= f) s b (lines ++ more) := by
  obtain ⟨parts, ran, text⟩ := first
  obtain ⟨parts', ran', text'⟩ := rest parts
  refine ⟨parts ++ parts', ?_, ?_⟩
  · rw [Act.bind_of_ok ran, ran', put_put]
  · rw [String.join_append, text, text', rendered_append]
    rfl

theorem Puts.congr {act : Act α} {a : α} {lines lines' : List Line} (puts : Puts i act s a lines)
    (same : lines = lines') : Puts i act s a lines' := by
  rwa [same] at puts

theorem Puts.standing (standing : s.buffer.Standing i n) (parts : List String) :
    (s.put i parts).buffer.Standing i n := standing.appendTo _

theorem puts_pure (s : Session) (i : Nat) (a : α) : Puts i (pure a) s a [] := by
  refine ⟨[], ?_, rfl⟩
  rw [put_nil]
  rfl

theorem puts_line (standing : s.buffer.Standing i n) (parts : List String) :
    Puts i (emitLine parts) s () [⟨n.toNat, String.join parts⟩] := by
  obtain ⟨pieces, ran, text⟩ := standing.writeLine_eq parts
  exact ⟨pieces, onBuffer_of_ok ran, text.trans (rendered_singleton _ _).symm⟩

theorem puts_indented (standing : s.buffer.Standing i n)
    (fits : ∀ u, s.buffer.unit? = some u → ∃ indent, (Level.count (n + 1)).indent u = .ok indent)
    (parts : List String) : Puts i (indented (emitLine parts)) s () [⟨(n + 1).toNat, String.join parts⟩] := by
  obtain ⟨b, entered, deeper, unit, back⟩ := standing.increase_of_fits fits
  obtain ⟨pieces, ran, text⟩ := deeper.writeLine_eq parts
  have left : decrease { s with buffer := b.appendTo i (texts pieces) } = .ok () (s.put i pieces) :=
    onBuffer_of_ok (back (texts pieces))
  refine ⟨pieces, ?_, ?_⟩
  · exact Act.between_of_ok (onBuffer_of_ok entered) (onBuffer_of_ok (s := { s with buffer := b }) ran) left
  · rw [text, unit, rendered_singleton]

/-- The lines of a guarded evaluation in a block at the given level, which may be negative. -/
def scaffold (level : Int) (variableName expr message : String) (line : Int) (title : String) : List Line :=
  [⟨level.toNat, "var " ++ variableName ++ " = null;"⟩,
    ⟨level.toNat, "try \x7b"⟩,
    ⟨(level + 1).toNat, "eval( " ++ Text.literal (variableName ++ "=(" ++ expr ++ ")") ++ " );"⟩,
    ⟨level.toNat, "\x7d catch (e) \x7b"⟩,
    ⟨(level + 1).toNat, "this.$logError(" ++ message ++ "," ++ Json.tripleText expr line title ++ ", e);"⟩,
    ⟨level.toNat, "\x7d"⟩]

theorem emitGuarded_eq (standing : s.buffer.Standing i n)
    (fits : ∀ u, s.buffer.unit? = some u → ∃ indent, (Level.count (n + 1)).indent u = .ok indent)
    (stem : Text.Bare s.names.stem) {c : Statement} {line : Int} {title : String} (lined : c.line = .int line)
    (titled : c.name = .text title) (expr message : String) :
    ∃ parts, emitGuarded (.text expr) (some c) (.text message) s = .ok s.nextName (s.named.put i parts) ∧
      String.join parts = rendered s.buffer.unit (scaffold n s.nextName expr message line title) := by
  have bare : Text.Bare s.nextName := Text.bare_name stem _
  have evaluation : String.join ["eval( \"" ++ s.nextName ++ "=(" ++ Layout.escaped expr ++ ")\" );"] =
      "eval( " ++ Text.literal (s.nextName ++ "=(" ++ expr ++ ")") ++ " );" := by
    rw [Text.literal_of_bare (bare.append (by decide)) (by decide)]
    apply String.toList_injective
    simp
  have failure : String.join ["this.$logError(", message, ",[\"", Layout.escaped expr, "\",", c.line.plain, ",",
      c.name.json, "], e);"] = "this.$logError(" ++ message ++ "," ++ Json.tripleText expr line title ++ ", e);" := by
    rw [lined, titled, Json.tripleText, Text.literal_eq expr]
    apply String.toList_injective
    simp [Value.plain, Value.display, Value.json]
  have lines : Puts i (do
      emitLine ["var " ++ s.nextName ++ " = null;"]
      emitLine ["try \x7b"]
      indented (emitLine ["eval( \"" ++ s.nextName ++ "=(" ++ Layout.escaped expr ++ ")\" );"])
      emitLine ["\x7d catch (e) \x7b"]
      indented (emitLine ["this.$logError(", message, ",[\"", Layout.escaped expr, "\",", c.line.plain, ",",
        c.name.json, "], e);"])
      emitLine ["\x7d"]
      return s.nextName) s.named s.nextName (scaffold n s.nextName expr message line title) := by
    apply Puts.congr
    · have standing₀ : s.named.buffer.Standing i n := standing
      apply Puts.bind (puts_line standing₀ _)
      intro p₁
      have standing₁ := Puts.standing standing₀ p₁
      apply Puts.bind (puts_line standing₁ _)
      intro p₂
      have standing₂ := Puts.standing standing₁ p₂
      apply Puts.bind (puts_indented standing₂ fits _)
      intro p₃
      have standing₃ := Puts.standing standing₂ p₃
      apply Puts.bind (puts_line standing₃ _)
      intro p₄
      have standing₄ := Puts.standing standing₃ p₄
      apply Puts.bind (puts_indented standing₄ fits _)
      intro p₅
      apply Puts.bind (puts_line (Puts.standing standing₄ p₅) _)
      intro p₆
      exact puts_pure _ i _
    · rw [scaffold, ← evaluation, ← failure]
      simp
  rw [emitGuarded, Act.bind_of_ok (takeName_eq s)]
  simp only [Value.json, Compiler.inner_literal]
  exact lines

theorem emitGuarded_idle (idle : s.buffer.active = none) (expr : Value) (statement : Option Statement)
    (errorName : Value) : emitGuarded expr statement errorName s = .error .noActiveBlock s.named := by
  have refused (parts : List String) : emitLine parts s.named = .error .noActiveBlock s.named := by
    have written := Buffer.writeLine_eq s.buffer (texts parts)
    rw [idle] at written
    exact onBuffer_of_error written
  rw [emitGuarded, Act.bind_of_ok (takeName_eq s)]
  exact Act.bind_of_error (refused _) _

theorem upheld_stem_placed :
    Upheld fun s s' => s'.names.stem = s.names.stem ∧ (s.buffer.Placed → s'.buffer.Placed) where
  trans first second := ⟨second.1.trans first.1, second.2 ∘ first.2⟩
  quiet same := by
    rw [same.buffer, same.names]
    exact ⟨rfl, id⟩
  name _ := ⟨rfl, id⟩
  buffer _ elementary := ⟨rfl, Buffer.Placed.elementary elementary⟩

/-- In every session that actions lead to, guarded code goes to the active block as a scaffold of six lines if the
    indent is in step and the unit can be repeated once more than the level says, and nothing else changes but the names.
    With no active block it fails and only takes the name. What is quoted in the scaffold reads back: the code that is
    evaluated, and the list of the expression, the line and the name. A reader that limits the digits of integers takes
    it too if the line keeps to its limit. -/
theorem emitGuarded_scaffold (config : Config) (digits : Digits) (sink : Sink) (isLogged : Bool) (handling : Handling)
    (actions : List Action) (stem : Text.Bare config.nameStem) {c : Statement} {line : Int} {title : String}
    (lined : c.line = .int line) (titled : c.name = .text title) (expr message : String) :
    let s := performed config digits sink isLogged handling actions
    let code := s.nextName ++ "=(" ++ expr ++ ")"
    (∀ i level, s.buffer.active = some i → s.buffer.InStep →
      (s.buffer.unit?.isSome → s.buffer.levelOf i = .count level) →
      (∀ u, s.buffer.unit? = some u → ∃ indent, (Level.count (level + 1)).indent u = .ok indent) →
      ∃ parts, emitGuarded (.text expr) (some c) (.text message) s = .ok s.nextName (s.named.put i parts) ∧
        s.buffer.Gains (s.named.put i parts).buffer i
          (rendered s.buffer.unit (scaffold level s.nextName expr message line title))) ∧
    (s.buffer.active = none →
      emitGuarded (.text expr) (some c) (.text message) s = .error .noActiveBlock s.named ∧
        s.named.buffer = s.buffer) ∧
    Json.read (Text.literal code) = .ok (.text code) ∧
    Json.readUnlimited (Json.tripleText expr line title) = .ok (.list [.text expr, .int line, .text title]) ∧
    (Json.digitCount line ≤ digitLimit →
      Json.read (Json.tripleText expr line title) = .ok (.list [.text expr, .int line, .text title])) := by
  intro s code
  have fresh : ({ Session.fresh config digits sink with isLogged } : Session).buffer.Placed := by
    intro i refers
    simp [Session.fresh, Buffer.Refers, Buffer.find?] at refers
  obtain ⟨sameStem, placed⟩ := upheld_stem_placed.performed config digits sink isLogged handling actions
  have bare : Text.Bare s.names.stem := by
    rw [sameStem]
    exact stem
  refine ⟨fun i level active inStep levelled fits => ?_, fun idle => ⟨emitGuarded_idle idle _ _ _, rfl⟩,
    Json.read_literal code, Json.readUnlimited_triple expr line title, fun short => Json.read_triple short expr title⟩
  have known : i < s.buffer.blocks.length := placed fresh i (.inr (.inl active))
  have standing : s.buffer.Standing i level := ⟨active, known, levelled, inStep⟩
  obtain ⟨parts, ran, text⟩ := emitGuarded_eq standing fits bare lined titled expr message
  refine ⟨parts, ran, ?_⟩
  rw [← text]
  exact Buffer.gains_appendTo known parts

def wideConfig : Config := { indentUnit := some "--", nameStem := "tmp" }

def nestedTwice : Session :=
  performed wideConfig (Digits.cycle [7]) .collect false .compiled [.startBlock "a" (.count 2), .enter "a"]

def nestedText : String :=
  "----var tmp1_7 = null;\n----try \x7b\n------eval( \"tmp1_7=(a\\\"b)\" );\n----\x7d catch (e) \x7b\n" ++
    "------this.$logError(M,[\"a\\\"b\",3,\"#EXPRESSION#\"], e);\n----\x7d\n"

theorem emitGuarded_scaffold_nested :
    let c : Statement := ⟨.text "#EXPRESSION#", .int 3, .text "", [], []⟩
    (∃ parts,
      emitGuarded (.text "a\"b") (some c) (.text "M") nestedTwice = .ok "tmp1_7" (nestedTwice.named.put 0 parts) ∧
        nestedTwice.buffer.Gains (nestedTwice.named.put 0 parts).buffer 0 nestedText) ∧
    Json.read "\"tmp1_7=(a\\\"b)\"" = .ok (.text "tmp1_7=(a\"b)") ∧
    Json.read "[\"a\\\"b\",3,\"#EXPRESSION#\"]" = .ok (.list [.text "a\"b", .int 3, .text "#EXPRESSION#"]) := by
  intro c
  have stem : Text.Bare wideConfig.nameStem := by decide
  have scaffolded := emitGuarded_scaffold wideConfig (Digits.cycle [7]) .collect false .compiled
    [.startBlock "a" (.count 2), .enter "a"] (c := c) stem rfl rfl "a\"b" "M"
  have next : nestedTwice.nextName = "tmp1_7" := by decide +kernel
  have lines : rendered (some "--") (scaffold 2 "tmp1_7" "a\"b" "M" 3 "#EXPRESSION#") = nestedText := by decide +kernel
  have fits (u : String) (given : nestedTwice.buffer.unit? = some u) :
      ∃ indent, (Level.count (2 + 1)).indent u = .ok indent := by
    obtain rfl : "--" = u := Option.some.inj given
    exact ⟨"------", by decide +kernel⟩
  obtain ⟨parts, ran, gains⟩ := scaffolded.1 0 2 rfl rfl (fun _ => rfl) fits
  have code := scaffolded.2.2.1
  have triple := scaffolded.2.2.2.2 (by decide)
  change emitGuarded (.text "a\"b") (some c) (.text "M") nestedTwice = .ok nestedTwice.nextName _ at ran
  change nestedTwice.buffer.Gains _ 0
    (rendered (some "--") (scaffold 2 nestedTwice.nextName "a\"b" "M" 3 "#EXPRESSION#")) at gains
  change Json.read (Text.literal (nestedTwice.nextName ++ "=(" ++ "a\"b" ++ ")")) =
    .ok (.text (nestedTwice.nextName ++ "=(" ++ "a\"b" ++ ")")) at code
  rw [next] at ran gains code
  rw [lines] at gains
  exact ⟨⟨parts, ran, gains⟩, code, triple⟩

end Session

end TemplateCompiler
