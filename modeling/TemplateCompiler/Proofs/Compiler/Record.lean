import TemplateCompiler.Proofs.Compiler.Composition
import TemplateCompiler.Proofs.Compiler.Template
import TemplateCompiler.Proofs.Session.Opening

namespace TemplateCompiler.Compiler

open Session

variable {s s' s'' : Session} {c : Statement} {definitions : List Statement}

/-- The statements that define macros, with one more of them if it is the first of its title. -/
def define (definitions : List Statement) (c : Statement) : List Statement :=
  if Grammar.directive c.nameText = .macroDefinition ∧ c.title ≠ "" ∧ ∀ d ∈ definitions, d.title ≠ c.title then
    definitions ++ [c]
  else definitions

def definitionsOf (statements : List Statement) : List Statement := statements.foldl define []

/-- Each definition has a slot and a block, and no other slots and blocks are there. -/
structure Recorded (definitions : List Statement) (s : Session) : Prop where
  slots : s.macros.entries = definitions.map fun c => (c.title, some ⟨some c⟩)
  blocks : s.buffer.names.map Prod.fst = definitions.map fun c => blockOf c.title
  titles : (definitions.map Statement.title).Nodup
  valid : s.buffer.Valid

/-- Everything that was recorded is still there, and is what it was. -/
structure Keeps (s s' : Session) : Prop where
  adds : Extends s s'
  slots : s.macros.entries <+: s'.macros.entries
  blocks : s.buffer.names.map Prod.fst <+: s'.buffer.names.map Prod.fst
  contents : ∀ name, s.buffer.has name → s'.buffer.has name ∧ s'.buffer.content name = s.buffer.content name

theorem Keeps.refl (s : Session) : Keeps s s :=
  ⟨.refl s, List.prefix_rfl, List.prefix_rfl, fun _ known => ⟨known, rfl⟩⟩

theorem Keeps.trans (first : Keeps s s') (second : Keeps s' s'') : Keeps s s'' where
  adds := first.adds.trans second.adds
  slots := first.slots.trans second.slots
  blocks := first.blocks.trans second.blocks
  contents name known := by
    obtain ⟨known', same⟩ := first.contents name known
    obtain ⟨known'', same'⟩ := second.contents name known'
    exact ⟨known'', same'.trans same⟩

namespace Recorded

theorem slot?_eq (recorded : Recorded definitions s) (name : String) :
    s.macros.slot? name = (definitions.find? fun d => name == d.title).map fun d => ⟨some d⟩ := by
  rw [Slots.slot?, recorded.slots, lookup_map_key Statement.title]
  cases definitions.find? fun d => name == d.title <;> rfl

theorem slot?_of_new (recorded : Recorded definitions s) (new : ∀ d ∈ definitions, d.title ≠ c.title) :
    s.macros.slot? c.title = none := by
  have missing : (definitions.find? fun d => c.title == d.title) = none := by
    rw [List.find?_eq_none]
    intro d member same
    exact new d member (beq_iff_eq.mp same).symm
  rw [recorded.slot?_eq, missing]
  rfl

theorem slot?_of_taken (recorded : Recorded definitions s) (taken : ¬ ∀ d ∈ definitions, d.title ≠ c.title) :
    ∃ first, s.macros.slot? c.title = some ⟨some first⟩ := by
  rw [recorded.slot?_eq]
  cases found : definitions.find? fun d => c.title == d.title with
  | some first => exact ⟨first, rfl⟩
  | none =>
    refine absurd (fun d member same => ?_) taken
    have other := List.find?_eq_none.mp found d member
    simp [same] at other

theorem has_iff (recorded : Recorded definitions s) (block : String) :
    s.buffer.has block ↔ ∃ c ∈ definitions, blockOf c.title = block := by
  rw [Buffer.has, Buffer.find?, Ordered.isSome_lookup, recorded.blocks, List.mem_map]

theorem names_eq (recorded : Recorded definitions s) : s.macros.names = definitions.map Statement.title := by
  rw [Slots.names, recorded.slots, List.map_map]
  rfl

theorem slot_of_block (recorded : Recorded definitions s) {block : String} (known : s.buffer.has block) :
    ∃! name, name ∈ s.macros.names ∧ blockOf name = block := by
  obtain ⟨c, member, rfl⟩ := (recorded.has_iff block).mp known
  refine ⟨c.title, ⟨?_, rfl⟩, fun other ⟨_, same⟩ => blockOf_injective same⟩
  rw [recorded.names_eq]
  exact List.mem_map_of_mem member

theorem block_of_slot (recorded : Recorded definitions s) {name : String} (known : name ∈ s.macros.names) :
    (∃ c ∈ definitions, c.title = name ∧ s.macros.slot? name = some ⟨some c⟩) ∧ s.buffer.has (blockOf name) := by
  rw [recorded.names_eq] at known
  obtain ⟨c, member, rfl⟩ := List.mem_map.mp known
  refine ⟨?_, (recorded.has_iff _).mpr ⟨c, member, rfl⟩⟩
  cases found : definitions.find? fun d => c.title == d.title with
  | none =>
    have other := List.find?_eq_none.mp found c member
    simp at other
  | some first =>
    have same : c.title = first.title := by simpa using List.find?_some found
    refine ⟨first, List.mem_of_find?_eq_some found, same.symm, ?_⟩
    rw [recorded.slot?_eq, found]
    rfl

theorem texts_of_blocks {b : Buffer} (valid : b.Valid) (known : ∀ c ∈ definitions, b.has (blockOf c.title)) :
    List.Forall₂ (fun c text => b.content (blockOf c.title) = .ok text) definitions
      (((definitions.map fun c => blockOf c.title).filterMap b.find?).map b.textOf) := by
  induction definitions with
  | nil => exact .nil
  | cons c rest ih =>
    obtain ⟨i, found⟩ := Option.isSome_iff_exists.mp (known c List.mem_cons_self)
    rw [List.map_cons, List.filterMap_cons_some found, List.map_cons]
    refine .cons ?_ (ih fun d member => known d (List.mem_cons_of_mem c member))
    rw [valid.content_eq, found]

theorem classText (recorded : Recorded definitions s) :
    ∃ texts, List.Forall₂ (fun c text => s.buffer.content (blockOf c.title) = .ok text) definitions texts ∧
      ∀ classpath, Compiler.classText classpath s = .ok
        ("Aria.classDefinition(\x7b\n $classpath: " ++ classpath.json ++ ",\n" ++
          rendered none (Layout.declarationLines s.config.dependenciesKeyword s.references.toList) ++
          " $prototype: \x7b\n" ++ ended (Text.dropEndNewlines (String.join texts)) ++ " \x7d\n\x7d);\n") s := by
  have known : ∀ c ∈ definitions, s.buffer.has (blockOf c.title) :=
    fun c member => (recorded.has_iff _).mpr ⟨c, member, rfl⟩
  refine ⟨_, texts_of_blocks recorded.valid known, fun classpath => ?_⟩
  have bodies := macroBodies_of_valid recorded.valid s.macros
  rw [recorded.names_eq, List.map_map] at bodies
  rw [Compiler.classText, Act.get_bind, bodies, ← join_classLines]
  rfl

/-! A block more -/

section

variable (recorded : Recorded definitions s) (new : ∀ d ∈ definitions, d.title ≠ c.title)

include recorded new

theorem unknown_block : s.buffer.find? (blockOf c.title) = none := by
  refine Option.not_isSome_iff_eq_none.mp fun known => ?_
  obtain ⟨d, member, block⟩ := (recorded.has_iff _).mp known
  exact new d member (blockOf_injective block)

variable {s₂ : Session} (opens : Opens (blockOf c.title) s₂ s') (buffer : s₂.buffer = s.buffer)
  (slots : s₂.macros.entries = (definitions ++ [c]).map fun c => (c.title, some ⟨some c⟩))

include opens buffer

theorem names_opened : s'.buffer.names = s.buffer.names ++ [(blockOf c.title, s.buffer.blocks.length)] := by
  rw [opens.names, buffer, Ordered.put_of_missing (recorded.unknown_block new)]

include slots

theorem opened : Recorded (definitions ++ [c]) s' where
  slots := by rw [opens.macros, slots]
  blocks := by
    rw [recorded.names_opened new opens buffer, List.map_append, List.map_append, recorded.blocks]
    rfl
  titles := by
    rw [List.map_append, List.nodup_append]
    refine ⟨recorded.titles, by simp, fun title member other last => ?_⟩
    obtain ⟨d, among, rfl⟩ := List.mem_map.mp member
    rw [List.mem_singleton.mp last]
    exact new d among
  valid := opens.valid

theorem keeps_opened (noted : Extends s s₂) : Keeps s s' where
  adds := noted.trans opens.adds
  slots := by
    rw [opens.macros, slots, List.map_append, recorded.slots]
    exact List.prefix_append _ _
  blocks := by
    rw [recorded.names_opened new opens buffer, List.map_append]
    exact List.prefix_append _ _
  contents name known := by
    obtain ⟨i, here⟩ := Option.isSome_iff_exists.mp known
    have different : name ≠ blockOf c.title := by
      rintro rfl
      rw [recorded.unknown_block new] at here
      cases here
    have found : s'.buffer.find? name = some i := by
      rw [Buffer.find?, opens.names, Ordered.lookup_put, if_neg different, buffer]
      exact here
    have text := opens.texts i (buffer ▸ recorded.valid.names name i here)
    rw [buffer] at text
    refine ⟨by rw [Buffer.has, found]; rfl, ?_⟩
    rw [opens.valid.content_eq, recorded.valid.content_eq, found, here]
    exact congrArg Except.ok text

end

end Recorded

/-! One statement -/

/-- The operation ends with the definitions recorded and everything kept, however it ends. If it does not fail, no block
    is active in the end. -/
structure Records (definitions : List Statement) (act : Session.Act Unit) (s : Session) : Prop where
  recorded : Recorded definitions (Act.final act s)
  keeps : Keeps s (Act.final act s)
  idle : ∀ s', act s = .ok () s' → s'.buffer.active = none

theorem Records.congr {act act' : Session.Act Unit} (records : Records definitions act s) (same : act' s = act s) :
    Records definitions act' s := by
  have final : Act.final act' s = Act.final act s := by rw [Act.final, Act.final, same]
  refine ⟨?_, ?_, fun s' ran => records.idle s' (same.symm.trans ran)⟩
  · rw [final]
    exact records.recorded
  · rw [final]
    exact records.keeps

theorem title_of_textFor {operation text : String} (found : textFor operation c.param = .ok text) :
    Text.trim text = c.title := by
  rw [Statement.title, Statement.paramText]
  cases given : c.param with
  | text _ =>
    rw [given] at found
    cases found
    rfl
  | _ =>
    rw [given] at found
    cases found

theorem title_of_fault {operation : String} {fault : Fault} (found : textFor operation c.param = .error fault) :
    c.title = "" := by
  rw [Statement.title, Statement.paramText]
  cases given : c.param with
  | text _ =>
    rw [given] at found
    cases found
  | _ => rfl

theorem define_of_untitled (untitled : c.title = "") : define definitions c = definitions :=
  if_neg fun all => all.2.1 untitled

theorem define_of_other (other : Grammar.directive c.nameText ≠ .macroDefinition) :
    define definitions c = definitions := if_neg fun all => other all.1

section

variable (recorded : Recorded definitions s) (idle : s.buffer.active = none)

include recorded idle

theorem records_of_aside {act : Session.Act Unit} (aside : Aside act) : Records definitions act s := by
  have buffer := aside.blind.untouched s
  have macros := aside.macros s
  refine ⟨⟨?_, ?_, recorded.titles, ?_⟩, ⟨aside.adds s, ?_, ?_, fun name known => ?_⟩, fun s' ran => ?_⟩
  · rw [macros]
    exact recorded.slots
  · rw [buffer]
    exact recorded.blocks
  · rw [buffer]
    exact recorded.valid
  · simp only [macros, List.prefix_rfl]
  · simp only [buffer, List.prefix_rfl]
  · rw [buffer]
    exact ⟨known, rfl⟩
  · rw [Act.final, ran] at buffer
    exact (congrArg Buffer.active buffer).trans idle

omit idle in
theorem defineMacro_of_new (new : ∀ d ∈ definitions, d.title ≠ c.title) (body : Session.Act Unit) :
    ∃ s₂, defineMacro c body s = macroBlock c.title body s₂ ∧ Extends s s₂ ∧ s₂.buffer = s.buffer ∧
      s₂.macros.entries = (definitions ++ [c]).map fun c => (c.title, some ⟨some c⟩) := by
  have missing := recorded.slot?_of_new new
  have free : s.macros.entries.lookup c.title = none := by
    rw [recorded.slots, lookup_map_key Statement.title, Option.map_eq_none_iff, List.find?_eq_none]
    exact fun d member same => new d member (beq_iff_eq.mp same).symm
  let s₁ : Session := { s with
    macros := ⟨Ordered.put s.macros.entries c.title (some {}), s.macros.calls + 1⟩
    notes := s.notes ++ [.macroSlotMade c.title] }
  have made : s₁.macros.slot? c.title = some {} := by
    rw [Slots.slot?, Ordered.lookup_put, if_pos rfl]
    rfl
  have noted : Extends s s₁ := { Extends.refl s with notes := List.prefix_append _ _ }
  refine ⟨{ s₁ with macros := s₁.macros.put c.title ⟨some c⟩ }, ?_, { noted with }, rfl, ?_⟩
  · rw [defineMacro, Act.bind_of_ok (macroSlot_of_missing missing)]
    exact Act.bind_of_ok (setMacro_of_made made (some c)) _
  · change Ordered.put (Ordered.put s.macros.entries c.title (some {})) c.title (some ⟨some c⟩) = _
    rw [Ordered.put_put, Ordered.put_of_missing free, recorded.slots, List.map_append]
    rfl

theorem records_defineMacro_new (new : ∀ d ∈ definitions, d.title ≠ c.title) {body : Session.Act Unit}
    (inner : Inside 1 body) : Records (definitions ++ [c]) (defineMacro c body) s := by
  obtain ⟨s₂, same, noted, buffer, slots⟩ := defineMacro_of_new recorded new body
  have block : macroBlock c.title body = (do
      startBlock (blockOf c.title) (.count (2 : Nat))
      within (blockOf c.title) (macroFrame c.title body)) := rfl
  obtain ⟨opens, left⟩ :=
    (inside_macroFrame c.title inner).opens (buffer ▸ recorded.valid) (blockOf c.title) 2
  rw [← block] at opens left
  have final : Act.final (defineMacro c body) s = Act.final (macroBlock c.title body) s₂ := by
    rw [Act.final, Act.final, same]
  refine ⟨?_, ?_, fun s' ran => ?_⟩
  · rw [final]
    exact recorded.opened new opens buffer slots
  · rw [final]
    exact recorded.keeps_opened new opens buffer slots noted
  · rw [same] at ran
    rw [left s' ran, buffer]
    exact idle

theorem records_compileMacro (kind : Grammar.directive c.nameText = .macroDefinition) {body : Session.Act Unit}
    (inner : Inside 1 body) : Records (define definitions c) (compileMacro c body) s := by
  have ready := isReady_of_idle idle
  cases param : textFor "strip" c.param with
  | error fault =>
    have refused : compileMacro c body s = .error fault s := by
      rw [compileMacro, Act.bind_of_ok ready, if_neg Bool.false_ne_true, param]
      rfl
    rw [define_of_untitled (title_of_fault param)]
    exact (records_of_aside recorded idle (aside_throw fault)).congr refused
  | ok text =>
    have run : compileMacro c body s =
        (if c.title = "" then reject c Report.missingParameter else defineMacro c body) s := by
      rw [compileMacro, Act.bind_of_ok ready, if_neg Bool.false_ne_true, param]
      refine (Act.bind_of_ok (Act.ofExcept_ok text s) _).trans ?_
      rw [title_of_textFor param]
      rfl
    by_cases untitled : c.title = ""
    · rw [if_pos untitled] at run
      rw [define_of_untitled untitled]
      exact (records_of_aside recorded idle (aside_reject c _)).congr run
    · rw [if_neg untitled] at run
      by_cases new : ∀ d ∈ definitions, d.title ≠ c.title
      · have same : define definitions c = definitions ++ [c] := if_pos ⟨kind, untitled, new⟩
        rw [same]
        exact (records_defineMacro_new recorded idle new inner).congr run
      · have same : define definitions c = definitions := if_neg fun all => new all.2.2
        obtain ⟨first, slot⟩ := recorded.slot?_of_taken new
        have again : defineMacro c body s =
            reportError (some c) Report.macroAlreadyDefined (.list [.text c.title, first.line]) s := by
          rw [defineMacro, Act.bind_of_ok (macroSlot_of_made slot)]
        rw [same]
        exact (records_of_aside recorded idle (aside_reportError _ _ _)).congr (run.trans again)

theorem records_compile (c : Statement) : Records (define definitions c) (compile c) s := by
  have ready := isReady_of_idle idle
  cases found : directive? c.name with
  | error fault =>
    have refused : compile c s = .error fault s := by
      obtain ⟨name, line, param, content, properties⟩ := c
      rw [compile, found]
      rfl
    have other : Grammar.directive c.nameText ≠ .macroDefinition := by
      intro kind
      have named := Statement.name_of_directive (by rw [kind]; decide)
      rw [named, Grammar.directive?_text] at found
      cases found
    rw [define_of_other other]
    exact (records_of_aside recorded idle (aside_throw fault)).congr refused
  | ok kind =>
    have same := Statement.directive_of_ok found
    have run := congrFun (compile_of_ok found) s
    cases kind with
    | text =>
      have refused : compileText c s = reject c Report.statementNotAllowed s := by
        rw [compileText, Act.bind_of_ok ready, if_neg Bool.false_ne_true]
      rw [define_of_other (by rw [same]; decide)]
      exact (records_of_aside recorded idle (aside_reject c _)).congr (run.trans refused)
    | expression =>
      have refused : compileExpression c s = reject c Report.statementNotAllowed s := by
        rw [compileExpression, Act.bind_of_ok ready, if_neg Bool.false_ne_true]
      rw [define_of_other (by rw [same]; decide)]
      exact (records_of_aside recorded idle (aside_reject c _)).congr (run.trans refused)
    | macroDefinition => exact (records_compileMacro recorded idle same (inside_compileAll c.content)).congr run
    | dependency =>
      rw [define_of_other (by rw [same]; decide)]
      exact (records_of_aside recorded idle (aside_compileDependency c)).congr run
    | unknown =>
      rw [define_of_other (by rw [same]; decide)]
      exact (records_of_aside recorded idle (aside_reportWarning _ _ _)).congr run

theorem records_compileAll (statements : List Statement) :
    ∃ done, done <+: statements ∧ Records (done.foldl define definitions) (compileAll (statements.map some)) s ∧
      ∀ s', compileAll (statements.map some) s = .ok () s' → done = statements := by
  induction statements generalizing s definitions with
  | nil =>
    refine ⟨[], List.prefix_rfl, ?_, fun _ _ => rfl⟩
    rw [List.map_nil, compileAll]
    exact records_of_aside recorded idle (aside_pure ())
  | cons c rest ih =>
    have first := records_compile recorded idle c
    rw [List.map_cons, compileAll, compilePlace]
    cases ran : compile c s with
    | error fault s₁ =>
      refine ⟨[c], ⟨rest, rfl⟩, first.congr ((Act.bind_of_error ran _).trans ran.symm), fun s' ended => ?_⟩
      rw [Act.bind_of_error ran] at ended
      cases ended
    | ok _ s₁ =>
      obtain ⟨recorded₁, keeps₁, idle₁⟩ := first
      rw [Act.final, ran] at recorded₁ keeps₁
      obtain ⟨done, early, others, whole⟩ := ih recorded₁ (idle₁ s₁ ran)
      have later := Act.bind_of_ok ran fun _ => compileAll (rest.map some)
      have final : Act.final (do compile c; compileAll (rest.map some)) s =
          Act.final (compileAll (rest.map some)) s₁ := Act.final_bind_of_ok ran _
      refine ⟨c :: done, (List.prefix_cons_inj c).mpr early, ⟨?_, ?_, fun s' ended => ?_⟩, fun s' ended => ?_⟩
      · rw [final]
        exact others.recorded
      · rw [final]
        exact keeps₁.trans others.keeps
      · exact others.idle s' (later.symm.trans ended)
      · rw [whole s' (later.symm.trans ended)]

end

theorem recorded_fresh (config : Config) (digits : Digits) (sink : Sink) :
    Recorded [] (Session.fresh config digits sink) :=
  ⟨rfl, rfl, List.nodup_nil, .empty _⟩

/-- Statements that are compiled after others take nothing back: what those left is still there, slot for slot and block
    for block. All along, slots and blocks are those of the macros in the order in which they were first defined, each
    with its first definition, and the class has each of their blocks once. -/
theorem session_append_only (config : Config) (digits : Digits) (sink : Sink) (xs ys : List Statement)
    (settled : (∃ s, compileAll (xs.map some) (Session.fresh config digits sink) = .ok () s) ∨
      ¬ TooLong config.indentUnit) :
    let s := Act.final (compileAll (xs.map some)) (Session.fresh config digits sink)
    let s' := Act.final (compileAll (ys.map some)) s
    Keeps s s' ∧
    ∃ dx dy, dx <+: xs ∧ dy <+: ys ∧
      (∀ s, compileAll (xs.map some) (Session.fresh config digits sink) = .ok () s → dx = xs) ∧
      (∀ s'', compileAll (ys.map some) s = .ok () s'' → dy = ys) ∧
      Recorded (definitionsOf dx) s ∧ Recorded (definitionsOf (dx ++ dy)) s' ∧
      (∀ name ∈ s'.macros.names, (∃ c ∈ definitionsOf (dx ++ dy), c.title = name ∧
        s'.macros.slot? name = some ⟨some c⟩) ∧ s'.buffer.has ("macro_" ++ name)) ∧
      (∀ block, s'.buffer.has block → ∃! name, name ∈ s'.macros.names ∧ "macro_" ++ name = block) ∧
      ∃ texts, List.Forall₂ (fun c text => s'.buffer.content ("macro_" ++ c.title) = .ok text)
          (definitionsOf (dx ++ dy)) texts ∧
        ∀ classpath, classText classpath s' = .ok
          ("Aria.classDefinition(\x7b\n $classpath: " ++ classpath.json ++ ",\n" ++
            rendered none (Layout.declarationLines s'.config.dependenciesKeyword s'.references.toList) ++
            " $prototype: \x7b\n" ++ ended (Text.dropEndNewlines (String.join texts)) ++ " \x7d\n\x7d);\n") s' := by
  intro s s'
  obtain ⟨dx, early, first, whole⟩ := records_compileAll (recorded_fresh config digits sink) rfl xs
  have idle : s.buffer.active = none := by
    rcases settled with ⟨last, ran⟩ | short
    · have ended : s = last := by simp only [s, Act.final, ran]
      rw [ended]
      exact first.idle last ran
    · have starts : Regime.outside.starts (Session.fresh config digits sink).buffer := ⟨rfl, short⟩
      exact ((outside_compileAll _).allows _ starts).2.active
  obtain ⟨dy, early', second, whole'⟩ := records_compileAll first.recorded idle ys
  have recorded : Recorded (definitionsOf (dx ++ dy)) s' := by
    rw [definitionsOf, List.foldl_append]
    exact second.recorded
  exact ⟨second.keeps, dx, dy, early, early', whole, whole', first.recorded, recorded,
    fun name => recorded.block_of_slot, fun block => recorded.slot_of_block, recorded.classText⟩

def earlier : List Statement :=
  [⟨.text "macro", .int 1, .text "main", [some ⟨.text "#TEXT#", .int 2, .text "Hi", [], []⟩], []⟩]

def later : List Statement :=
  [⟨.text "macro", .int 3, .text " main ", [], []⟩, ⟨.text "macro", .int 4, .text "bye", [], []⟩]

theorem session_append_only_redefined :
    let s := Act.final (compileAll (earlier.map some)) (Session.fresh {} (fun _ => 3) .collect)
    let s' := Act.final (compileAll (later.map some)) s
    Keeps s s' ∧ s'.macros.names = ["main", "bye"] ∧ s'.failed = true ∧
      s'.buffer.content "macro_main" = s.buffer.content "macro_main" := by
  intro s s'
  have short : ¬ TooLong ({} : Config).indentUnit := by
    rintro ⟨u, given, long⟩
    have fits := short_default u given
    omega
  obtain ⟨keeps, -⟩ := session_append_only {} (fun _ => 3) .collect earlier later (.inr short)
  exact ⟨keeps, by decide +kernel, by decide +kernel, (keeps.contents "macro_main" (by decide +kernel)).2⟩

end TemplateCompiler.Compiler
