import TemplateCompiler.Proofs.Compiler.Composition

namespace TemplateCompiler.Compiler

open Session Regime

theorem untouched_classText (classpath : Value) : Untouched (classText classpath) :=
  untouched_get.bind fun _ => (untouched_ofExcept _).bind fun _ => untouched_get.bind fun _ => untouched_pure _

theorem allows_compileTemplate (statements : List Statement) (classpath : Value) :
    outside.Allows (compileTemplate statements classpath) := by
  have finished : Untouched (do
      if (← get).failed then
        note (.generationFailed classpath.plain)
        return none
      else return some (← classText classpath) : Session.Act (Option String)) := by
    refine untouched_get.bind fun s => ?_
    split
    · exact (untouched_note _).bind fun _ => untouched_pure _
    · exact (untouched_classText classpath).bind fun _ => untouched_pure _
  refine (outside_compileAll _).allows.bind fun _ => allows_of_untouched ?_
  refine untouched_get.bind fun s => ?_
  dsimp only
  split
  · exact (aside_reportWarning _ _ _).blind.untouched.bind fun _ => finished
  · exact finished

end TemplateCompiler.Compiler

namespace TemplateCompiler

/-- Levels by which the unit can be repeated: that of the active block and the one further in or, where no block is
    active, those of a macro. -/
def Buffer.Roomy (b : Buffer) : Prop := b.Ample 1 ∧ (b.active = none → ¬ TooLong b.unit)

namespace Compiler

open Session Regime

theorem compilePlace_frame (place : Option Statement) {s : Session} (roomy : s.buffer.Roomy) :
    Along (outside.passes s.buffer) (compilePlace place) s ∧
      Buffer.Returns s.buffer (Act.final (compilePlace place) s).buffer := by
  cases active : s.buffer.active with
  | none => exact (outside_compilePlace place).allows s ⟨active, roomy.2 active⟩
  | some i =>
    have start : (inside 1).starts s.buffer := ⟨by rw [Buffer.isReady, active]; rfl, roomy.1⟩
    obtain ⟨along, returns⟩ := (inside_compilePlace place).allows s start
    refine ⟨along.mono fun b places => ?_, returns⟩
    have depth : b.depth = s.buffer.depth := congrArg List.length places.stack
    exact Nat.le_trans (Nat.le_of_eq depth) (Nat.le_succ _)

/-- Whatever is compiled, and whether or not it fails, navigation is what it was before, and never was more than one
    block deeper. So a template ends outside of all blocks, and every block it made has a content. -/
theorem compile_keeps_navigation :
    (∀ (place : Option Statement) (s : Session), s.buffer.Roomy →
      let b' := (Act.final (compilePlace place) s).buffer
      b'.active = s.buffer.active ∧ b'.stack = s.buffer.stack ∧
        (∀ i < s.buffer.blocks.length, b'.levelOf i = s.buffer.levelOf i) ∧ (s.buffer.InStep → b'.InStep) ∧
        Along (fun b => b.depth ≤ s.buffer.depth + 1) (compilePlace place) s) ∧
    ∀ (config : Config) (digits : Digits) (sink : Sink) (statements : List Statement) (classpath : Value),
      ¬ TooLong config.indentUnit →
      let b := (Act.final (compileTemplate statements classpath) (Session.fresh config digits sink)).buffer
      b.depth = 0 ∧ b.active = none ∧ ∀ name, b.has name → ∃ text, b.content name = .ok text := by
  refine ⟨fun place s roomy => ?_, fun config digits sink statements classpath short => ?_⟩
  · obtain ⟨along, returns⟩ := compilePlace_frame place roomy
    exact ⟨returns.active, returns.stack, returns.levels, returns.inStep, along⟩
  · let s := Session.fresh config digits sink
    obtain ⟨along, returns⟩ := allows_compileTemplate statements classpath s ⟨rfl, short⟩
    -- no operation on the way leaves anything but texts in a block
    have valid := along.preserves (Q := Buffer.Valid) (fun _ op _ _ valid => valid.next op)
      (Buffer.Valid.empty config.indentUnit)
    refine ⟨congrArg List.length returns.stack, returns.active, fun name known => ?_⟩
    obtain ⟨i, found⟩ := Option.isSome_iff_exists.mp known
    exact ⟨_, by rw [valid.content_eq, found]⟩

theorem compile_keeps_navigation_refused :
    let entered : Buffer :=
      { unit := some " ", blocks := [{ level := .count 2 }], names := [("a", 0)], active := some 0, indent := "  " }
    let s : Session := { Session.fresh {} (fun _ => 0) .collect with buffer := entered }
    let place : Option Statement := some ⟨.text "macro", .int 1, .int 7, [none], []⟩
    let s' := Act.final (compilePlace place) s
    s'.failed = true ∧ s'.buffer.active = some 0 ∧ s'.buffer.InStep := by
  intro entered s place s'
  have inStep : entered.InStep := rfl
  have writing : entered.Writing 0 2 := ⟨rfl, by decide, fun _ => rfl, inStep⟩
  have short : ¬ TooLong (some " ") := by
    rintro ⟨u, unit, long⟩
    cases unit
    exact absurd long (by decide)
  have roomy : s.buffer.Roomy := ⟨writing.ample (by decide) short, fun _ => short⟩
  obtain ⟨active, -, -, kept, -⟩ := compile_keeps_navigation.1 place s roomy
  exact ⟨by decide, active, kept inStep⟩

end Compiler

end TemplateCompiler
