import TemplateCompiler.Proofs.Buffer.Operation

namespace TemplateCompiler

/-- Blocks are levels and texts. -/
structure Uncached where
  unit : Option String
  blocks : List (Level × String) := []
  names : List (String × Nat) := []
  active : Option Nat := none
  stack : List (Option Nat) := []

namespace Uncached

open Buffer (Operation)

def margin (u : Uncached) : Level → String
  | .count n => TemplateCompiler.margin u.unit (max n 0).toNat
  | .other _ => ""

def levelOf (u : Uncached) (i : Nat) : Level := (u.blocks[i]?.map Prod.fst).getD (.count 0)

def append (u : Uncached) (text : Level → String) : Except Fault Unit × Uncached :=
  match u.active with
  | none => (.error .noActiveBlock, u)
  | some i => (.ok (), { u with blocks := u.blocks.modify i fun block => (block.1, block.2 ++ text block.1) })

def shift (u : Uncached) (inward : Bool) : Except Fault Unit × Uncached :=
  if u.unit.getD "" = "" then (.ok (), u)
  else match u.active with
    | none => (.error .noActiveBlock, u)
    | some i => match (u.levelOf i).step inward with
      | .error fault => (.error fault, u)
      | .ok level => (.ok (), { u with blocks := u.blocks.modify i fun block => (level, block.2) })

def perform (u : Uncached) : Operation → Except Fault Unit × Uncached
  | .startBlock name level =>
    (.ok (), { u with blocks := u.blocks ++ [(level, "")], names := Ordered.put u.names name u.blocks.length })
  | .enter name => (.ok (), { u with stack := u.active :: u.stack, active := u.names.lookup name })
  | .leave => (.ok (), { u with active := u.stack.headD none, stack := u.stack.tail })
  | .write parts => u.append fun _ => String.join parts
  | .writeLine parts => u.append fun level => u.margin level ++ String.join parts ++ "\n"
  | .shift inward => u.shift inward
  | .setUnit unit => (.ok (), { u with unit })

def run (u : Uncached) (ops : List Operation) : Uncached := ops.foldl (fun u op => (u.perform op).2) u

def answers (u : Uncached) : List Operation → List (Except Fault Unit)
  | [] => []
  | op :: rest => (u.perform op).1 :: (u.perform op).2.answers rest

def content (u : Uncached) (name : String) : Except Fault String :=
  match u.names.lookup name with
  | some i => .ok ((u.blocks[i]?.map Prod.snd).getD "")
  | none => .error (.unknownBlock name)

end Uncached

namespace Buffer

variable {b : Buffer}

def forget (b : Buffer) : Uncached where
  unit := b.unit
  blocks := b.blocks.map fun block => (block.level, block.text)
  names := b.names
  active := b.active
  stack := b.stack

/-- The unit can be repeated as often as the level of the active block says. -/
def CanIndent (b : Buffer) : Prop := ∃ indent, b.renewal = .ok indent

instance (b : Buffer) : Decidable b.CanIndent :=
  match found : b.renewal with
  | .ok indent => .isTrue ⟨indent, found⟩
  | .error _ => .isFalse fun ⟨_, same⟩ => by rw [found] at same; cases same

def Operation.setsUnit : Operation → Bool
  | .setUnit _ => true
  | _ => false

/-- The unit is only set while no block is active, and can be repeated by every level that becomes the active one. -/
def Orderly (b : Buffer) : List Operation → Prop
  | [] => True
  | op :: rest => (op.setsUnit → b.active = none) ∧ (b.next op).CanIndent ∧ Orderly (b.next op) rest

instance Orderly.decide : (b : Buffer) → (ops : List Operation) → Decidable (b.Orderly ops)
  | _, [] => .isTrue trivial
  | b, op :: rest =>
    have : Decidable ((b.next op).Orderly rest) := Orderly.decide (b.next op) rest
    inferInstanceAs (Decidable ((op.setsUnit → b.active = none) ∧ (b.next op).CanIndent ∧ (b.next op).Orderly rest))

/-! Renewing -/

theorem renewed_of_canIndent (can : b.renewed.CanIndent) : (∃ indent, b.renewal = .ok indent) ∧ b.renewed.InStep := by
  unfold renewed at can ⊢
  cases found : b.renewal with
  | error fault =>
    obtain ⟨indent, same⟩ := can
    simp only [found] at same
    cases same
  | ok indent => exact ⟨⟨indent, rfl⟩, renewal_with b found⟩

theorem forget_renewed (b : Buffer) : b.renewed.forget = b.forget := by
  obtain ⟨indent, same⟩ := renewed_eq b
  rw [same]
  rfl

theorem outcome_renewIndent {indent : String} (found : b.renewal = .ok indent) :
    Act.outcome renewIndent b = .ok () := by
  simp only [Act.outcome, renewIndent_eq, found]

/-! One operation does the same with and without the kept indent. -/

theorem forget_addBlock (b : Buffer) (name : String) (level : Level) :
    b.forget.perform (.startBlock name level) = (.ok (), (b.addBlock name level).forget) := by
  simp [Uncached.perform, forget, addBlock, Block.text]

theorem forget_push (b : Buffer) (name : String) :
    b.forget.perform (.enter name) = (.ok (), (b.push name).forget) := rfl

theorem forget_pop (b : Buffer) : b.forget.perform .leave = (.ok (), b.pop.forget) := by
  unfold pop
  cases stored : b.stack <;> simp [Uncached.perform, forget, stored]

theorem forget_appendTo (b : Buffer) (i : Nat) (pieces : List Value) (text : Level → String)
    (spelled : String.join (pieces.filterMap Value.text?) = text (b.levelOf i)) :
    (b.appendTo i pieces).forget =
      { b.forget with blocks := b.forget.blocks.modify i fun block => (block.1, block.2 ++ text block.1) } := by
  have blocks : (b.appendTo i pieces).forget.blocks =
      b.forget.blocks.modify i fun block => (block.1, block.2 ++ text block.1) := by
    refine List.ext_getElem? fun j => ?_
    simp only [forget, appendTo, List.getElem?_map, List.getElem?_modify]
    by_cases here : i = j
    · subst here
      cases stored : b.blocks[i]? with
      | none => simp
      | some block =>
        have level : b.levelOf i = block.level := by simp [levelOf, stored]
        simp [Block.text, spelled, level]
    · cases b.blocks[j]? <;> simp [here]
  rw [← blocks]
  rfl

theorem forget_setLevel (b : Buffer) (i : Nat) (level : Level) :
    (b.setLevel i level).forget =
      { b.forget with blocks := b.forget.blocks.modify i fun block => (level, block.2) } := by
  have blocks : (b.setLevel i level).forget.blocks = b.forget.blocks.modify i fun block => (level, block.2) := by
    refine List.ext_getElem? fun j => ?_
    simp only [forget, setLevel, List.getElem?_map, List.getElem?_modify]
    by_cases here : i = j
    · cases b.blocks[j]? <;> simp [here, Block.text]
    · cases b.blocks[j]? <;> simp [here]
  rw [← blocks]
  rfl

theorem InStep.margin {i : Nat} (inStep : b.InStep) (active : b.active = some i) :
    (if b.unit?.isSome then b.indent else "") = b.forget.margin (b.levelOf i) := by
  cases level : b.levelOf i with
  | count n =>
    have none : (max n 0).toNat = n.toNat := by omega
    rw [inStep.indent_eq active fun _ => level, Uncached.margin, none]
    rfl
  | other v =>
    cases enabled : b.unit? with
    | none => rfl
    | some u =>
      rw [InStep, renewal_of_active enabled active, level] at inStep
      cases inStep

theorem forget_written (b : Buffer) (pieces : List Value) (text : Level → String)
    (spelled : ∀ i, b.active = some i → String.join (pieces.filterMap Value.text?) = text (b.levelOf i)) :
    b.forget.append text = (Act.outcome (write pieces) b, (b.written pieces).forget) := by
  have same : b.forget.active = b.active := rfl
  cases active : b.active with
  | none => simp only [Uncached.append, Act.outcome, write_eq, written, same, active]
  | some i =>
    simp only [Uncached.append, Act.outcome, write_eq, written, same, active]
    rw [forget_appendTo b i pieces text (spelled i active)]
    simp only [same, active]

theorem InStep.written (inStep : b.InStep) (pieces : List Value) : (b.written pieces).InStep := by
  unfold Buffer.written
  cases active : b.active with
  | none => exact inStep
  | some i => exact inStep.congr rfl rfl rfl fun j _ => levelOf_appendTo b i pieces j

theorem forget_shift (b : Buffer) (inward : Bool) (can : (b.shifted inward).CanIndent) :
    b.forget.shift inward = (Act.outcome (shift inward) b, (b.shifted inward).forget) := by
  simp only [Uncached.shift, Act.outcome, shift_eq, shifted] at can ⊢
  have active : b.forget.active = b.active := rfl
  have level (i : Nat) : b.forget.levelOf i = b.levelOf i := by
    simp [Uncached.levelOf, levelOf, forget, Function.comp_def]
  rw [active]
  cases enabled : b.unit? with
  | none =>
    have unit : b.forget.unit.getD "" = "" := unit_getD_of_disabled enabled
    rw [if_pos unit]
    rfl
  | some u =>
    have unit : ¬ b.forget.unit.getD "" = "" := by
      obtain ⟨same, used⟩ := unit_of_enabled enabled
      simpa [forget, same] using used
    rw [if_neg unit]
    rw [enabled] at can
    cases current : b.active with
    | none => rfl
    | some i =>
      simp only [current, level, Option.isSome_some, ↓reduceIte] at can ⊢
      cases moved : (b.levelOf i).step inward with
      | error fault => rfl
      | ok next =>
        simp only [moved] at can
        obtain ⟨⟨indent, found⟩, -⟩ := renewed_of_canIndent can
        simp only [renewIndent_eq, found, forget_renewed, forget_setLevel, active, current]

theorem InStep.shifted (inStep : b.InStep) {inward : Bool} (can : (b.shifted inward).CanIndent) :
    (b.shifted inward).InStep := by
  rcases shifted_cases b inward with same | ⟨i, level, same⟩ <;> rw [same] at can ⊢
  · exact inStep
  · exact (renewed_of_canIndent can).2

theorem forget_next (valid : b.Valid) (inStep : b.InStep) {op : Operation}
    (idle : op.setsUnit → b.active = none) (can : (b.next op).CanIndent) :
    b.forget.perform op = (b.answer op, (b.next op).forget) ∧ (b.next op).InStep := by
  cases op with
  | startBlock name level =>
    refine ⟨forget_addBlock b name level, inStep.congr rfl rfl rfl fun i active => ?_⟩
    simp only [next_startBlock, addBlock, levelOf, List.getElem?_append_left (valid.active i active)]
  | enter name =>
    rw [next_enter] at can ⊢
    obtain ⟨⟨indent, found⟩, kept⟩ := renewed_of_canIndent can
    refine ⟨?_, kept⟩
    have fine : b.answer (.enter name) = .ok () := outcome_renewIndent found
    rw [forget_push, fine, forget_renewed]
  | leave =>
    rw [next_leave] at can ⊢
    obtain ⟨⟨indent, found⟩, kept⟩ := renewed_of_canIndent can
    refine ⟨?_, kept⟩
    have fine : b.answer .leave = .ok () := outcome_renewIndent found
    rw [forget_pop, fine, forget_renewed]
  | write parts =>
    rw [next_write]
    exact ⟨forget_written b (texts parts) (fun _ => String.join parts) fun i _ => by rw [texts_join], inStep.written _⟩
  | writeLine parts =>
    rw [next_writeLine]
    refine ⟨?_, inStep.written _⟩
    have answered : b.answer (.writeLine parts) =
        Act.outcome (write (b.lineStart ++ texts parts ++ [.text "\n"])) b := by
      simp only [answer, Operation.act, Act.outcome, writeLine_eq, write_eq]
    rw [answered]
    exact forget_written b _ (fun level => b.forget.margin level ++ String.join parts ++ "\n") fun i active => by
      rw [line_join, inStep.margin active]
  | shift inward =>
    rw [next_shift] at can ⊢
    exact ⟨forget_shift b inward can, inStep.shifted can⟩
  | setUnit unit => exact ⟨rfl, renewal_of_idle (idle rfl)⟩

/-- A run keeps the indent in step, and forgetting it before or after makes no difference. -/
theorem forget_run (valid : b.Valid) (inStep : b.InStep) {ops : List Operation} (orderly : b.Orderly ops) :
    b.forget.answers ops = b.answers ops ∧ b.forget.run ops = (b.run ops).forget ∧ (b.run ops).InStep := by
  induction ops generalizing b with
  | nil => exact ⟨rfl, rfl, inStep⟩
  | cons op rest ih =>
    obtain ⟨idle, can, later⟩ := orderly
    obtain ⟨same, kept⟩ := forget_next valid inStep idle can
    obtain ⟨answers, run, last⟩ := ih (valid.next op) kept later
    refine ⟨?_, ?_, last⟩
    · simp only [Uncached.answers, Buffer.answers, same, answers]
    · have step : b.forget.run (op :: rest) = (b.forget.perform op).2.run rest := rfl
      rw [step, same]
      exact run

theorem content_forget (valid : b.Valid) (name : String) : b.forget.content name = b.content name := by
  have found : b.forget.names.lookup name = b.find? name := rfl
  rw [valid.content_eq]
  unfold Uncached.content
  rw [found]
  cases b.find? name with
  | none => rfl
  | some i => simp [forget, textOf, Function.comp_def]

/-- Along every orderly run from a fresh buffer the kept indent is the unit as often as the level of the active block
    says, and the run cannot be told from one that keeps no indent. -/
theorem kept_indent (unit : Option String) (ops : List Operation) (orderly : Orderly { unit } ops) :
    let b := run { unit } ops
    (∀ u i, b.unit = some u → u ≠ "" → b.active = some i →
      ∃ n, b.levelOf i = .count n ∧ b.indent = margin (some u) (max n 0).toNat) ∧
    Uncached.answers { unit } ops = answers { unit } ops ∧
    Uncached.run { unit } ops = b.forget ∧
    ∀ name, (Uncached.run { unit } ops).content name = b.content name := by
  intro b
  have fresh : ({ unit } : Buffer).InStep := renewal_of_idle rfl
  obtain ⟨answers, run, inStep⟩ := forget_run (Valid.empty unit) fresh orderly
  have valid : b.Valid := (Valid.empty unit).run ops
  refine ⟨fun u i same used active => ?_, answers, run, fun name => ?_⟩
  · have enabled : b.unit? = some u := by simp [unit?, same, used]
    have renewal : b.renewal = .ok b.indent := inStep
    rw [renewal_of_active enabled active] at renewal
    obtain ⟨n, level, indent⟩ := Level.indent_ok renewal
    have times : (max n 0).toNat = n.toNat := by omega
    exact ⟨n, level, by rw [times, indent, margin_eq]; rfl⟩
  · have same : Uncached.run { unit } ops = b.forget := run
    rw [same, content_forget valid]

theorem kept_indent_redefined :
    let ops : List Operation := [.startBlock "a" (.count 1), .enter "a", .writeLine ["x"], .enter "b", .leave,
      .shift false, .shift false, .writeLine ["y"], .startBlock "a" (.count 3), .leave, .setUnit (some "\t"), .enter "a",
      .writeLine ["z"]]
    Orderly { unit := some "ab" } ops ∧ (run { unit := some "ab" } ops).content "a" = .ok "\t\t\tz\n" := by
  intro ops
  have orderly : Orderly { unit := some "ab" } ops := by decide
  exact ⟨orderly, ((kept_indent (some "ab") ops orderly).2.2.2 "a").symm⟩

end Buffer

end TemplateCompiler
