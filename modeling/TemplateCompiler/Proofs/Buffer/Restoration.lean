import TemplateCompiler.Proofs.Buffer.Growth
import TemplateCompiler.Proofs.Buffer.Uncached

namespace TemplateCompiler

theorem Level.step_back {level next : Level} {unit indent : String} (moved : level.step true = .ok next)
    (fits : next.indent unit = .ok indent) : next.step false = .ok level := by
  obtain ⟨n, rfl, -⟩ := Level.indent_ok fits
  cases level with
  | count m =>
    simp only [Level.step, ↓reduceIte, Except.ok.injEq, Level.count.injEq] at moved
    simp [Level.step, ← moved]
  | other v => cases v <;> cases moved

namespace Buffer

variable {b b₁ b₂ b₃ : Buffer} {i k : Nat}

/-- The same block is active on the same stack, at the same level, and so are the levels of all blocks that were there.
    The indent is what it was, or has been renewed. -/
structure Returns (b b' : Buffer) : Prop where
  unit : b'.unit = b.unit
  active : b'.active = b.active
  stack : b'.stack = b.stack
  grown : b.blocks.length ≤ b'.blocks.length
  levels : ∀ i < b.blocks.length, b'.levelOf i = b.levelOf i
  current : ∀ i, b.active = some i → b'.levelOf i = b.levelOf i
  indent : b'.indent = b.indent ∨ b'.InStep

namespace Returns

theorem refl (b : Buffer) : Returns b b := ⟨rfl, rfl, rfl, Nat.le_refl _, fun _ _ => rfl, fun _ _ => rfl, .inl rfl⟩

theorem inStep (returns : Returns b b₁) (inStep : b.InStep) : b₁.InStep := by
  rcases returns.indent with same | renewed
  · exact inStep.congr returns.unit returns.active same returns.current
  · exact renewed

theorem trans (first : Returns b b₁) (second : Returns b₁ b₂) : Returns b b₂ where
  unit := second.unit.trans first.unit
  active := second.active.trans first.active
  stack := second.stack.trans first.stack
  grown := Nat.le_trans first.grown second.grown
  levels i known := (second.levels i (Nat.lt_of_lt_of_le known first.grown)).trans (first.levels i known)
  current i active := (second.current i (first.active.trans active)).trans (first.current i active)
  indent := by
    rcases first.indent with same | renewed
    · exact second.indent.imp_left fun same' => same'.trans same
    · exact .inr (second.inStep renewed)

theorem addBlock (known : ∀ i, b.active = some i → i < b.blocks.length) (name : String) (level : Level) :
    Returns b (b.addBlock name level) := by
  have levels (i : Nat) (known : i < b.blocks.length) : (b.addBlock name level).levelOf i = b.levelOf i := by
    simp only [Buffer.addBlock, levelOf, List.getElem?_append_left known]
  exact ⟨rfl, rfl, rfl, by simp [Buffer.addBlock], levels, fun i active => levels i (known i active), .inl rfl⟩

theorem appendTo (b : Buffer) (i : Nat) (pieces : List Value) : Returns b (b.appendTo i pieces) := by
  have levels (j : Nat) := levelOf_appendTo b i pieces j
  exact ⟨rfl, rfl, rfl, by simp [Buffer.appendTo], fun j _ => levels j, fun j _ => levels j, .inl rfl⟩

theorem written (b : Buffer) (pieces : List Value) : Returns b (b.written pieces) := by
  unfold Buffer.written
  split
  · exact appendTo b _ pieces
  · exact refl b

end Returns

def shiftsTo (b : Buffer) (inward : Bool) : Option Buffer :=
  if b.unit?.isSome then b.active.bind fun i => ((b.levelOf i).step inward).toOption.map (b.setLevel i) else none

def CanShift (b : Buffer) (inward : Bool) : Prop := ∀ b' ∈ b.shiftsTo inward, b'.CanIndent

instance (b : Buffer) (inward : Bool) : Decidable (b.CanShift inward) :=
  inferInstanceAs (Decidable (∀ b' ∈ b.shiftsTo inward, b'.CanIndent))

theorem renewIndent_of_ok (renewed : renewIndent b = .ok () b₁) :
    ∃ indent, b.renewal = .ok indent ∧ b₁ = { b with indent } := by
  rw [renewIndent_eq] at renewed
  cases renewal : b.renewal with
  | error fault =>
    rw [renewal] at renewed
    cases renewed
  | ok indent =>
    rw [renewal] at renewed
    cases renewed
    exact ⟨indent, rfl, rfl⟩

theorem shift_of_ok {inward : Bool} (shifted : shift inward b = .ok () b₁) :
    b.unit? = none ∧ b₁ = b ∨
      ∃ u i level indent, b.unit? = some u ∧ b.active = some i ∧ (b.levelOf i).step inward = .ok level ∧
        (b.setLevel i level).renewal = .ok indent ∧ b₁ = b.moved i level indent := by
  rw [shift_eq] at shifted
  cases enabled : b.unit? with
  | none =>
    rw [enabled] at shifted
    cases shifted
    exact .inl ⟨rfl, rfl⟩
  | some u =>
    simp only [enabled, Option.isSome_some, ↓reduceIte] at shifted
    cases active : b.active with
    | none =>
      rw [active] at shifted
      cases shifted
    | some i =>
      simp only [active] at shifted
      cases step : (b.levelOf i).step inward with
      | error fault =>
        rw [step] at shifted
        cases shifted
      | ok level =>
        rw [step] at shifted
        obtain ⟨indent, renewal, same⟩ := renewIndent_of_ok shifted
        exact .inr ⟨u, i, level, indent, rfl, rfl, step, renewal, same⟩

theorem levelOf_setLevel_other {j : Nat} (other : i ≠ j) (level : Level) :
    (b.setLevel i level).levelOf j = b.levelOf j := by
  simp [levelOf, setLevel, other]

theorem setLevel_of_unknown (unknown : b.blocks.length ≤ i) (level : Level) : b.setLevel i level = b := by
  simp only [setLevel, List.modify_eq_self unknown]

theorem levelOf_of_unknown (unknown : b.blocks.length ≤ i) : b.levelOf i = .count 0 := by
  simp [levelOf, unknown]

theorem stack_of_enter {name : String} (entered : enter name b = .ok () b₁) : b₁.stack = b.active :: b.stack := by
  obtain ⟨indent, -, rfl⟩ := renewIndent_of_ok entered
  rfl

theorem pop_of_stack {before : Option Nat} {rest : List (Option Nat)} (stack : b.stack = before :: rest) :
    b.pop = { b with active := before, stack := rest } := by
  simp only [pop, stack]

theorem Returns.within {name : String} (known : ∀ i, b.active = some i → i < b.blocks.length)
    (entered : enter name b = .ok () b₁) (body : Returns b₁ b₂) (can : b₂.pop.CanIndent) :
    ∃ b₃, leave b₂ = .ok () b₃ ∧ Returns b b₃ := by
  obtain ⟨opened, -, rfl⟩ := renewIndent_of_ok entered
  obtain ⟨indent, renewal⟩ := can
  have left : leave b₂ = .ok () { b₂.pop with indent } := by rw [leave_eq, renewIndent_eq, renewal]
  have stack : b₂.stack = b.active :: b.stack := body.stack
  have popped := pop_of_stack stack
  have levels (i : Nat) (old : i < b.blocks.length) : b₂.pop.levelOf i = b.levelOf i := by
    rw [popped]
    exact body.levels i old
  refine ⟨_, left, ?_, ?_, ?_, ?_, levels, fun i active => levels i (known i active), .inr (renewal_with _ renewal)⟩
  · rw [popped]
    exact body.unit
  · rw [popped]
  · rw [popped]
  · rw [popped]
    exact body.grown

theorem step_out {u indent : String} {level : Level} (known : i < b₂.blocks.length → i < b.blocks.length)
    (active : b.active = some i) (step : (b.levelOf i).step true = .ok level)
    (fits : ((b.setLevel i level).levelOf i).indent u = .ok indent) (body : Returns (b.moved i level indent) b₂) :
    ∃ outer, (b₂.levelOf i).step false = .ok outer ∧
      ∀ j, j < b.blocks.length ∨ j = i → (b₂.setLevel i outer).levelOf j = b.levelOf j := by
  have grown : b.blocks.length ≤ b₂.blocks.length := by simpa [moved, setLevel] using body.grown
  by_cases old : i < b.blocks.length
  · rw [levelOf_setLevel old] at fits
    have inside : b₂.levelOf i = level := by rw [body.current i active, levelOf_moved old]
    refine ⟨b.levelOf i, by rw [inside]; exact Level.step_back step fits, fun j among => ?_⟩
    by_cases here : i = j
    · rw [← here]
      exact levelOf_setLevel (Nat.lt_of_lt_of_le old grown) _
    · have known := among.resolve_right (Ne.symm here)
      have same := body.levels j (by simpa [moved, setLevel] using known)
      rw [levelOf_setLevel_other here, same]
      exact levelOf_setLevel_other here level
  · -- a block that is not there keeps no level
    have unknown : b.blocks.length ≤ i := Nat.le_of_not_lt old
    have unknown' : b₂.blocks.length ≤ i := Nat.le_of_not_lt (mt known old)
    refine ⟨.count (0 - 1), by rw [levelOf_of_unknown unknown']; rfl, fun j among => ?_⟩
    rw [setLevel_of_unknown unknown']
    rcases among with known | rfl
    · have same := body.levels j (by simpa [moved, setLevel] using known)
      rw [same, moved, setLevel_of_unknown unknown]
      rfl
    · rw [levelOf_of_unknown unknown, levelOf_of_unknown unknown']

theorem shiftsTo_disabled (disabled : b.unit? = none) (inward : Bool) : b.shiftsTo inward = none := by
  simp [shiftsTo, disabled]

theorem shiftsTo_step {u : String} {inward : Bool} {level : Level} (enabled : b.unit? = some u)
    (active : b.active = some i) (step : (b.levelOf i).step inward = .ok level) :
    b.shiftsTo inward = some (b.setLevel i level) := by
  simp [shiftsTo, enabled, active, step, Except.toOption]

theorem Returns.indented (known : ∀ i, b.active = some i → i < b₂.blocks.length → i < b.blocks.length)
    (entered : increase b = .ok () b₁) (body : Returns b₁ b₂) (can : b₂.CanShift false) :
    ∃ b₃, decrease b₂ = .ok () b₃ ∧ Returns b b₃ := by
  rcases shift_of_ok entered with ⟨disabled, rfl⟩ | ⟨u, i, level, indent, enabled, active, step, renewal, rfl⟩
  · have still : b₂.unit? = none := by rw [unit?, body.unit]; exact disabled
    refine ⟨b₂, ?_, body⟩
    rw [decrease, shift_eq, still]
    rfl
  · have lined : b₂.unit? = some u := by rw [unit?, body.unit]; exact enabled
    have here : b₂.active = some i := body.active.trans active
    rw [renewal_of_active (b := b.setLevel i level) enabled active] at renewal
    obtain ⟨outer, out, levels⟩ := step_out (known i active) active step renewal body
    obtain ⟨indent', renewal'⟩ := can _ (shiftsTo_step lined here out)
    have grown : b.blocks.length ≤ (b₂.setLevel i outer).blocks.length := by
      simpa [moved, setLevel] using body.grown
    refine ⟨_, shift_of_step lined here out renewal', body.unit, body.active, body.stack, grown, ?_, ?_,
      .inr (renewal_with _ renewal')⟩
    · exact fun j old => levels j (.inl old)
    · intro j current
      have same : j = i := Option.some.inj (current.symm.trans active)
      exact levels j (.inr same)

theorem Returns.canShift (known : ∀ i, b.active = some i → i < b₂.blocks.length → i < b.blocks.length)
    (entered : increase b = .ok () b₁) (body : Returns b₁ b₂) (can : b.CanIndent) : b₂.CanShift false := by
  intro b' target
  rcases shift_of_ok entered with ⟨disabled, rfl⟩ | ⟨u, i, level, indent, enabled, active, step, renewal, rfl⟩
  · have still : b₂.unit? = none := by rw [unit?, body.unit]; exact disabled
    rw [shiftsTo_disabled still] at target
    cases target
  · have lined : b₂.unit? = some u := by rw [unit?, body.unit]; exact enabled
    have here : b₂.active = some i := body.active.trans active
    rw [renewal_of_active (b := b.setLevel i level) enabled active] at renewal
    obtain ⟨outer, out, levels⟩ := step_out (known i active) active step renewal body
    rw [shiftsTo_step lined here out] at target
    cases target
    obtain ⟨indent', renewal'⟩ := can
    rw [renewal_of_active enabled active, ← levels i (.inr rfl)] at renewal'
    exact ⟨indent', (renewal_of_active (b := b₂.setLevel i outer) lined here).trans renewal'⟩

/-! Room for more levels -/

/-- The level of the active block is a whole number, and the unit can be repeated as often as it says and up to `k`
    times more. Where lines are not indented, any level will do. -/
def Ample (b : Buffer) (k : Nat) : Prop :=
  ∀ u i, b.unit? = some u → b.active = some i →
    ∃ n : Int, b.levelOf i = .count n ∧ ∀ j ≤ k, ∃ indent, (Level.count (n + j)).indent u = .ok indent

theorem Ample.of_returns (ample : b.Ample k) (returns : Returns b b₁) : b₁.Ample k := by
  intro u i enabled active
  have enabled' : b.unit? = some u := by rw [unit?, ← returns.unit]; exact enabled
  have active' : b.active = some i := returns.active.symm.trans active
  rw [returns.current i active']
  exact ample u i enabled' active'

theorem Ample.canIndent (ample : b.Ample k) : b.CanIndent := by
  cases enabled : b.unit? with
  | none => exact ⟨b.indent, by simp [renewal, enabled]⟩
  | some u =>
    cases active : b.active with
    | none => exact ⟨b.indent, renewal_of_idle active⟩
    | some i =>
      obtain ⟨n, level, fits⟩ := ample u i enabled active
      obtain ⟨indent, fits⟩ := fits 0 (Nat.zero_le k)
      rw [Int.natCast_zero, Int.add_zero, ← level] at fits
      exact ⟨indent, by rw [renewal_of_active enabled active, fits]⟩

theorem Ample.increase (ample : b.Ample (k + 1)) (active : b.active = some i) :
    ∃ b₁, increase b = .ok () b₁ ∧ b₁.active = some i ∧ b₁.Ample k := by
  cases enabled : b.unit? with
  | none =>
    refine ⟨b, by rw [Buffer.increase, shift_eq, enabled]; rfl, active, fun u i given => ?_⟩
    rw [enabled] at given
    cases given
  | some u =>
    obtain ⟨n, level, fits⟩ := ample u i enabled active
    have step : (b.levelOf i).step true = .ok (.count (n + 1)) := by rw [level]; rfl
    -- a block that is not there stays on its level
    have reaches : ∃ m : Int, (b.setLevel i (.count (n + 1))).levelOf i = .count m ∧
        ∀ j ≤ k, ∃ indent, (Level.count (m + j)).indent u = .ok indent := by
      by_cases known : i < b.blocks.length
      · refine ⟨n + 1, levelOf_setLevel known _, fun j within => ?_⟩
        have next : n + 1 + j = n + (j + 1 : Nat) := by omega
        rw [next]
        exact fits (j + 1) (Nat.succ_le_succ within)
      · rw [setLevel_of_unknown (Nat.le_of_not_lt known)]
        exact ⟨n, level, fun j within => fits j (Nat.le_succ_of_le within)⟩
    obtain ⟨m, level', fits'⟩ := reaches
    obtain ⟨indent, first⟩ := fits' 0 (Nat.zero_le k)
    rw [Int.natCast_zero, Int.add_zero, ← level'] at first
    have renewal : (b.setLevel i (.count (n + 1))).renewal = .ok indent := by
      rw [renewal_of_active (b := b.setLevel i _) enabled active, first]
    refine ⟨_, shift_of_step enabled active step renewal, active, fun v j given current => ?_⟩
    have sameUnit : u = v := Option.some.inj (enabled.symm.trans given)
    have sameBlock : i = j := Option.some.inj (active.symm.trans current)
    subst sameUnit sameBlock
    exact ⟨m, level', fits'⟩

theorem Writing.ample {level : Nat} (writing : b.Writing i level) (shallow : level + k ≤ deepest)
    (short : ¬ TooLong b.unit) : b.Ample k := by
  intro u j enabled active
  have same : i = j := Option.some.inj (writing.active.symm.trans active)
  subst same
  have room : u.length * deepest ≤ Level.roomLimit := by
    refine Int.not_lt.mp fun long => short ⟨u, (unit_of_enabled enabled).1, long⟩
  refine ⟨level, writing.level (by rw [enabled]; rfl), fun j within => ⟨Level.repeatText u (level + j), ?_⟩⟩
  have deep : level + j ≤ deepest := by omega
  rw [← Int.natCast_add]
  exact Level.indent_of_room deep room

end Buffer

end TemplateCompiler
