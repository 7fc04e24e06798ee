import TemplateCompiler.Buffer.Basic
import TemplateCompiler.Proofs.Act

namespace TemplateCompiler

def margin (unit : Option String) (level : Nat) : String := String.join (List.replicate level (unit.getD ""))

theorem margin_eq (unit : Option String) (level : Nat) : margin unit level = Level.repeatText (unit.getD "") level := rfl

theorem margin_empty {unit : Option String} (disabled : unit.getD "" = "") (level : Nat) : margin unit level = "" := by
  rw [margin, disabled]
  induction level with
  | zero => rfl
  | succ n ih => simpa [List.replicate_succ] using ih

namespace Level

theorem indent_ok {unit indent : String} {level : Level} (fits : level.indent unit = .ok indent) :
    ∃ n, level = .count n ∧ indent = repeatText unit n.toNat := by
  cases level with
  | other v => cases fits
  | count n =>
    refine ⟨n, rfl, ?_⟩
    simp only [Level.indent] at fits
    split at fits
    · cases fits
    · split at fits
      · rename_i low
        cases fits
        have none : n.toNat = 0 := by omega
        rw [none]
        rfl
      · split at fits
        · cases fits
        · split at fits
          · cases fits
          · cases fits
            rfl

theorem indent_of_fits {unit : String} {n : Int} (low : 0 ≤ n) (high : n ≤ sizeLimit)
    (fits : unit.length * n ≤ roomLimit) : (count n).indent unit = .ok (repeatText unit n.toNat) := by
  have size : roomLimit ≤ sizeLimit := by decide
  have positive : 0 ≤ sizeLimit := by decide
  have countable : ¬ (sizeLimit < n ∨ n < -sizeLimit - 1) := by omega
  have short : ¬ sizeLimit < unit.length * n := by omega
  have roomy : ¬ roomLimit < unit.length * n := by omega
  simp only [Level.indent, Bool.or_eq_true, decide_eq_true_eq]
  rw [if_neg countable]
  split
  · have none : n.toNat = 0 := by omega
    rw [none]
    rfl
  · rfl

end Level

namespace Buffer

variable {b : Buffer} {i : Nat}

/-- What the indent should be. It is anything while no block is active or lines are not indented. -/
def renewal (b : Buffer) : Except Fault String :=
  match b.unit?, b.active with
  | some unit, some i => (b.levelOf i).indent unit
  | _, _ => .ok b.indent

/-- The indent is what the level of the active block asks for. -/
def InStep (b : Buffer) : Prop := b.renewal = .ok b.indent

def renewed (b : Buffer) : Buffer :=
  match b.renewal with
  | .ok indent => { b with indent }
  | .error _ => b

theorem renewal_of_idle (idle : b.active = none) : b.renewal = .ok b.indent := by
  simp [renewal, idle]

theorem renewal_of_active {unit : String} (enabled : b.unit? = some unit) (active : b.active = some i) :
    b.renewal = (b.levelOf i).indent unit := by
  simp only [renewal, enabled, active]

theorem unit_getD_of_disabled (disabled : b.unit? = none) : b.unit.getD "" = "" := by
  cases unit : b.unit with
  | none => rfl
  | some u =>
    simp only [unit?, unit, Option.filter_eq_none_iff] at disabled
    simpa using disabled u rfl

theorem unit_of_enabled {u : String} (enabled : b.unit? = some u) : b.unit = some u ∧ u ≠ "" := by
  obtain ⟨unit, used⟩ := Option.filter_eq_some_iff.mp enabled
  exact ⟨unit, by simpa using used⟩

theorem renewal_with (b : Buffer) {indent : String} (same : b.renewal = .ok indent) :
    ({ b with indent } : Buffer).renewal = .ok indent := by
  have unit : ({ b with indent } : Buffer).unit? = b.unit? := rfl
  unfold renewal at same ⊢
  rw [unit]
  cases enabled : b.unit? with
  | none => simp
  | some u =>
    cases current : b.active with
    | none => simp
    | some i =>
      simp only [enabled, current] at same
      exact same

theorem renewal_congr {b' : Buffer} (unit : b'.unit = b.unit) (active : b'.active = b.active)
    (indent : b'.indent = b.indent) (level : ∀ i, b.active = some i → b'.levelOf i = b.levelOf i) :
    b'.renewal = b.renewal := by
  have units : b'.unit? = b.unit? := congrArg (·.filter (· != "")) unit
  unfold renewal
  rw [units, active, indent]
  cases enabled : b.unit? with
  | none => rfl
  | some u =>
    cases current : b.active with
    | none => rfl
    | some i => simp only [level i current]

theorem InStep.congr {b' : Buffer} (inStep : b.InStep) (unit : b'.unit = b.unit) (active : b'.active = b.active)
    (indent : b'.indent = b.indent) (level : ∀ i, b.active = some i → b'.levelOf i = b.levelOf i) : b'.InStep := by
  rw [InStep, renewal_congr unit active indent level, indent]
  exact inStep

theorem InStep.indent_eq {n : Int} (inStep : b.InStep) (active : b.active = some i)
    (level : b.unit?.isSome → b.levelOf i = .count n) :
    (if b.unit?.isSome then b.indent else "") = margin b.unit n.toNat := by
  cases enabled : b.unit? with
  | none =>
    rw [margin_empty (unit_getD_of_disabled enabled)]
    rfl
  | some u =>
    have unit : b.unit.getD "" = u := by rw [(unit_of_enabled enabled).1]; rfl
    rw [InStep, renewal_of_active enabled active, level (by rw [enabled]; rfl)] at inStep
    obtain ⟨m, same, indent⟩ := Level.indent_ok inStep
    cases same
    simp only [Option.isSome_some, ↓reduceIte, margin_eq, unit, indent]

theorem renewIndent_eq (b : Buffer) :
    renewIndent b = match b.renewal with
      | .ok indent => .ok () { b with indent }
      | .error fault => .error fault b := by
  have step : renewIndent b = (match b.unit?, b.active with
    | some unit, some i => (do
      let indent ← Act.ofExcept ((b.levelOf i).indent unit)
      set { b with indent } : Act Unit)
    | _, _ => pure ()) b := rfl
  rw [step]
  cases enabled : b.unit? with
  | none => simp only [renewal, enabled]; rfl
  | some unit =>
    cases current : b.active with
    | none => simp only [renewal, enabled, current]; rw [← current]; rfl
    | some i =>
      simp only [renewal, enabled, current]
      rw [← current]
      cases (b.levelOf i).indent unit <;> rfl

theorem final_renewIndent (b : Buffer) : Act.final renewIndent b = b.renewed := by
  simp only [Act.final, renewIndent_eq, renewed]
  cases b.renewal <;> rfl

theorem enter_eq (b : Buffer) (name : String) : enter name b = renewIndent (b.push name) := rfl

theorem leave_eq (b : Buffer) : leave b = renewIndent b.pop := rfl

theorem activeBlock_eq (b : Buffer) :
    activeBlock b = match b.active with
      | some i => .ok i b
      | none => .error .noActiveBlock b := by
  rw [activeBlock, Act.get_bind]
  cases b.active <;> rfl

theorem write_eq (b : Buffer) (pieces : List Value) :
    write pieces b = match b.active with
      | some i => .ok () (b.appendTo i pieces)
      | none => .error .noActiveBlock b := by
  have target := activeBlock_eq b
  cases current : b.active <;> rw [current] at target
  · exact Act.bind_of_error target _
  · exact Act.bind_of_ok target _

theorem writeLine_eq (b : Buffer) (pieces : List Value) :
    writeLine pieces b = match b.active with
      | some i => .ok () (b.appendTo i (b.lineStart ++ pieces ++ [.text "\n"]))
      | none => .error .noActiveBlock b := by
  have target := activeBlock_eq b
  cases current : b.active <;> rw [current] at target
  · exact Act.bind_of_error target _
  · exact Act.bind_of_ok target _

theorem shift_eq (inward : Bool) (b : Buffer) :
    shift inward b =
      if b.unit?.isSome then
        match b.active with
        | none => .error .noActiveBlock b
        | some i => match (b.levelOf i).step inward with
          | .error fault => .error fault b
          | .ok level => renewIndent (b.setLevel i level)
      else .ok () b := by
  rw [shift, Act.get_bind]
  cases b.unit?.isSome with
  | false => rfl
  | true =>
    have target := activeBlock_eq b
    cases current : b.active <;> rw [current] at target
    · exact Act.bind_of_error target _
    · rename_i i
      refine (Act.bind_of_ok target _).trans ?_
      rw [Act.get_bind]
      cases moved : (b.levelOf i).step inward <;> simp only [↓reduceIte, moved] <;> rfl

end Buffer

end TemplateCompiler
