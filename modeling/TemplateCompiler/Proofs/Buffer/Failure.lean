import TemplateCompiler.Proofs.Buffer.Restoration
import TemplateCompiler.Session.Basic

namespace TemplateCompiler.Buffer

variable {b b' : Buffer} {op : Operation} {fault : Fault}

theorem renewIndent_of_error (failed : renewIndent b = .error fault b') : b' = b ∧ b.renewal = .error fault := by
  rw [renewIndent_eq] at failed
  cases renewal : b.renewal with
  | ok indent =>
    rw [renewal] at failed
    cases failed
  | error e =>
    rw [renewal] at failed
    cases failed
    exact ⟨rfl, rfl⟩

theorem unchanged_of_no_target {f : Nat → Buffer → Buffer}
    (failed : (do let i ← activeBlock; modify (f i) : Act Unit) b = .error fault b') : b' = b := by
  have target := activeBlock_eq b
  cases active : b.active with
  | none =>
    rw [active] at target
    rw [Act.bind_of_error target] at failed
    cases failed
    rfl
  | some i =>
    rw [active] at target
    rw [Act.bind_of_ok target] at failed
    cases failed

theorem push_of_failed_enter {name : String} (failed : enter name b = .error fault b') :
    b' = b.push name ∧ b'.renewal = .error fault := by
  rw [enter_eq] at failed
  obtain ⟨rfl, renewal⟩ := renewIndent_of_error failed
  exact ⟨rfl, renewal⟩

theorem pop_of_failed_leave (failed : leave b = .error fault b') :
    b' = b.pop ∧ b'.renewal = .error fault ∧ b.depth = b'.depth + 1 := by
  rw [leave_eq] at failed
  obtain ⟨rfl, renewal⟩ := renewIndent_of_error failed
  refine ⟨rfl, renewal, ?_⟩
  cases stack : b.stack with
  | nil =>
    have idle : b.pop.active = none := by simp only [pop, stack]
    rw [renewal_of_idle idle] at renewal
    cases renewal
  | cons before rest => simp only [depth, pop_of_stack stack, stack, List.length_cons]

theorem level_of_failed_shift {inward : Bool} (failed : shift inward b = .error fault b') :
    b' = b ∨ ∃ i level, b.active = some i ∧ (b.levelOf i).step inward = .ok level ∧ b' = b.setLevel i level ∧
      b'.renewal = .error fault := by
  rw [shift_eq] at failed
  cases enabled : b.unit? with
  | none =>
    rw [enabled] at failed
    cases failed
  | some u =>
    simp only [enabled, Option.isSome_some, ↓reduceIte] at failed
    cases active : b.active with
    | none =>
      rw [active] at failed
      cases failed
      exact .inl rfl
    | some i =>
      simp only [active] at failed
      cases step : (b.levelOf i).step inward with
      | error e =>
        rw [step] at failed
        cases failed
        exact .inl rfl
      | ok level =>
        rw [step] at failed
        obtain ⟨rfl, renewal⟩ := renewIndent_of_error failed
        exact .inr ⟨i, level, rfl, step, rfl, renewal⟩

theorem content_congr (names : b'.names = b.names) (contents : ∀ i, b'.contentOf i = b.contentOf i) (name : String) :
    b'.content name = b.content name := by
  simp only [content, find?, names, contents]

theorem contentOf_setLevel (b : Buffer) (i : Nat) (level : Level) (j : Nat) :
    (b.setLevel i level).contentOf j = b.contentOf j := by
  by_cases here : i = j
  · subst here
    cases found : b.blocks[i]? <;> simp [setLevel, contentOf, found, Block.content, Block.text]
  · simp [setLevel, contentOf, here]

/-- The unit, the registered names, the indent and all contents are the same, whatever the levels and the navigation. -/
structure SameText (b b' : Buffer) : Prop where
  unit : b'.unit = b.unit
  names : b'.names = b.names
  indent : b'.indent = b.indent
  content : ∀ name, b'.content name = b.content name

theorem SameText.refl (b : Buffer) : SameText b b := ⟨rfl, rfl, rfl, fun _ => rfl⟩

theorem SameText.pop (b : Buffer) : SameText b b.pop := by
  unfold Buffer.pop
  cases b.stack <;> exact ⟨rfl, rfl, rfl, fun _ => rfl⟩

theorem SameText.setLevel (b : Buffer) (i : Nat) (level : Level) : SameText b (b.setLevel i level) :=
  ⟨rfl, rfl, rfl, content_congr rfl (contentOf_setLevel b i level)⟩

/-- An operation that fails changes no text, no name and not the indent. A failed write changes nothing at all. A failed
    enter has pushed, a failed leave has popped, and a failed shift has changed nothing or moved the level of the active
    block; each of these failed at the renewal of the indent that came last. A body whose entry fails is not run, and
    the entered block stays entered. Asking for a content never changes anything. -/
theorem failed_operation (failed : op.act b = .error fault b') :
    SameText b b' ∧
    (match op with
      | .enter name =>
        b' = b.push name ∧ b'.renewal = .error fault ∧
          ∀ (α : Type) (body : Act α), within name body b = .error fault b' ∧ b'.depth = b.depth + 1
      | .leave => b' = b.pop ∧ b'.renewal = .error fault ∧ b.depth = b'.depth + 1
      | .shift inward =>
        b' = b ∨ ∃ i level, b.active = some i ∧ (b.levelOf i).step inward = .ok level ∧ b' = b.setLevel i level ∧
          b'.renewal = .error fault
      | _ => b' = b) ∧
    ∀ (s : Session) (name : String), Act.final (Session.blockContent name) s = s := by
  have reading (s : Session) (name : String) : Act.final (Session.blockContent name) s = s := by
    have step : Session.blockContent name s = Act.ofExcept (s.buffer.content name) s := rfl
    rw [Act.final, step]
    cases s.buffer.content name <;> rfl
  cases op with
  | startBlock name level => cases failed
  | setUnit unit => cases failed
  | write parts =>
    have same := unchanged_of_no_target failed
    subst same
    exact ⟨.refl b', rfl, reading⟩
  | writeLine parts =>
    have same := unchanged_of_no_target failed
    subst same
    exact ⟨.refl b', rfl, reading⟩
  | enter name =>
    obtain ⟨rfl, renewal⟩ := push_of_failed_enter failed
    have within (α : Type) (body : Act α) : Buffer.within name body b = .error fault (b.push name) :=
      Act.between_of_entry_error failed
    exact ⟨⟨rfl, rfl, rfl, fun _ => rfl⟩, ⟨rfl, renewal, fun α body => ⟨within α body, rfl⟩⟩, reading⟩
  | leave =>
    have popped := pop_of_failed_leave failed
    refine ⟨?_, popped, reading⟩
    rw [popped.1]
    exact .pop b
  | shift inward =>
    have moved := level_of_failed_shift failed
    refine ⟨?_, moved, reading⟩
    rcases moved with rfl | ⟨i, level, -, -, rfl, -⟩
    · exact .refl b'
    · exact .setLevel b i level

def wideBlock : Buffer := run { unit := some " " } [.startBlock "a" (.count 9223372036854775808)]

def fractionalBlock : Buffer :=
  run { unit := some " " } [.startBlock "a" (.other (.real (.ofDecimal false 15 (-1)))), .enter "a"]

theorem failed_operation_moves :
    ((Operation.enter "a").act wideBlock = .error .levelTooWide (wideBlock.push "a") ∧
      SameText wideBlock (wideBlock.push "a") ∧ (wideBlock.push "a").depth = wideBlock.depth + 1) ∧
    ((Operation.shift true).act fractionalBlock =
        .error (.levelNotCount .real) (fractionalBlock.setLevel 0 (.other (.real (.ofDecimal false 25 (-1))))) ∧
      SameText fractionalBlock (fractionalBlock.setLevel 0 (.other (.real (.ofDecimal false 25 (-1))))) ∧
      fractionalBlock.levelOf 0 = .other (.real (.ofDecimal false 15 (-1)))) := by
  constructor
  · have failed : (Operation.enter "a").act wideBlock = .error .levelTooWide (wideBlock.push "a") := rfl
    obtain ⟨kept, ⟨-, -, entered⟩, -⟩ := failed_operation failed
    exact ⟨failed, kept, (entered Unit (pure ())).2⟩
  · have moved : (Level.other (.real (.ofDecimal false 15 (-1)))).step true =
        .ok (.other (.real (.ofDecimal false 25 (-1)))) := by
      have sum : (Binary64.ofDecimal false 15 (-1)).step true = .ofDecimal false 25 (-1) := by decide +kernel
      rw [Level.step, sum]
    have failed : (Operation.shift true).act fractionalBlock =
        .error (.levelNotCount .real) (fractionalBlock.setLevel 0 (.other (.real (.ofDecimal false 25 (-1))))) := by
      have level : fractionalBlock.levelOf 0 = .other (.real (.ofDecimal false 15 (-1))) := rfl
      have active : fractionalBlock.active = some 0 := rfl
      have enabled : fractionalBlock.unit?.isSome := rfl
      change shift true fractionalBlock = _
      rw [shift_eq, if_pos enabled, active]
      simp only [level, moved]
      rfl
    exact ⟨failed, (failed_operation failed).1, rfl⟩

/-- A block whose level is too wide is entered although entering it fails, with or without a body. -/
theorem entered_by_failure :
    wideBlock.answer (.enter "a") = .error .levelTooWide ∧ wideBlock.isReady = false ∧ wideBlock.depth = 0 ∧
      (wideBlock.next (.enter "a")).isReady = true ∧ (wideBlock.next (.enter "a")).depth = 1 ∧
      (Act.final (within "a" (pure ())) wideBlock).depth = 1 := by
  exact ⟨rfl, rfl, rfl, rfl, rfl, rfl⟩

end TemplateCompiler.Buffer
