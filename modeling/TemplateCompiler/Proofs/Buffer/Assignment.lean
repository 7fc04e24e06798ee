import TemplateCompiler.Proofs.Buffer.Navigation
import TemplateCompiler.Proofs.Buffer.Uncached

namespace TemplateCompiler.Buffer

variable {b : Buffer} {op : Operation} {later : List Operation}

/-- Whether an operation renews the indent of the block that is active after it. -/
def Operation.renews : Operation → Bool
  | .enter _ | .leave | .shift _ => true
  | _ => false

def margin (b : Buffer) : String := if b.unit?.isSome then b.indent else ""

/-- What it should begin with: the unit as often as the level of the block says. -/
def dueMargin (b : Buffer) (i : Nat) : String := b.forget.margin (b.levelOf i)

theorem renewed_unit (b : Buffer) : b.renewed.unit = b.unit := by
  obtain ⟨indent, same⟩ := renewed_eq b
  rw [same]

theorem unit_next (b : Buffer) (unset : op.setsUnit = false) : (b.next op).unit = b.unit := by
  cases op with
  | startBlock name level => rfl
  | enter name =>
    rw [next_enter, renewed_unit]
    rfl
  | leave =>
    rw [next_leave, renewed_unit, pop]
    cases b.stack <;> rfl
  | write parts =>
    rw [next_write, written]
    cases b.active <;> rfl
  | writeLine parts =>
    rw [next_writeLine, written]
    cases b.active <;> rfl
  | shift inward =>
    rw [next_shift]
    rcases shifted_cases b inward with same | ⟨i, level, same⟩ <;> rw [same]
    rw [renewed_unit]
    rfl
  | setUnit unit => cases unset

theorem unit_run (unset : ∀ op ∈ later, op.setsUnit = false) : (b.run later).unit = b.unit := by
  induction later generalizing b with
  | nil => rfl
  | cons op rest ih =>
    have others : ∀ op ∈ rest, op.setsUnit = false := fun op member => unset op (List.mem_cons_of_mem _ member)
    exact (ih others).trans (unit_next b (unset op List.mem_cons_self))

theorem indent_next (b : Buffer) (still : op.renews = false) : (b.next op).indent = b.indent := by
  cases op with
  | startBlock name level => rfl
  | write parts =>
    rw [next_write, written]
    cases b.active <;> rfl
  | writeLine parts =>
    rw [next_writeLine, written]
    cases b.active <;> rfl
  | setUnit unit => rfl
  | _ => cases still

theorem indent_run (still : ∀ op ∈ later, op.renews = false) : (b.run later).indent = b.indent := by
  induction later generalizing b with
  | nil => rfl
  | cons op rest ih =>
    have others : ∀ op ∈ rest, op.renews = false := fun op member => still op (List.mem_cons_of_mem _ member)
    exact (ih others).trans (indent_next b (still op List.mem_cons_self))

theorem inStep_of_disabled (disabled : b.unit? = none) : b.InStep := by
  simp only [InStep, renewal, disabled]

theorem inStep_of_shifted {inward : Bool} (can : (b.shifted inward).CanIndent) : (b.shifted inward).InStep := by
  cases enabled : b.unit? with
  | none =>
    have still : b.shifted inward = b := by simp [shifted, enabled]
    rw [still]
    exact inStep_of_disabled enabled
  | some u =>
    cases active : b.active with
    | none =>
      have still : b.shifted inward = b := by simp [shifted, enabled, active]
      rw [still]
      exact renewal_of_idle active
    | some i =>
      cases moved : (b.levelOf i).step inward with
      | ok level =>
        have same : b.shifted inward = (b.setLevel i level).renewed := by simp [shifted, enabled, active, moved]
        rw [same] at can ⊢
        exact (renewed_of_canIndent can).2
      | error fault =>
        have still : b.shifted inward = b := by simp [shifted, enabled, active, moved]
        rw [still] at can
        obtain ⟨indent, fits⟩ := can
        rw [renewal_of_active enabled active] at fits
        obtain ⟨n, level, -⟩ := Level.indent_ok fits
        rw [level] at moved
        cases moved

theorem inStep_of_renews (renews : op.renews) (can : (b.next op).CanIndent) : (b.next op).InStep := by
  cases op with
  | enter name =>
    rw [next_enter] at can ⊢
    exact (renewed_of_canIndent can).2
  | leave =>
    rw [next_leave] at can ⊢
    exact (renewed_of_canIndent can).2
  | shift inward =>
    rw [next_shift] at can ⊢
    exact inStep_of_shifted can
  | _ => cases renews

theorem inStep_of_renewed (valid : b.Valid) (orderly : b.Orderly later) (renewed : later.any (·.renews)) :
    (b.run later).InStep := by
  induction later generalizing b with
  | nil => cases renewed
  | cons op rest ih =>
    obtain ⟨-, can, others⟩ := orderly
    cases renews : op.renews with
    | true => exact (forget_run (valid.next op) (inStep_of_renews renews can) others).2.2
    | false =>
      rw [List.any_cons, renews, Bool.false_or] at renewed
      exact ih (valid.next op) others renewed

section

variable (unit v : Option String) (ops : List Operation) (unset : ∀ op ∈ later, op.setsUnit = false)

include unset

theorem margin_of_shown (orderly : Orderly ((run { unit } ops).setUnit v) later)
    (shows : v.getD "" = "" ∨ later.any (·.renews)) {i : Nat}
    (active : (((run { unit } ops).setUnit v).run later).active = some i) :
    (((run { unit } ops).setUnit v).run later).margin = (((run { unit } ops).setUnit v).run later).dueMargin i := by
  have start : ((run { unit } ops).setUnit v).Valid := ((Valid.empty unit).run ops).next (.setUnit v)
  refine InStep.margin ?_ active
  rcases shows with empty | renewed
  · refine inStep_of_disabled ?_
    rw [unit?, unit_run unset]
    change v.filter (· != "") = none
    cases v with
    | none => rfl
    | some u =>
      cases (empty : u = "")
      rfl
  · exact inStep_of_renewed start orderly renewed

theorem margin_of_hidden (filled : v.getD "" ≠ "") (still : ¬ later.any (·.renews)) :
    (((run { unit } ops).setUnit v).run later).margin = (run { unit } ops).indent := by
  have enabled : (((run { unit } ops).setUnit v).run later).unit?.isSome := by
    rw [unit?, unit_run unset]
    change (v.filter (· != "")).isSome
    cases v with
    | none => exact absurd rfl filled
    | some u =>
      have nonempty : u ≠ "" := filled
      simp [nonempty]
  have same : (((run { unit } ops).setUnit v).run later).indent = ((run { unit } ops).setUnit v).indent := by
    refine indent_run fun op member => ?_
    exact Bool.eq_false_iff.mpr fun renews => still (List.any_eq_true.mpr ⟨op, member, renews⟩)
  rw [margin, if_pos enabled, same]
  rfl

end

/-- However a buffer was used before its unit was set to `v`, and whatever is done after that: a line in the active block
    begins with `v` as often as its level says exactly if `v` indents nothing, the indent was renewed since, or the
    indent that was kept when the unit was set happens to be the same. Otherwise it begins with that indent. -/
theorem line_after_setUnit (unit v : Option String) (ops later : List Operation)
    (unset : ∀ op ∈ later, op.setsUnit = false) (orderly : Orderly ((run { unit } ops).setUnit v) later) :
    let b := run { unit } ops
    let c := (b.setUnit v).run later
    ∀ i, c.active = some i →
      (∀ parts, (c.next (.writeLine parts)).textOf i = c.textOf i ++ (c.margin ++ String.join parts ++ "\n")) ∧
      (c.margin = c.dueMargin i ↔ v.getD "" = "" ∨ later.any (·.renews) ∨ b.indent = c.dueMargin i) ∧
      (c.margin ≠ c.dueMargin i → c.margin = b.indent) := by
  intro b c i active
  have start : (b.setUnit v).Valid := ((Valid.empty unit).run ops).next (.setUnit v)
  have line (parts : List String) :
      (c.next (.writeLine parts)).textOf i = c.textOf i ++ (c.margin ++ String.join parts ++ "\n") := by
    rw [textOf_next (start.run later), if_pos active]
    rfl
  by_cases shows : v.getD "" = "" ∨ later.any (·.renews)
  · have due : c.margin = c.dueMargin i := margin_of_shown unit v ops unset orderly shows active
    refine ⟨line, iff_of_true due (shows.imp_right .inl), fun differs => absurd due differs⟩
  · obtain ⟨filled, still⟩ := not_or.mp shows
    have kept : c.margin = b.indent := margin_of_hidden unit v ops unset filled still
    refine ⟨line, ?_, fun _ => kept⟩
    rw [kept]
    exact ⟨fun same => .inr (.inr same), fun given => (given.resolve_left filled).resolve_left still⟩

theorem line_after_setUnit_shifted :
    let b := run { unit := some " " } [.startBlock "a" (.count 2), .enter "a", .shift true]
    let c := (b.setUnit (some "--")).run [.writeLine ["x"], .shift false]
    c.textOf 0 = "   x\n" ∧ (c.next (.writeLine ["y"])).textOf 0 = c.textOf 0 ++ ("----" ++ String.join ["y"] ++ "\n") := by
  intro b c
  have orderly : Orderly (b.setUnit (some "--")) [.writeLine ["x"], .shift false] := by decide
  obtain ⟨line, shows, -⟩ := line_after_setUnit (some " ") (some "--")
    [.startBlock "a" (.count 2), .enter "a", .shift true] _ (by decide) orderly 0 rfl
  have due : c.margin = "----" := (shows.mpr (.inr (.inl rfl))).trans (by decide)
  refine ⟨by decide, ?_⟩
  rw [← due]
  exact line ["y"]

/-- A unit that is set while a block is active does not show in its next line. -/
theorem stale_after_setUnit :
    let c := (run { unit := some " " } [.startBlock "a" (.count 2), .enter "a"]).setUnit (some "--")
    c.active = some 0 ∧ c.dueMargin 0 = "----" ∧ (c.next (.writeLine ["x"])).content "a" = .ok "  x\n" :=
  ⟨rfl, by decide, rfl⟩

end TemplateCompiler.Buffer
