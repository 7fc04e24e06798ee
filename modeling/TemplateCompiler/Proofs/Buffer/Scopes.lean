import TemplateCompiler.Proofs.Buffer.Restoration

namespace TemplateCompiler.Buffer

variable {b b₁ b₂ : Buffer} {i : Nat}

/-- The buffers that operations lead to, failed or not, if the unit is only set while no block is active. -/
inductive Reached : Buffer → Prop where
  | fresh (unit : Option String) : Reached { unit }
  | startBlock {b : Buffer} (before : Reached b) (name : String) (level : Level) :
    Reached (Act.final (Buffer.startBlock name level) b)
  | enter {b : Buffer} (before : Reached b) (name : String) : Reached (Act.final (Buffer.enter name) b)
  | leave {b : Buffer} (before : Reached b) : Reached (Act.final Buffer.leave b)
  | write {b : Buffer} (before : Reached b) (pieces : List Value) : Reached (Act.final (Buffer.write pieces) b)
  | writeLine {b : Buffer} (before : Reached b) (pieces : List Value) : Reached (Act.final (Buffer.writeLine pieces) b)
  | shift {b : Buffer} (before : Reached b) (inward : Bool) : Reached (Act.final (Buffer.shift inward) b)
  | setUnit {b : Buffer} (before : Reached b) (idle : b.active = none) (unit : Option String) : Reached (b.setUnit unit)

/-! What is true of every buffer that is reached. -/

def Refers (b : Buffer) (i : Nat) : Prop := (∃ name, b.find? name = some i) ∨ b.active = some i ∨ some i ∈ b.stack

structure Settled (b : Buffer) : Prop where
  placed : ∀ i, b.Refers i → i < b.blocks.length
  kept : ∀ indent, b.renewal = .ok indent → indent = b.indent

theorem Settled.active_placed (settled : b.Settled) : ∀ i, b.active = some i → i < b.blocks.length :=
  fun i active => settled.placed i (.inr (.inl active))

theorem refers_of_same (same : SamePlaces b b₁) (refers : b₁.Refers i) : b.Refers i := by
  unfold Refers find? at refers ⊢
  rwa [same.names, same.active, same.stack] at refers

theorem refers_of_push {name : String} (refers : (b.push name).Refers i) : b.Refers i := by
  rcases refers with named | active | stacked
  · exact .inl named
  · exact .inl ⟨name, active⟩
  · rcases List.mem_cons.mp stacked with active | stacked
    · exact .inr (.inl active.symm)
    · exact .inr (.inr stacked)

theorem refers_of_pop (refers : b.pop.Refers i) : b.Refers i := by
  cases stack : b.stack with
  | nil =>
    have popped : b.pop = { b with active := none } := by simp only [pop, stack]
    rw [popped] at refers
    rcases refers with named | active | stacked
    · exact .inl named
    · cases active
    · exact .inr (.inr stacked)
  | cons before rest =>
    have popped : b.pop = { b with active := before, stack := rest } := by simp only [pop, stack]
    rw [popped] at refers
    unfold Refers
    rw [stack]
    rcases refers with named | active | stacked
    · exact .inl named
    · exact .inr (.inr (List.mem_cons.mpr (.inl active.symm)))
    · exact .inr (.inr (List.mem_cons_of_mem before stacked))

def Placed (b : Buffer) : Prop := ∀ i, b.Refers i → i < b.blocks.length

theorem Placed.of_same (placed : b.Placed) (same : SamePlaces b b₁) : b₁.Placed := by
  intro i refers
  rw [same.length]
  exact placed i (refers_of_same same refers)

theorem Placed.push (placed : b.Placed) (name : String) : (b.push name).Placed := fun i refers =>
  placed i (refers_of_push refers)

theorem Placed.pop (placed : b.Placed) : b.pop.Placed := by
  intro i refers
  rw [pop_blocks]
  exact placed i (refers_of_pop refers)

theorem Placed.addBlock (placed : b.Placed) (name : String) (level : Level) : (b.addBlock name level).Placed := by
  intro i refers
  have grown : (b.addBlock name level).blocks.length = b.blocks.length + 1 := by simp [Buffer.addBlock]
  rw [grown]
  rcases refers with ⟨other, named⟩ | later
  · simp only [Buffer.addBlock, find?, Ordered.lookup_put] at named
    split at named
    · cases named
      omega
    · have old := placed i (.inl ⟨other, named⟩)
      omega
  · have old := placed i (.inr later)
    omega

theorem settled_renewed (placed : b.Placed) : b.renewed.Settled := by
  refine ⟨placed.of_same (.renewed b), fun indent renewal => ?_⟩
  unfold renewed at renewal ⊢
  cases found : b.renewal with
  | error fault =>
    simp only [found] at renewal
    cases renewal
  | ok indent =>
    simp only [found, renewal_with b found] at renewal ⊢
    exact (Except.ok.inj renewal).symm

theorem kept_congr (settled : b.Settled) (unit : b₁.unit = b.unit) (active : b₁.active = b.active)
    (indent : b₁.indent = b.indent) (level : ∀ i, b.active = some i → b₁.levelOf i = b.levelOf i) :
    ∀ renewed, b₁.renewal = .ok renewed → renewed = b₁.indent := by
  intro renewed renewal
  rw [renewal_congr unit active indent level] at renewal
  rw [indent]
  exact settled.kept renewed renewal

theorem Settled.written (settled : b.Settled) (pieces : List Value) : (b.written pieces).Settled := by
  have same := SamePlaces.written b pieces
  have returns := Returns.written b pieces
  have indent : (b.written pieces).indent = b.indent := by
    unfold Buffer.written
    cases b.active <;> rfl
  exact ⟨Placed.of_same settled.placed same, kept_congr settled returns.unit returns.active indent returns.current⟩

theorem Settled.addBlock (settled : b.Settled) (name : String) (level : Level) : (b.addBlock name level).Settled := by
  have returns := Returns.addBlock settled.active_placed name level
  exact ⟨Placed.addBlock settled.placed name level, kept_congr settled returns.unit returns.active rfl returns.current⟩

theorem Settled.shifted (settled : b.Settled) (inward : Bool) : (b.shifted inward).Settled := by
  rcases shifted_cases b inward with same | ⟨i, level, same⟩ <;> rw [same]
  · exact settled
  · refine settled_renewed fun j refers => ?_
    have old := settled.placed j refers
    simpa [setLevel] using old

/-- What was reached refers to blocks that exist, and keeps the right indent wherever there is one. -/
theorem Reached.settled (reached : Reached b) : b.Settled := by
  induction reached with
  | fresh unit =>
    refine ⟨fun i refers => ?_, fun indent renewal => ?_⟩
    · simp [Refers, find?] at refers
    · rw [renewal_of_idle rfl] at renewal
      exact (Except.ok.inj renewal).symm
  | startBlock _ name level settled => exact settled.addBlock name level
  | enter _ name settled =>
    rename_i b _
    have ended : Act.final (Buffer.enter name) b = (b.push name).renewed := final_renewIndent _
    rw [ended]
    exact settled_renewed (Placed.push settled.placed name)
  | leave _ settled =>
    rename_i b _
    have ended : Act.final Buffer.leave b = b.pop.renewed := final_renewIndent _
    rw [ended]
    exact settled_renewed (Placed.pop settled.placed)
  | write _ pieces settled =>
    rename_i b _
    rw [final_write]
    exact settled.written pieces
  | writeLine _ pieces settled =>
    rename_i b _
    rw [final_writeLine]
    exact settled.written _
  | shift _ inward settled =>
    rename_i b _
    rw [final_shift]
    exact settled.shifted inward
  | setUnit _ idle unit settled =>
    refine ⟨settled.placed, fun indent renewal => ?_⟩
    have still := idle
    rw [renewal_of_idle (b := Buffer.setUnit _ unit) still] at renewal
    exact (Except.ok.inj renewal).symm

/-! Programs -/

inductive Scope where
  | block (name : String)
  | level
  deriving Repr

namespace Scope

def entry : Scope → Act Unit
  | .block name => enter name
  | .level => increase

def exit : Scope → Act Unit
  | .block _ => leave
  | .level => decrease

def around : Scope → Act Unit → Act Unit
  | .block name, body => within name body
  | .level, body => indented body

theorem around_eq (scope : Scope) (body : Act Unit) : scope.around body = Act.between scope.entry body scope.exit := by
  cases scope <;> rfl

def CanEnter (b : Buffer) : Scope → Prop
  | .block name => (b.push name).CanIndent
  | .level => b.CanShift true

def CanExit (b : Buffer) : Scope → Prop
  | .block _ => b.pop.CanIndent
  | .level => b.CanShift false

theorem entry_cases {scope : Scope} (can : scope.CanEnter b) :
    (∃ b₁, scope.entry b = .ok () b₁) ∨ ∃ fault, scope.entry b = .error fault b := by
  cases scope with
  | block name =>
    obtain ⟨indent, renewal⟩ := can
    exact .inl ⟨{ b.push name with indent }, by rw [entry, enter_eq, renewIndent_eq, renewal]⟩
  | level =>
    rw [entry, increase, shift_eq]
    cases enabled : b.unit? with
    | none => exact .inl ⟨b, rfl⟩
    | some u =>
      simp only [Option.isSome_some, ↓reduceIte]
      cases active : b.active with
      | none => exact .inr ⟨.noActiveBlock, rfl⟩
      | some i =>
        cases step : (b.levelOf i).step true with
        | error fault => exact .inr ⟨fault, by simp only [step]⟩
        | ok level =>
          obtain ⟨indent, renewal⟩ := can _ (shiftsTo_step enabled active step)
          exact .inl ⟨{ b.setLevel i level with indent }, by simp only [step, renewIndent_eq, renewal]⟩

instance (b : Buffer) : (scope : Scope) → Decidable (scope.CanEnter b)
  | .block name => inferInstanceAs (Decidable (b.push name).CanIndent)
  | .level => inferInstanceAs (Decidable (b.CanShift true))

instance (b : Buffer) : (scope : Scope) → Decidable (scope.CanExit b)
  | .block _ => inferInstanceAs (Decidable b.pop.CanIndent)
  | .level => inferInstanceAs (Decidable (b.CanShift false))

end Scope

theorem Returns.around {scope : Scope} (known : ∀ i, b.active = some i → i < b.blocks.length)
    (entered : scope.entry b = .ok () b₁) (body : Returns b₁ b₂) (can : scope.CanExit b₂) :
    ∃ b₃, scope.exit b₂ = .ok () b₃ ∧ Returns b b₃ := by
  cases scope with
  | block name => exact Returns.within known entered body can
  | level => exact Returns.indented (fun i active _ => known i active) entered body can

theorem Reached.entry (reached : Reached b) (scope : Scope) : Reached (Act.final scope.entry b) := by
  cases scope with
  | block name => exact reached.enter name
  | level => exact reached.shift true

theorem Reached.exit (reached : Reached b) (scope : Scope) : Reached (Act.final scope.exit b) := by
  cases scope with
  | block name => exact reached.leave
  | level => exact reached.shift false

/-- A program that uses a buffer through scopes only. Anything else in it may fail. -/
inductive Scoped where
  | startBlock (name : String) (level : Level)
  | write (pieces : List Value)
  | writeLine (pieces : List Value)
  | has (name : String)
  | content (name : String)
  | fail (fault : Fault)
  | during (scope : Scope) (body : List Scoped)

namespace Scoped

mutual

def act : Scoped → Act Unit
  | .startBlock name level => Buffer.startBlock name level
  | .write pieces => Buffer.write pieces
  | .writeLine pieces => Buffer.writeLine pieces
  | .has name => do
    let _ := (← get).has name
  | .content name => do
    let _ ← Act.ofExcept ((← get).content name)
  | .fail fault => throw fault
  | .during scope body => scope.around (actAll body)

def actAll : List Scoped → Act Unit
  | [] => pure ()
  | first :: rest => do
    first.act
    actAll rest

end

def raised {α : Type} : Except Fault α → List Fault
  | .ok _ => []
  | .error fault => [fault]

mutual

/-- The faults that are raised in a run, one after another, with those of exits. -/
def faults (b : Buffer) : Scoped → List Fault
  | .during scope body =>
    match scope.entry b with
    | .error fault _ => [fault]
    | .ok _ b₁ => faultsAll b₁ body ++ raised (Act.outcome scope.exit (Act.final (actAll body) b₁))
  | single => raised (Act.outcome single.act b)

def faultsAll (b : Buffer) : List Scoped → List Fault
  | [] => []
  | first :: rest =>
    match first.act b with
    | .error _ _ => first.faults b
    | .ok _ b' => first.faults b ++ faultsAll b' rest

end

mutual

/-- Wherever the run enters a scope or leaves one, the unit can be repeated as often as it has to be. -/
def Fits (b : Buffer) : Scoped → Prop
  | .during scope body =>
    scope.CanEnter b ∧ match scope.entry b with
      | .error _ _ => True
      | .ok _ b₁ => FitsAll b₁ body ∧ scope.CanExit (Act.final (actAll body) b₁)
  | _ => True

def FitsAll (b : Buffer) : List Scoped → Prop
  | [] => True
  | first :: rest =>
    first.Fits b ∧ match first.act b with
      | .error _ _ => True
      | .ok _ b' => FitsAll b' rest

end

mutual

instance Fits.decide (b : Buffer) : (program : Scoped) → Decidable (program.Fits b)
  | .during scope body =>
    match entered : scope.entry b with
    | .error _ _ => decidable_of_iff (scope.CanEnter b) (by simp only [Fits, entered, and_true])
    | .ok _ b₁ =>
      have : Decidable (FitsAll b₁ body) := FitsAll.decide b₁ body
      decidable_of_iff (scope.CanEnter b ∧ FitsAll b₁ body ∧ scope.CanExit (Act.final (actAll body) b₁))
        (by simp only [Fits, entered])
  | .startBlock _ _ | .write _ | .writeLine _ | .has _ | .content _ | .fail _ => .isTrue trivial

instance FitsAll.decide (b : Buffer) : (program : List Scoped) → Decidable (FitsAll b program)
  | [] => .isTrue trivial
  | first :: rest =>
    have : Decidable (first.Fits b) := Fits.decide b first
    match ended : first.act b with
    | .error _ _ => decidable_of_iff (first.Fits b) (by simp only [FitsAll, ended, and_true])
    | .ok _ b' =>
      have : Decidable (FitsAll b' rest) := FitsAll.decide b' rest
      decidable_of_iff (first.Fits b ∧ FitsAll b' rest) (by simp only [FitsAll, ended])

end

/-- What a run leaves and raises: navigation is put back, and at most one fault is raised, the one that comes out. -/
structure Restores (b : Buffer) (act : Act Unit) (faults : List Fault) : Prop where
  returns : Returns b (Act.final act b)
  reached : Reached (Act.final act b)
  faults : faults = raised (Act.outcome act b)

variable {act : Act Unit} {inside more : List Fault} {fault : Fault} {b' : Buffer}

theorem restores_of_ok (run : act b = .ok () b') (returns : Returns b b') (reached : Reached b') :
    Restores b act [] := by
  have final : Act.final act b = b' := by rw [Act.final, run]
  exact ⟨final ▸ returns, final ▸ reached, by rw [Act.outcome, run]; rfl⟩

theorem restores_of_error (run : act b = .error fault b') (returns : Returns b b') (reached : Reached b') :
    Restores b act [fault] := by
  have final : Act.final act b = b' := by rw [Act.final, run]
  exact ⟨final ▸ returns, final ▸ reached, by rw [Act.outcome, run]; rfl⟩

theorem Restores.of_ok (ran : Restores b act inside) (run : act b = .ok () b') :
    Returns b b' ∧ Reached b' ∧ inside = [] := by
  obtain ⟨returns, reached, faults⟩ := ran
  rw [Act.final, run] at returns reached
  rw [Act.outcome, run] at faults
  exact ⟨returns, reached, faults⟩

theorem Restores.of_error (ran : Restores b act inside) (run : act b = .error fault b') :
    Returns b b' ∧ Reached b' ∧ inside = [fault] := by
  obtain ⟨returns, reached, faults⟩ := ran
  rw [Act.final, run] at returns reached
  rw [Act.outcome, run] at faults
  exact ⟨returns, reached, faults⟩

theorem Restores.around {scope : Scope} {body : Act Unit} (reached : Reached b) (entered : scope.entry b = .ok () b₁)
    (ran : Restores b₁ body inside) (can : scope.CanExit (Act.final body b₁)) :
    Restores b (scope.around body) (inside ++ raised (Act.outcome scope.exit (Act.final body b₁))) := by
  obtain ⟨b₃, left, returns⟩ := Returns.around reached.settled.active_placed entered ran.returns can
  have silent : raised (Act.outcome scope.exit (Act.final body b₁)) = [] := by rw [Act.outcome, left]; rfl
  have reached' : Reached b₃ := by
    have exited := ran.reached.exit scope
    rwa [Act.final, left] at exited
  rw [silent, List.append_nil, scope.around_eq]
  cases ended : body b₁ with
  | ok _ b₂ =>
    rw [Act.final, ended] at left
    rw [(ran.of_ok ended).2.2]
    exact restores_of_ok (Act.between_of_ok entered ended left) returns reached'
  | error fault b₂ =>
    rw [Act.final, ended] at left
    rw [(ran.of_error ended).2.2]
    exact restores_of_error (Act.between_of_error entered ended left) returns reached'

theorem Restores.followed {first rest : Act Unit} (ran : Restores b first inside) (ended : first b = .ok () b')
    (later : Restores b' rest more) : Restores b (do first; rest) (inside ++ more) := by
  obtain ⟨returns, -, rfl⟩ := ran.of_ok ended
  have run := Act.bind_of_ok ended fun _ => rest
  cases last : rest b' with
  | ok _ b'' =>
    obtain ⟨returns', reached, rfl⟩ := later.of_ok last
    exact restores_of_ok (run.trans last) (returns.trans returns') reached
  | error fault b'' =>
    obtain ⟨returns', reached, rfl⟩ := later.of_error last
    exact restores_of_error (run.trans last) (returns.trans returns') reached

theorem restores_content (reached : Reached b) (name : String) :
    Restores b (content name).act ((content name).faults b) := by
  have final : Act.final (content name).act b = b := by
    rw [Act.final, Scoped.act, Act.get_bind]
    cases b.content name <;> rfl
  refine ⟨?_, ?_, rfl⟩
  · rw [final]
    exact .refl b
  · rwa [final]

mutual

theorem restores {b : Buffer} (reached : Reached b) : (program : Scoped) → program.Fits b →
    Restores b program.act (program.faults b)
  | .startBlock name level, _ =>
    ⟨.addBlock reached.settled.active_placed name level, reached.startBlock name level, rfl⟩
  | .write pieces, _ =>
    ⟨(final_write b pieces).symm ▸ .written b pieces, reached.write pieces, rfl⟩
  | .writeLine pieces, _ =>
    ⟨(final_writeLine b pieces).symm ▸ .written b _, reached.writeLine pieces, rfl⟩
  | .has name, _ => ⟨.refl b, reached, rfl⟩
  | .content name, _ => restores_content reached name
  | .fail fault, _ => ⟨.refl b, reached, rfl⟩
  | .during scope body, fits => by
    rw [Fits] at fits
    rw [Scoped.act, faults]
    rcases Scope.entry_cases fits.1 with ⟨b₁, entered⟩ | ⟨fault, failed⟩
    · rw [entered] at fits ⊢
      have reached' : Reached b₁ := by
        have entry := reached.entry scope
        rwa [Act.final, entered] at entry
      have inside := restoresAll reached' body fits.2.1
      exact Restores.around reached entered inside fits.2.2
    · rw [failed, scope.around_eq]
      exact restores_of_error (Act.between_of_entry_error failed) (.refl b) reached

theorem restoresAll {b : Buffer} (reached : Reached b) : (program : List Scoped) → FitsAll b program →
    Restores b (actAll program) (faultsAll b program)
  | [], _ => ⟨.refl b, reached, rfl⟩
  | first :: rest, fits => by
    rw [FitsAll] at fits
    rw [actAll, faultsAll]
    have ran := restores reached first fits.1
    cases ended : first.act b with
    | error fault b' =>
      obtain ⟨returns, reached', none⟩ := ran.of_error ended
      simp only [none]
      exact restores_of_error (Act.bind_of_error ended _) returns reached'
    | ok _ b' =>
      rw [ended] at fits
      exact ran.followed ended (restoresAll (ran.of_ok ended).2.1 rest fits.2)

end

/-- However a program of scopes ends, navigation is what it was before: the active block, the stack, the levels of all
    blocks that were there and, where lines are indented, the indent. No exit raises a fault; the one that comes out is
    the first that was raised, and the only one. -/
theorem scopes_restore (reached : Reached b) (program : List Scoped) (fits : FitsAll b program) :
    let b' := Act.final (actAll program) b
    b'.active = b.active ∧ b'.stack = b.stack ∧ (∀ i < b.blocks.length, b'.levelOf i = b.levelOf i) ∧
      (b.active.isSome → b.unit?.isSome → b'.indent = b.indent) ∧
      faultsAll b program = raised (Act.outcome (actAll program) b) := by
  intro b'
  have ran := restoresAll reached program fits
  have returns : Returns b b' := ran.returns
  refine ⟨returns.active, returns.stack, returns.levels, ?_, ran.faults⟩
  intro active enabled
  rcases returns.indent with same | renewed
  · exact same
  · -- the level is the one from before, for which the indent was right
    obtain ⟨i, active⟩ := Option.isSome_iff_exists.mp active
    obtain ⟨u, enabled⟩ := Option.isSome_iff_exists.mp enabled
    have enabled' : b'.unit? = some u := by rw [unit?, returns.unit]; exact enabled
    rw [InStep, renewal_of_active enabled' (returns.active.trans active), returns.current i active,
      ← renewal_of_active enabled active] at renewed
    exact reached.settled.kept _ renewed

theorem scopes_restore_missing :
    let b := Act.final (enter "a") (({ unit := some " " } : Buffer).addBlock "a" (.count 1))
    let program : List Scoped := [.during (.block "a") [.startBlock "a" (.count 7),
      .during .level [.writeLine [.text "x"], .during (.block "a") [.during .level [.content "b"]]],
      .write [.text "y"]]]
    (Act.final (actAll program) b).active = some 0 ∧ (Act.final (actAll program) b).indent = " " ∧
      Act.outcome (actAll program) b = .error (.unknownBlock "b") ∧ faultsAll b program = [.unknownBlock "b"] := by
  intro b program
  have reached : Reached b := ((Reached.fresh (some " ")).startBlock "a" (.count 1)).enter "a"
  have fits : FitsAll b program := by decide
  obtain ⟨active, -, -, indent, faults⟩ := scopes_restore reached program fits
  exact ⟨active, indent rfl rfl, rfl, faults⟩

end Scoped

end TemplateCompiler.Buffer
