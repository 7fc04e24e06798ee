import TemplateCompiler.Proofs.Session.Composition

namespace TemplateCompiler.Session

variable {α : Type} {s s' s'' : Session} {k : Nat}

/-- The names and the blocks numbered below `n` are left as they are, and nothing that was recorded is gone. -/
structure Leaves (n : Nat) (s s' : Session) : Prop where
  adds : Extends s s'
  macros : s'.macros = s.macros
  names : s'.buffer.names = s.buffer.names
  texts : ∀ i < n, s'.buffer.textOf i = s.buffer.textOf i
  valid : s'.buffer.Valid

namespace Leaves

variable {n : Nat} {name : String}

theorem trans (first : Leaves n s s') (second : Leaves n s' s'') : Leaves n s s'' where
  adds := first.adds.trans second.adds
  macros := second.macros.trans first.macros
  names := second.names.trans first.names
  texts i below := (second.texts i below).trans (first.texts i below)
  valid := second.valid

theorem of_fills (fills : Fills s s') (active : s.buffer.active = some n) : Leaves n s s' where
  adds := fills.adds
  macros := fills.macros
  names := fills.places.names
  texts i below := fills.others i fun here => by
    rw [active] at here
    cases here
    exact absurd below (Nat.lt_irrefl _)
  valid := fills.valid

theorem of_aside {act : Act α} (aside : Aside act) (valid : s.buffer.Valid) : Leaves n s (Act.final act s) := by
  have same := aside.blind.untouched s
  refine ⟨aside.adds s, aside.macros s, congrArg _ same, fun i _ => congrArg (·.textOf i) same, ?_⟩
  rw [same]
  exact valid

theorem of_operation (op : Buffer.Operation) (valid : s.buffer.Valid)
    (names : (s.buffer.next op).names = s.buffer.names) (silent : s.buffer.emitted op = none) :
    Leaves n s (Act.final (onBuffer op.act) s) := by
  rw [final_onBuffer_eq]
  refine ⟨{ Extends.refl s with }, rfl, names, fun i _ => ?_, valid.next op⟩
  change (s.buffer.next op).textOf i = s.buffer.textOf i
  rw [Buffer.textOf_next valid, silent]
  simp

theorem of_enter (valid : s.buffer.Valid) : Leaves n s (Act.final (enter name) s) := by
  have names : (s.buffer.next (.enter name)).names = s.buffer.names := by
    rw [Buffer.next_enter]
    exact (Buffer.SamePlaces.renewed _).names
  refine Act.final_bind_rel (Leaves n) Leaves.trans (.of_operation (.enter name) valid names rfl) fun _ s' _ mid => ?_
  have look : getBuffer s' = .ok s'.buffer s' := rfl
  rw [Act.final_bind_of_ok look]
  cases s'.buffer.isReady with
  | false => exact .of_aside (aside_note _) mid.valid
  | true => exact .of_aside (aside_pure _) mid.valid

theorem of_leave (valid : s.buffer.Valid) : Leaves n s (Act.final leave s) := by
  refine .of_operation .leave valid ?_ rfl
  rw [Buffer.next_leave]
  exact (Buffer.SamePlaces.renewed _).names.trans (Buffer.pop_names _)

end Leaves

theorem buffer_of_entered {name : String} (entered : enter name s = .ok () s') :
    s'.buffer = s.buffer.next (.enter name) := by
  have first : (Act.final (onBuffer (Buffer.enter name)) s).buffer = s.buffer.next (.enter name) :=
    final_onBuffer (.enter name) s
  cases ran : onBuffer (Buffer.enter name) s with
  | error e s₁ =>
    rw [enter, Act.bind_of_error ran] at entered
    cases entered
  | ok _ s₁ =>
    have look : getBuffer s₁ = .ok s₁.buffer s₁ := rfl
    rw [Act.final, ran] at first
    rw [enter, Act.bind_of_ok ran, Act.bind_of_ok look] at entered
    cases ready : s₁.buffer.isReady <;> rw [ready] at entered <;> cases entered <;> exact first

/-- A block of a name was added, and nothing else has changed among the blocks. -/
structure Opens (name : String) (s s' : Session) : Prop where
  adds : Extends s s'
  macros : s'.macros = s.macros
  names : s'.buffer.names = Ordered.put s.buffer.names name s.buffer.blocks.length
  texts : ∀ i < s.buffer.blocks.length, s'.buffer.textOf i = s.buffer.textOf i
  valid : s'.buffer.Valid

namespace Inside

variable {body : Act Unit} {n : Nat} {name : String}

theorem leaves (inside : Inside k body) (valid : s.buffer.Valid) (known : s.buffer.find? name = some n) :
    Leaves n s (Act.final (within name body) s) := by
  refine Act.final_between_rel (Leaves n) Leaves.trans (.of_enter valid) (fun s₁ entered mid => ?_)
    fun _ _ done => .of_leave done.valid
  have active : s₁.buffer.active = some n := by
    rw [buffer_of_entered entered, Buffer.next_enter, (Buffer.SamePlaces.renewed _).active]
    exact known
  exact .of_fills (inside.fills mid.valid (by rw [Buffer.isReady, active]; rfl)) active

theorem active_of_ok (inside : Inside k body) (valid : s.buffer.Valid) (known : s.buffer.find? name = some n)
    (ran : within name body s = .ok () s') : s'.buffer.active = s.buffer.active := by
  cases entered : enter name s with
  | error e s₁ =>
    rw [within, Act.between_of_entry_error entered] at ran
    cases ran
  | ok _ s₁ =>
    have pushed := buffer_of_entered entered
    rw [Buffer.next_enter] at pushed
    have active : s₁.buffer.active = some n := by
      rw [pushed, (Buffer.SamePlaces.renewed _).active]
      exact known
    have stack : s₁.buffer.stack = s.buffer.active :: s.buffer.stack := by
      rw [pushed, (Buffer.SamePlaces.renewed _).stack]
      rfl
    have valid₁ : s₁.buffer.Valid := by
      rw [pushed]
      exact (valid.push name).renewed
    have fills := inside.fills valid₁ (by rw [Buffer.isReady, active]; rfl)
    have last := final_onBuffer .leave (Act.final body s₁)
    have ended : Act.final (within name body) s = s' := by rw [Act.final, ran]
    rw [← ended, within, Act.final_between entered]
    refine (congrArg Buffer.active last).trans ?_
    rw [Buffer.next_leave, (Buffer.SamePlaces.renewed _).active, Buffer.pop_of_stack (fills.places.stack.trans stack)]

theorem opens (inside : Inside k body) (valid : s.buffer.Valid) (name : String) (level : Nat) :
    Opens name s (Act.final (do startBlock name (.count level); within name body) s) ∧
      ∀ s', (do startBlock name (.count level); within name body) s = .ok () s' →
        s'.buffer.active = s.buffer.active := by
  let added : Session := { s with
    buffer := s.buffer.addBlock name (.count level)
    notes := s.notes ++ [.blockAdded name level] }
  have started : startBlock name (.count level) s = .ok () added := rfl
  have valid' : added.buffer.Valid := valid.addBlock name _
  have known : added.buffer.find? name = some s.buffer.blocks.length := Buffer.find?_addBlock _ _ _
  refine ⟨?_, fun s' ran => ?_⟩
  · have leaves := inside.leaves valid' known
    have noted : Extends s added := { Extends.refl s with notes := List.prefix_append _ _ }
    rw [Act.final_bind_of_ok started]
    refine ⟨noted.trans leaves.adds, leaves.macros, leaves.names, fun i below => (leaves.texts i below).trans ?_,
      leaves.valid⟩
    simp only [added, Buffer.addBlock, Buffer.textOf, List.getElem?_append_left below]
  · rw [Act.bind_of_ok started] at ran
    exact inside.active_of_ok (s := added) valid' known ran

end Inside

end TemplateCompiler.Session
