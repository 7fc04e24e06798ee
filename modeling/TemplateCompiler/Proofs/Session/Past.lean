import TemplateCompiler.Proofs.Session.Opening

namespace TemplateCompiler.Session

variable {α β : Type} {s s' : Session}

structure Past where
  references : References := {}
  failed : Bool := false
  reports : List Report := []
  notes : List Note := []

/-- The session with what was recorded before it. The references are all from before. -/
def since (s : Session) (p : Past) : Session :=
  { s with
    references := p.references
    failed := p.failed || s.failed
    reports := p.reports ++ s.reports
    notes := p.notes ++ s.notes }

def resumed (p : Past) : EStateM.Result Fault Session α → EStateM.Result Fault Session α
  | .ok a s => .ok a (s.since p)
  | .error e s => .error e (s.since p)

def outlet (s : Session) : Sink × Value := (s.sink, s.context)

/-- From this session, the operation does the same whatever was recorded before it, and reports to the same outlet. -/
structure Oblivious (act : Act α) (s : Session) : Prop where
  resumes : ∀ p, act (s.since p) = resumed p (act s)
  outlet : (Act.final act s).outlet = s.outlet

namespace Oblivious

theorem of_ok {act : Act α} {a : α} (oblivious : Oblivious act s) (ran : act s = .ok a s') (p : Past) :
    act (s.since p) = .ok a (s'.since p) := by
  rw [oblivious.resumes p, ran]
  rfl

theorem of_error {act : Act α} {e : Fault} (oblivious : Oblivious act s) (failed : act s = .error e s') (p : Past) :
    act (s.since p) = .error e (s'.since p) := by
  rw [oblivious.resumes p, failed]
  rfl

theorem bind {act : Act α} {f : α → Act β} (first : Oblivious act s)
    (rest : ∀ a s', act s = .ok a s' → Oblivious (f a) s') : Oblivious (act >>= f) s := by
  constructor
  · intro p
    cases ran : act s with
    | ok a s' => rw [Act.bind_of_ok ran, Act.bind_of_ok (first.of_ok ran p), (rest a s' ran).resumes]
    | error e s' =>
      rw [Act.bind_of_error ran, Act.bind_of_error (first.of_error ran p)]
      rfl
  · exact Act.final_bind_rel (fun s s' : Session => s'.outlet = s.outlet) (fun before after => after.trans before)
      first.outlet fun a s' ran _ => (rest a s' ran).outlet

theorem between {enter exit : Act Unit} {body : Act α} (entry : Oblivious enter s)
    (inside : ∀ s', enter s = .ok () s' → Oblivious body s')
    (out : ∀ s', enter s = .ok () s' → Oblivious exit (Act.final body s')) :
    Oblivious (Act.between enter body exit) s := by
  constructor
  · intro p
    cases entered : enter s with
    | error e s₁ =>
      rw [Act.between_of_entry_error entered, Act.between_of_entry_error (entry.of_error entered p)]
      rfl
    | ok _ s₁ =>
      have entered' := entry.of_ok entered p
      have within := inside s₁ entered
      have last := out s₁ entered
      cases ran : body s₁ with
      | ok a s₂ =>
        have ran' := within.of_ok ran p
        rw [Act.final, ran] at last
        cases left : exit s₂ with
        | ok _ s₃ =>
          rw [Act.between_of_ok entered ran left, Act.between_of_ok entered' ran' (last.of_ok left p)]
          rfl
        | error e s₃ =>
          rw [Act.between_of_exit_error entered ran left, Act.between_of_exit_error entered' ran' (last.of_error left p)]
          rfl
      | error e s₂ =>
        have failed' := within.of_error ran p
        rw [Act.final, ran] at last
        cases left : exit s₂ with
        | ok _ s₃ =>
          rw [Act.between_of_error entered ran left, Act.between_of_error entered' failed' (last.of_ok left p)]
          rfl
        | error e' s₃ =>
          rw [Act.between_of_two_errors entered ran left,
            Act.between_of_two_errors entered' failed' (last.of_error left p)]
          rfl
  · exact Act.final_between_rel (fun s s' : Session => s'.outlet = s.outlet) (fun before after => after.trans before)
      entry.outlet (fun s' entered _ => (inside s' entered).outlet) fun s' entered _ => (out s' entered).outlet

theorem look {f : Session → Act α} (blind : ∀ p, f (s.since p) = f s) (rest : Oblivious (f s) s) :
    Oblivious (get >>= f) s := by
  constructor
  · intro p
    show f (s.since p) (s.since p) = _
    rw [blind]
    exact rest.resumes p
  · exact rest.outlet

end Oblivious

theorem oblivious_pure (a : α) (s : Session) : Oblivious (pure a : Act α) s := ⟨fun _ => rfl, rfl⟩

theorem oblivious_throw (fault : Fault) (s : Session) : Oblivious (throw fault : Act α) s := ⟨fun _ => rfl, rfl⟩

theorem oblivious_ofExcept (e : Except Fault α) (s : Session) : Oblivious (Act.ofExcept e) s := by
  cases e with
  | ok a => exact oblivious_pure a s
  | error fault => exact oblivious_throw fault s

theorem oblivious_onBuffer (act : Buffer.Act α) (s : Session) : Oblivious (onBuffer act) s := by
  constructor
  · intro p
    have same : (s.since p).buffer = s.buffer := rfl
    rw [onBuffer, onBuffer, same]
    cases act s.buffer <;> rfl
  · rw [final_onBuffer_eq]
    rfl

theorem oblivious_note (n : Note) (s : Session) : Oblivious (note n) s where
  resumes p := by
    show EStateM.Result.ok () { s.since p with notes := (p.notes ++ s.notes) ++ [n] } = _
    rw [List.append_assoc]
    rfl
  outlet := rfl

theorem oblivious_report (statement : Option Statement) (id : String) (args : Value) (s : Session) :
    Oblivious (report statement id args) s := by
  constructor
  · intro p
    have same : (s.since p).sink = s.sink := rfl
    rw [report_eq, report_eq, same]
    rcases s.sink with _ | ⟨channel, _ | level⟩
    · simp only [since, resumed, List.append_assoc]
    · rfl
    · simp only [since, resumed, List.append_assoc]
  · obtain ⟨_, _ | ⟨_, _ | _⟩⟩ := s <;> rfl

theorem oblivious_reportError (statement : Option Statement) (id : String) (args : Value) (s : Session) :
    Oblivious (reportError statement id args) s := by
  have flagged (s : Session) : Oblivious (modify ({ · with failed := true }) : Act Unit) s := by
    constructor
    · intro p
      simp only [Act.modify_apply, resumed, since, Bool.or_true]
    · rfl
  exact (flagged s).bind fun _ s' _ => (oblivious_note _ s').bind fun _ s'' _ => oblivious_report statement id args s''

theorem oblivious_reportWarning (statement : Option Statement) (id : String) (args : Value) (s : Session) :
    Oblivious (reportWarning statement id args) s :=
  (oblivious_note _ s).bind fun _ s' _ => oblivious_report statement id args s'

theorem Oblivious.asked {f : Bool → Act α} (rest : Oblivious (f s.buffer.isReady) s) : Oblivious (isReady >>= f) s :=
  ⟨rest.resumes, rest.outlet⟩

theorem oblivious_takeName (s : Session) : Oblivious takeName s where
  resumes p := by
    show EStateM.Result.ok _ _ = resumed p (EStateM.Result.ok _ _)
    simp only [resumed, since, List.append_assoc]
  outlet := rfl

theorem oblivious_macroSlot (name : String) (s : Session) : Oblivious (macroSlot name) s := by
  have same (p : Past) : (s.since p).macros = s.macros := rfl
  by_cases made : (s.macros.get (fun _ => some {}) name).2.calls ≠ s.macros.calls
  · constructor
    · intro p
      simp only [macroSlot, Act.get_bind, same, if_pos made]
      show EStateM.Result.ok _ _ = resumed p (EStateM.Result.ok _ _)
      simp only [resumed, since, List.append_assoc]
    · simp only [Act.final, macroSlot, Act.get_bind, if_pos made]
      rfl
  · constructor
    · intro p
      simp only [macroSlot, Act.get_bind, same, if_neg made]
      rfl
    · simp only [Act.final, macroSlot, Act.get_bind, if_neg made]
      rfl

theorem oblivious_setMacro (name : String) (definition : Option Statement) (s : Session) :
    Oblivious (setMacro name definition) s :=
  (oblivious_macroSlot name s).bind fun _ _ _ => ⟨fun _ => rfl, rfl⟩

/-! Inside a block -/

/-- Where a block is active, the operation does not look at the past, and leaves a block active. -/
structure Inward (act : Act α) : Prop where
  oblivious : ∀ s, s.buffer.isReady → Oblivious act s
  ready : ∀ s, s.buffer.isReady → (Act.final act s).buffer.isReady

namespace Inward

theorem ready_of_ok {act : Act α} {a : α} (inward : Inward act) (ready : s.buffer.isReady) (ran : act s = .ok a s') :
    s'.buffer.isReady := by
  have last := inward.ready s ready
  rwa [Act.final, ran] at last

theorem of_untouched {act : Act α} (untouched : Untouched act) (oblivious : ∀ s, Oblivious act s) : Inward act where
  oblivious s _ := oblivious s
  ready s ready := by rwa [untouched s]

theorem bind {act : Act α} {f : α → Act β} (first : Inward act) (rest : ∀ a, Inward (f a)) : Inward (act >>= f) where
  oblivious s ready := by
    apply (first.oblivious s ready).bind
    intro a s' ran
    exact (rest a).oblivious s' (first.ready_of_ok ready ran)
  ready s ready :=
    Act.final_bind_rel (fun s s' : Session => s.buffer.isReady → s'.buffer.isReady) (fun before after => after ∘ before)
      (first.ready s) (fun a s' _ _ => (rest a).ready s') ready

theorem look {f : Session → Act α} (blind : ∀ s p, f (since s p) = f s) (rest : ∀ s, Inward (f s)) :
    Inward (get >>= f) where
  oblivious s ready := .look (blind s) ((rest s).oblivious s ready)
  ready s ready := (rest s).ready s ready

theorem asked {f : Bool → Act α} (rest : Inward (f true)) : Inward (isReady >>= f) where
  oblivious s ready := by
    apply Oblivious.asked
    rw [ready]
    exact rest.oblivious s ready
  ready s ready := by
    rw [Act.final_bind_of_ok (isReady_of_ready ready)]
    exact rest.ready s ready

theorem of_operation (op : Buffer.Operation) (places : ∀ b : Buffer, Buffer.SamePlaces b (b.next op)) :
    Inward (onBuffer op.act) where
  oblivious s _ := oblivious_onBuffer op.act s
  ready s ready := by
    rw [final_onBuffer, Buffer.isReady, (places s.buffer).active]
    exact ready

theorem line (parts : List String) : Inward (emitLine parts) := by
  apply of_operation (.writeLine parts)
  intro b
  rw [Buffer.next_writeLine]
  exact .written b _

theorem shift (inward : Bool) : Inward (onBuffer (Buffer.shift inward)) := by
  apply of_operation (.shift inward)
  intro b
  rw [Buffer.next_shift]
  exact .shifted b inward

theorem indented {act : Act α} (body : Inward act) : Inward (indented act) where
  oblivious s ready := by
    apply Oblivious.between ((shift true).oblivious s ready)
    · intro s' entered
      exact body.oblivious s' ((shift true).ready_of_ok ready entered)
    · intro s' _
      exact oblivious_onBuffer _ _
  ready s ready :=
    Act.final_between_rel (fun s s' : Session => s.buffer.isReady → s'.buffer.isReady)
      (fun before after => after ∘ before) ((shift true).ready s) (fun s' _ _ => body.ready s')
      (fun _ _ _ => (shift false).ready _) ready

end Inward

theorem oblivious_startBlock (name : String) (level : Nat) (s : Session) :
    Oblivious (startBlock name (.count level)) s := by
  have noted : Oblivious (do onBuffer (Buffer.startBlock name (.count level)); note (.blockAdded name level)) s :=
    (oblivious_onBuffer _ s).bind fun _ s' _ => oblivious_note _ s'
  exact noted

theorem oblivious_enter (name : String) (s : Session) : Oblivious (enter name) s := by
  apply (oblivious_onBuffer _ s).bind
  intro _ s' _
  have looked : Oblivious getBuffer s' := ⟨fun _ => rfl, rfl⟩
  apply looked.bind
  intro b s'' _
  cases b.isReady with
  | false => exact oblivious_note _ s''
  | true => exact oblivious_pure _ s''

theorem Inward.oblivious_newBlock {body : Act Unit} (inward : Inward body) (name : String) (level : Nat) (s : Session) :
    Oblivious (do startBlock name (.count level); within name body) s := by
  apply (oblivious_startBlock name level s).bind
  intro _ s' started
  apply Oblivious.between (oblivious_enter name s')
  · intro s'' entered
    cases started
    apply inward.oblivious s''
    rw [buffer_of_entered entered, Buffer.next_enter, Buffer.isReady, (Buffer.SamePlaces.renewed _).active]
    show ((s.buffer.addBlock name (.count level)).find? name).isSome
    rw [Buffer.find?_addBlock]
    rfl
  · intro s'' _
    exact oblivious_onBuffer _ _

end TemplateCompiler.Session
