import TemplateCompiler.Proofs.Session.Passage

namespace TemplateCompiler

namespace Session

variable {α β : Type} {k : Nat}

/-- Where operations may start, and which buffers they may pass through from there. One may follow another. -/
structure Regime where
  starts : Buffer → Prop
  passes : Buffer → Buffer → Prop
  refl : ∀ b, passes b b
  keeps : ∀ {b b'}, starts b → Buffer.Returns b b' → starts b'
  trans : ∀ {b b' c}, passes b b' → Buffer.Returns b b' → passes b' c → passes b c

namespace Regime

def inside (k : Nat) : Regime where
  starts b := b.isReady ∧ b.Ample k
  passes := Buffer.SamePlaces
  refl := .refl
  keeps start returns := ⟨by rw [Buffer.isReady, returns.active]; exact start.1, start.2.of_returns returns⟩
  trans first _ second := first.trans second

def outside : Regime where
  starts b := b.active = none ∧ ¬ TooLong b.unit
  passes b c := c.depth ≤ b.depth + 1
  refl b := Nat.le_succ b.depth
  keeps start returns := ⟨returns.active.trans start.1, by rw [returns.unit]; exact start.2⟩
  trans _ returns later := by rwa [Buffer.depth, Buffer.depth, returns.stack] at later

/-- However the operation ends, the navigation is put back, and nothing is passed through that is not allowed. -/
def Allows (r : Regime) (act : Act α) : Prop :=
  ∀ s, r.starts s.buffer → Along (r.passes s.buffer) act s ∧ Buffer.Returns s.buffer (Act.final act s).buffer

variable {r : Regime} {act : Act α}

theorem allows_of_untouched (untouched : Untouched act) : r.Allows act := by
  intro s _
  refine ⟨.untouched untouched (r.refl s.buffer), ?_⟩
  rw [untouched]
  exact .refl s.buffer

theorem Allows.bind {f : α → Act β} (first : r.Allows act) (rest : ∀ a, r.Allows (f a)) : r.Allows (act >>= f) := by
  intro s start
  obtain ⟨along, returns⟩ := first s start
  have near := along.final
  have later (a : α) (s' : Session) (ran : act s = .ok a s') :
      Along (r.passes s.buffer) (f a) s' ∧ Buffer.Returns s.buffer (Act.final (f a) s').buffer := by
    rw [Act.final, ran] at near returns
    obtain ⟨along', returns'⟩ := rest a s' (r.keeps start returns)
    exact ⟨along'.mono fun c => r.trans near returns, returns.trans returns'⟩
  refine ⟨.bind along fun a s' ran => (later a s' ran).1, ?_⟩
  cases ran : act s with
  | ok a s' =>
    rw [Act.final_bind_of_ok ran]
    exact (later a s' ran).2
  | error e s' =>
    rw [Act.final, ran] at returns
    rw [Act.final_bind_of_error ran]
    exact returns

theorem allows_of_answer {a : α} {f : α → Act β} (untouched : Untouched act)
    (answer : ∀ s, r.starts s.buffer → act s = .ok a s) (rest : r.Allows (f a)) : r.Allows (act >>= f) := by
  intro s start
  have ran := answer s start
  obtain ⟨along, returns⟩ := rest s start
  refine ⟨.bind_of_ok ran (.untouched untouched (r.refl s.buffer)) along, ?_⟩
  rw [Act.final_bind_of_ok ran]
  exact returns

/-! Inside a block -/

theorem allows_writeLine (parts : List String) : (inside k).Allows (writeLine (Buffer.texts parts)) := by
  intro s _
  have written := Buffer.next_writeLine s.buffer parts
  refine ⟨.operation (.writeLine parts) (.refl _) (written ▸ .written _ _), ?_⟩
  have final := final_onBuffer (.writeLine parts) s
  rw [written] at final
  exact final ▸ .written _ _

theorem allows_emitLine (parts : List String) : (inside k).Allows (emitLine parts) := allows_writeLine parts

theorem allows_ready {f : Bool → Act β} (rest : (inside k).Allows (f true)) : (inside k).Allows (isReady >>= f) := by
  exact allows_of_answer untouched_isReady (fun s start => isReady_of_ready start.1) rest

theorem Allows.indented (body : (inside k).Allows act) : (inside (k + 1)).Allows (indented act) := by
  rintro s ⟨ready, ample⟩
  obtain ⟨i, active⟩ := Option.isSome_iff_exists.mp ready
  obtain ⟨b₁, deeper, active₁, ample₁⟩ := ample.increase active
  have entered : increase s = .ok () { s with buffer := b₁ } := onBuffer_of_ok deeper
  have next : s.buffer.next (.shift true) = b₁ := Buffer.next_of_ok deeper
  have places : Buffer.SamePlaces s.buffer b₁ := by
    rw [← next, Buffer.next_shift]
    exact .shifted s.buffer true
  have start : (inside k).starts b₁ := ⟨by rw [Buffer.isReady, active₁]; rfl, ample₁⟩
  obtain ⟨along, returns⟩ := body { s with buffer := b₁ } start
  have inner := along.final
  let last := Act.final act { s with buffer := b₁ }
  -- nothing inside makes a block
  have known (j : Nat) (_ : s.buffer.active = some j) (old : j < last.buffer.blocks.length) :
      j < s.buffer.blocks.length := by rwa [inner.length, places.length] at old
  obtain ⟨b₃, back, returns'⟩ := returns.indented known deeper (returns.canShift known deeper ample.canIndent)
  have left : decrease last = .ok () { last with buffer := b₃ } := onBuffer_of_ok back
  refine ⟨.between_of_ok entered (.operation (.shift true) (.refl _) (next ▸ places)) ?_ ?_, ?_⟩
  · exact along.mono fun c => places.trans
  · refine .operation (.shift false) (places.trans inner) ?_
    rw [Buffer.next_shift]
    exact (places.trans inner).trans (.shifted _ false)
  · rw [Session.indented, Act.final_between entered, Act.final, left]
    exact returns'

/-! Outside of all blocks -/

theorem allows_idle {f : Bool → Act β} (rest : outside.Allows (f false)) : outside.Allows (isReady >>= f) := by
  exact allows_of_answer untouched_isReady (fun s start => isReady_of_idle start.1) rest

/-- Into a block that can be entered and out of it again, with something inside that puts the navigation back. -/
theorem within_allowed {s : Session} {b₁ : Buffer} {name : String} (idle : s.buffer.active = none)
    (ran : Buffer.enter name s.buffer = .ok () b₁) (ready : b₁.isReady)
    (inside : Along (Buffer.SamePlaces b₁) act { s with buffer := b₁ } ∧
      Buffer.Returns b₁ (Act.final act { s with buffer := b₁ }).buffer) :
    Along (outside.passes s.buffer) (within name act) s ∧
      Buffer.Returns s.buffer (Act.final (within name act) s).buffer := by
  obtain ⟨along, returns⟩ := inside
  have entered : enter name s = .ok () { s with buffer := b₁ } := enter_of_ok ran ready
  let last := Act.final act { s with buffer := b₁ }
  have opened : b₁.stack = none :: s.buffer.stack := by rw [Buffer.stack_of_enter ran, idle]
  have pending : last.buffer.stack = none :: s.buffer.stack := along.final.stack.trans opened
  have can : last.buffer.pop.CanIndent := by
    refine ⟨last.buffer.pop.indent, Buffer.renewal_of_idle ?_⟩
    rw [Buffer.pop_of_stack pending]
  have vacuous (i : Nat) (active : s.buffer.active = some i) : i < s.buffer.blocks.length := by
    rw [idle] at active
    cases active
  obtain ⟨b₃, back, returns'⟩ := Buffer.Returns.within vacuous ran returns can
  have left : leave last = .ok () { last with buffer := b₃ } := onBuffer_of_ok back
  have deep {c : Buffer} (stack : c.stack = none :: s.buffer.stack) : outside.passes s.buffer c :=
    Nat.le_of_eq (congrArg List.length stack)
  have shallow : outside.passes s.buffer b₃ := by
    have depth : b₃.depth = s.buffer.depth := congrArg List.length returns'.stack
    exact Nat.le_trans (Nat.le_of_eq depth) (Nat.le_succ _)
  have first : s.buffer.next (.enter name) = b₁ := Buffer.next_of_ok ran
  have final : last.buffer.next .leave = b₃ := Buffer.next_of_ok back
  refine ⟨.between_of_ok entered (along_enter (Nat.le_succ _) (first ▸ deep opened)) ?_ ?_, ?_⟩
  · exact along.mono fun c places => deep (places.stack.trans opened)
  · exact .operation .leave (deep pending) (final ▸ shallow)
  · rw [within, Act.final_between entered, Act.final, left]
    exact returns'

theorem allows_newBlock {level : Nat} (name : String) (shallow : level + k ≤ deepest) {act : Act Unit}
    (body : (inside k).Allows act) : outside.Allows (do startBlock name (.count level); within name act) := by
  rintro s ⟨idle, short⟩
  let added : Session := { s with
    buffer := s.buffer.addBlock name (.count level)
    notes := s.notes ++ [.blockAdded name level] }
  have started : startBlock name (.count level) s = .ok () added := rfl
  have shallow' : level ≤ deepest := by omega
  rcases Buffer.enter_cases idle name shallow' with ⟨b₁, ran, writing, unit, -⟩ | ⟨fault, b, -, long⟩
  · have ready : b₁.isReady = true := by rw [Buffer.isReady, writing.active]; rfl
    have ample : b₁.Ample k := writing.ample shallow (by rw [unit]; exact short)
    have written := body { added with buffer := b₁ } ⟨ready, ample⟩
    obtain ⟨along, returns⟩ := within_allowed (s := added) idle ran ready written
    refine ⟨.bind_of_ok started (along_startBlock (Nat.le_succ _) (Nat.le_succ _)) along, ?_⟩
    have vacuous (i : Nat) (active : s.buffer.active = some i) : i < s.buffer.blocks.length := by
      rw [idle] at active
      cases active
    rw [Act.final_bind_of_ok started]
    exact (Buffer.Returns.addBlock vacuous name _).trans returns
  · exact absurd long short

end Regime

end Session

end TemplateCompiler
