import TemplateCompiler.Proofs.Buffer.Draft
import TemplateCompiler.Proofs.Session.Composition

namespace TemplateCompiler

theorem Buffer.act_of_answer {b : Buffer} {op : Operation} (fine : b.answer op = .ok ()) :
    op.act b = .ok () (b.next op) := by
  rw [answer, Act.outcome] at fine
  rw [next, Act.final]
  cases ran : op.act b with
  | ok _ b' => rfl
  | error fault b' =>
    rw [ran] at fine
    cases fine

namespace Session

variable {α β : Type} {k level : Nat} {d d' : Draft} {b : Buffer} {op : Buffer.Operation}

theorem step_of_takes (describes : d.Describes b) (takes : d.Takes op) (can : (b.next op).CanIndent) (s : Session)
    (unit : Option String) :
    onBuffer op.act (s.dressed unit b) = .ok () (s.dressed unit (b.next op)) ∧ (d.next op).Describes (b.next op) := by
  obtain ⟨fine, describes'⟩ := describes.next takes can
  exact ⟨onBuffer_of_ok (Buffer.act_of_answer fine), describes'⟩

theorem buffer_of_redressed {act : Act α} {s : Session} {unit : Option String} {result : EStateM.Result Fault Session α}
    (ran : act s = redressed unit b result) : (Act.final act s).buffer = b := by
  rw [Act.final, ran]
  cases result <;> rfl

namespace Regime

/-- From any session and any draft there is one answer, one session and one draft in the end, for all units that fit and
    buffers that the draft describes. -/
def Uniform (r : Regime) (act : Act α) : Prop :=
  ∀ (s : Session) (d : Draft), ∃ (result : EStateM.Result Fault Session α) (d' : Draft),
    ∀ unit b, d.Describes b → r.starts b →
      ∃ b', act (s.dressed unit b) = redressed unit b' result ∧ d'.Describes b'

variable {r : Regime} {act : Act α}

theorem uniform_of_blind (blind : Blind act) : r.Uniform act := by
  intro s d
  exact ⟨act s, d, fun unit b describes _ => ⟨b, blind s unit b, describes⟩⟩

theorem Uniform.bind {f : α → Act β} (first : r.Uniform act) (allowed : r.Allows act) (rest : ∀ a, r.Uniform (f a)) :
    r.Uniform (act >>= f) := by
  intro s d
  obtain ⟨result, d', same⟩ := first s d
  cases result with
  | error e s' =>
    refine ⟨.error e s', d', fun unit b describes starts => ?_⟩
    obtain ⟨b', ran, describes'⟩ := same unit b describes starts
    exact ⟨b', Act.bind_of_error ran f, describes'⟩
  | ok a s' =>
    obtain ⟨result, d'', same'⟩ := rest a s' d'
    refine ⟨result, d'', fun unit b describes starts => ?_⟩
    obtain ⟨b', ran, describes'⟩ := same unit b describes starts
    -- the next step starts where the first one left the navigation
    have returns := (allowed (s.dressed unit b) starts).2
    rw [buffer_of_redressed ran] at returns
    obtain ⟨b'', ran', describes''⟩ := same' unit b' describes' (r.keeps starts returns)
    exact ⟨b'', (Act.bind_of_ok ran f).trans ran', describes''⟩

/-! Inside a block -/

theorem uniform_look {f : Session → Act α} (blind : ∀ s unit b, f (s.dressed unit b) = f s)
    (rest : ∀ s, r.Uniform (f s)) : r.Uniform (get >>= f) := by
  intro s d
  obtain ⟨result, d', same⟩ := rest s s d
  refine ⟨result, d', fun unit b describes starts => ?_⟩
  obtain ⟨b', ran, describes'⟩ := same unit b describes starts
  rw [Act.get_bind, blind]
  exact ⟨b', ran, describes'⟩

theorem uniform_of_answer {a : α} {f : α → Act β} (answer : ∀ s, r.starts s.buffer → act s = .ok a s)
    (rest : r.Uniform (f a)) : r.Uniform (act >>= f) := by
  intro s d
  obtain ⟨result, d', same⟩ := rest s d
  refine ⟨result, d', fun unit b describes starts => ?_⟩
  rw [Act.bind_of_ok (answer (s.dressed unit b) starts)]
  exact same unit b describes starts

theorem uniform_emitLine (parts : List String) : (inside k).Uniform (emitLine parts) := by
  intro s d
  refine ⟨.ok () s, d.next (.writeLine parts), fun unit b describes starts => ?_⟩
  have takes : d.Takes (.writeLine parts) := describes.takes _ rfl fun _ => starts.1
  have returns := (allows_emitLine parts (s.dressed unit b) starts).2
  have final := final_onBuffer (.writeLine parts) (s.dressed unit b)
  have can := (starts.2.of_returns returns).canIndent
  rw [emitLine, writeLine] at can
  obtain ⟨ran, describes'⟩ := step_of_takes describes takes (final ▸ can) s unit
  exact ⟨_, ran, describes'⟩

theorem Uniform.indented (body : (inside k).Uniform act) (allowed : (inside k).Allows act) :
    (inside (k + 1)).Uniform (indented act) := by
  intro s d
  obtain ⟨result, d', same⟩ := body s (d.next (.shift true))
  refine ⟨result, d'.next (.shift false), fun unit b describes starts => ?_⟩
  obtain ⟨i, active⟩ := Option.isSome_iff_exists.mp starts.1
  obtain ⟨b₁, deeper, active₁, ample₁⟩ := starts.2.increase active
  have next : b.next (.shift true) = b₁ := Buffer.next_of_ok deeper
  have takes : d.Takes (.shift true) := describes.takes _ rfl fun _ => starts.1
  obtain ⟨entered, describes₁⟩ := step_of_takes describes takes (next ▸ ample₁.canIndent) s unit
  have start₁ : (inside k).starts b₁ := ⟨by rw [Buffer.isReady, active₁]; rfl, ample₁⟩
  rw [next] at entered describes₁
  obtain ⟨b₂, ran, describes₂⟩ := same unit b₁ describes₁ start₁
  have ready₂ : b₂.isReady := by
    have returns := (allowed (s.dressed unit b₁) start₁).2
    rw [buffer_of_redressed ran] at returns
    rw [Buffer.isReady, returns.active]
    exact start₁.1
  have takes' : d'.Takes (.shift false) := describes₂.takes _ rfl fun _ => ready₂
  -- the way out ends where the way in began
  have can : (b₂.next (.shift false)).CanIndent := by
    have returns := (allowed.indented (s.dressed unit b) starts).2
    have out := final_onBuffer (.shift false) (Act.final act (s.dressed unit b₁))
    rw [buffer_of_redressed ran] at out
    rw [← out, ← Act.final_between entered]
    exact (starts.2.of_returns returns).canIndent
  refine ⟨b₂.next (.shift false), ?_, (step_of_takes describes₂ takes' can s unit).2⟩
  cases result with
  | ok a s' => exact Act.between_of_ok entered ran (step_of_takes describes₂ takes' can s' unit).1
  | error e s' => exact Act.between_of_error entered ran (step_of_takes describes₂ takes' can s' unit).1

end Regime

theorem Inside.uniform {act : Act α} (inside : Inside k act) : (Regime.inside k).Uniform act := by
  induction inside with
  | aside aside => exact Regime.uniform_of_blind aside.blind
  | look blind _ ih => exact Regime.uniform_look blind ih
  | ready _ ih => exact Regime.uniform_of_answer (fun _ starts => isReady_of_ready starts.1) ih
  | line parts => exact Regime.uniform_emitLine parts
  | bind first _ ih ih' => exact ih.bind first.allows ih'
  | indented body ih => exact ih.indented body.allows

/-! Outside of all blocks -/

theorem Inside.uniform_newBlock {body : Act Unit} (name : String) (shallow : level + k ≤ deepest)
    (inside : Inside k body) :
    Regime.outside.Uniform (do startBlock name (.count level); within name body) := by
  intro s d
  let added : Session := { s with notes := s.notes ++ [.blockAdded name level] }
  let started := d.next (.startBlock name (.count level))
  obtain ⟨result, d', same⟩ := inside.uniform added (started.next (.enter name))
  refine ⟨result, d'.next .leave, fun unit b describes starts => ?_⟩
  obtain ⟨idle, short⟩ := starts
  have canStart : (b.next (.startBlock name (.count level))).CanIndent := ⟨_, Buffer.renewal_of_idle idle⟩
  obtain ⟨-, describes₁⟩ := describes.next (describes.takes _ rfl fun needs => by cases needs) canStart
  have ran₁ : startBlock name (.count level) (s.dressed unit b) =
      .ok () (added.dressed unit (b.addBlock name (.count level))) := rfl
  rcases Buffer.enter_cases idle name (Nat.le_of_add_right_le shallow) with
    ⟨b₂, ran₂, writing, sameUnit, -⟩ | ⟨fault, b₂, -, long⟩
  swap
  · exact absurd long short
  have next₂ : (b.addBlock name (.count level)).next (.enter name) = b₂ := Buffer.next_of_ok ran₂
  have start₂ : (Regime.inside k).starts b₂ :=
    ⟨by rw [Buffer.isReady, writing.active]; rfl, writing.ample shallow (by rw [sameUnit]; exact short)⟩
  have entered : enter name (added.dressed unit (b.addBlock name (.count level))) = .ok () (added.dressed unit b₂) :=
    enter_of_ok ran₂ start₂.1
  have describes₂ : (started.next (.enter name)).Describes b₂ := by
    have takes := describes₁.takes (.enter name) rfl fun needs => by cases needs
    rw [← next₂]
    exact (describes₁.next takes (next₂ ▸ start₂.2.canIndent)).2
  obtain ⟨b₃, ran₃, describes₃⟩ := same unit b₂ describes₂ start₂
  have canLeave : (b₃.next .leave).CanIndent := by
    have returns := (Regime.allows_newBlock name shallow inside.allows (s.dressed unit b) ⟨idle, short⟩).2
    have out := final_onBuffer .leave (Act.final body (added.dressed unit b₂))
    rw [buffer_of_redressed ran₃] at out
    rw [Act.final_bind_of_ok ran₁, within, Act.final_between entered] at returns
    rw [← out]
    exact ⟨_, Buffer.renewal_of_idle (returns.active.trans idle)⟩
  have takes := describes₃.takes .leave rfl fun needs => by cases needs
  refine ⟨b₃.next .leave, ?_, (step_of_takes describes₃ takes canLeave s unit).2⟩
  rw [Act.bind_of_ok ran₁]
  cases result with
  | ok a s' => exact Act.between_of_ok entered ran₃ (step_of_takes describes₃ takes canLeave s' unit).1
  | error e s' => exact Act.between_of_error entered ran₃ (step_of_takes describes₃ takes canLeave s' unit).1

theorem Outside.uniform {act : Act α} (outside : Outside act) : Regime.outside.Uniform act := by
  induction outside with
  | blind blind => exact Regime.uniform_of_blind blind
  | idle _ ih => exact Regime.uniform_of_answer (fun _ starts => isReady_of_idle starts.1) ih
  | bind first _ ih ih' => exact ih.bind first.allows ih'
  | newBlock name shallow inside => exact inside.uniform_newBlock name shallow

end Session

end TemplateCompiler
