import TemplateCompiler.Proofs.Session.Emission
import TemplateCompiler.Proofs.Buffer.Restoration

namespace TemplateCompiler.Session

variable {α β : Type} {s s' : Session}

/-- The operation leaves the buffer alone, wherever it starts and however it ends. -/
def Untouched (act : Act α) : Prop := ∀ s, (Act.final act s).buffer = s.buffer

theorem untouched_pure (a : α) : Untouched (pure a : Act α) := fun _ => rfl

theorem untouched_ofExcept (e : Except Fault α) : Untouched (Act.ofExcept e) := by
  intro s
  cases e <;> rfl

theorem untouched_get : Untouched (get : Act Session) := fun _ => rfl

theorem untouched_note (n : Note) : Untouched (note n) := fun _ => rfl

theorem Untouched.bind {act : Act α} {f : α → Act β} (first : Untouched act) (rest : ∀ a, Untouched (f a)) :
    Untouched (act >>= f) := by
  intro s
  have same := Act.final_bind_rel (fun s s' : Session => s.buffer = s'.buffer) Eq.trans (first s).symm
    fun a s' _ _ => (rest a s').symm
  exact same.symm

theorem untouched_isReady : Untouched isReady := fun _ => rfl

/-- Every buffer that the session passes through has the property, the first and the last among them. -/
inductive Along (P : Buffer → Prop) : {α : Type} → Act α → Session → Prop where
  | untouched {α : Type} {act : Act α} {s : Session} (untouched : Untouched act) (here : P s.buffer) : Along P act s
  | operation {s : Session} (op : Buffer.Operation) (here : P s.buffer) (next : P (s.buffer.next op)) :
    Along P (onBuffer op.act) s
  | bind {α β : Type} {act : Act α} {f : α → Act β} {s : Session} (first : Along P act s)
    (rest : ∀ a s', act s = .ok a s' → Along P (f a) s') : Along P (act >>= f) s
  | between {α : Type} {enter exit : Act Unit} {body : Act α} {s : Session} (entry : Along P enter s)
    (inside : ∀ s', enter s = .ok () s' → Along P body s')
    (out : ∀ s', enter s = .ok () s' → Along P exit (Act.final body s')) : Along P (Act.between enter body exit) s

theorem final_onBuffer (op : Buffer.Operation) (s : Session) :
    (Act.final (onBuffer op.act) s).buffer = s.buffer.next op := congrArg Session.buffer (final_onBuffer_eq op.act s)

namespace Along

variable {P Q : Buffer → Prop} {act : Act α}

theorem mono (weaker : ∀ b, P b → Q b) (along : Along P act s) : Along Q act s := by
  induction along with
  | untouched untouched here => exact .untouched untouched (weaker _ here)
  | operation op here next => exact .operation op (weaker _ here) (weaker _ next)
  | bind _ _ first rest => exact .bind first rest
  | between _ _ _ entry inside out => exact .between entry inside out

theorem start (along : Along P act s) : P s.buffer := by
  induction along with
  | untouched _ here => exact here
  | operation _ here _ => exact here
  | bind _ _ ih _ => exact ih
  | between _ _ _ ih _ _ => exact ih

theorem bind_of_ok {f : α → Act β} {a : α} (ran : act s = .ok a s') (first : Along P act s) (rest : Along P (f a) s') :
    Along P (act >>= f) s := by
  refine .bind first fun b s'' ran' => ?_
  rw [ran] at ran'
  cases ran'
  exact rest

theorem between_of_ok {enter exit : Act Unit} (entered : enter s = .ok () s') (entry : Along P enter s)
    (inside : Along P act s') (out : Along P exit (Act.final act s')) : Along P (Act.between enter act exit) s := by
  refine .between entry (fun s'' entered' => ?_) fun s'' entered' => ?_
  all_goals
    rw [entered] at entered'
    cases entered'
  · exact inside
  · exact out

theorem preserves (step : ∀ b op, P b → P (b.next op) → Q b → Q (b.next op)) (along : Along P act s)
    (start : Q s.buffer) : Q (Act.final act s).buffer := by
  have chain {s s' s'' : Session} (first : Q s.buffer → Q s'.buffer) (second : Q s'.buffer → Q s''.buffer) :
      Q s.buffer → Q s''.buffer := second ∘ first
  induction along with
  | untouched untouched here =>
    rw [untouched]
    exact start
  | operation op here next =>
    rw [final_onBuffer]
    exact step _ op here next start
  | bind first rest ih ih' =>
    exact Act.final_bind_rel (fun s s' => Q s.buffer → Q s'.buffer) chain ih (fun a s' ran _ => ih' a s' ran) start
  | between entry inside out ih ih' ih'' =>
    exact Act.final_between_rel (fun s s' => Q s.buffer → Q s'.buffer) chain ih (fun s' entered _ => ih' s' entered)
      (fun s' entered _ => ih'' s' entered) start

theorem final (along : Along P act s) : P (Act.final act s).buffer :=
  along.preserves (fun _ _ _ next _ => next) along.start

theorem followed {f : α → Act β} (along : Along P act s) (rest : ∀ a, Untouched (f a)) : Along P (act >>= f) s := by
  refine .bind along fun a s' ran => .untouched (rest a) ?_
  have last := along.final
  rwa [Act.final, ran] at last

end Along

variable {P : Buffer → Prop}

theorem along_startBlock {name : String} {n : Int} (here : P s.buffer) (next : P (s.buffer.addBlock name (.count n))) :
    Along P (startBlock name (.count n)) s := by
  have added : Along P (onBuffer (Buffer.Operation.startBlock name (.count n)).act) s := .operation _ here next
  exact added.followed fun _ => untouched_note _

theorem along_enter {name : String} (here : P s.buffer) (next : P (s.buffer.next (.enter name))) :
    Along P (enter name) s := by
  have entered : Along P (onBuffer (Buffer.Operation.enter name).act) s := .operation _ here next
  refine entered.followed fun _ => ?_
  have look : Untouched getBuffer := fun _ => rfl
  refine look.bind fun b => ?_
  cases b.isReady with
  | false => exact untouched_note _
  | true => exact untouched_pure _

end TemplateCompiler.Session
