import TemplateCompiler.Session.Outcome
import TemplateCompiler.Proofs.Session.Upheld

namespace TemplateCompiler

namespace Play

open Session (Upheld)

variable {α β : Type} {R : Session → Session → Prop}

/-- The relation holds between the session at the start and the one at the end, however the play ends. -/
def Upholds (R : Session → Session → Prop) (act : Act α) : Prop := ∀ p, R p.session (Act.final act p).session

variable (upheld : Upheld R)

include upheld

theorem upholds_bind {act : Act α} {f : α → Act β} (first : Upholds R act) (rest : ∀ a, Upholds R (f a)) :
    Upholds R (act >>= f) := fun p =>
  Act.final_bind_rel (fun p p' => R p.session p'.session) upheld.trans (first p) fun a p' _ _ => rest a p'

theorem upholds_between {enter exit : Act Unit} {body : Act α} (entry : Upholds R enter) (inside : Upholds R body)
    (out : Upholds R exit) : Upholds R (Act.between enter body exit) := fun p =>
  Act.final_between_rel (fun p p' => R p.session p'.session) upheld.trans (entry p) (fun p' _ _ => inside p')
    fun _ _ _ => out _

theorem upholds_still {act : Act α} (same : ∀ p, (Act.final act p).session = p.session) : Upholds R act := by
  intro p
  rw [same p]
  exact upheld.quiet (.refl _)

theorem upholds_pure (a : α) : Upholds R (pure a : Act α) := upholds_still upheld fun _ => rfl

theorem upholds_throw (fault : Fault) : Upholds R (throw fault : Act α) := upholds_still upheld fun _ => rfl

theorem upholds_ofExcept (e : Except Fault α) : Upholds R (Act.ofExcept e) := by
  cases e with
  | ok a => exact upholds_pure upheld a
  | error fault => exact upholds_throw upheld fault

theorem upholds_record (item : TraceItem) : Upholds R (record item) := upholds_still upheld fun _ => rfl

theorem upholds_get : Upholds R (MonadState.get : Act Play) := upholds_still upheld fun _ => rfl

omit upheld in
theorem upholds_onSession {act : Session.Act α} (upholds : Session.Upholds R act) : Upholds R (onSession act) := by
  intro p
  have step := upholds p.session
  simp only [Act.final, onSession] at step ⊢
  cases ran : act p.session <;> rw [ran] at step <;> exact step

theorem upholds_asked {act : Session.Act α} (upholds : Session.Upholds R act) (f : α → β) :
    Upholds R (do return f (← onSession act) : Act β) :=
  upholds_bind upheld (upholds_onSession upholds) fun _ => upholds_pure upheld _

theorem upholds_need (field : String) (place : Option Statement) : Upholds R (need field place) := by
  cases place with
  | none => exact upholds_throw upheld _
  | some c => exact upholds_pure upheld c

theorem upholds_whole (definition : Option Statement) : Upholds R (whole definition) := by
  unfold whole
  split
  · exact upholds_pure upheld _
  · exact upholds_throw upheld _

theorem upholds_handlePlaces {handle : Handler} (handles : ∀ c, Upholds R (handle c))
    (places : List (Option Statement)) : Upholds R (places.forM (handlePlace handle)) := by
  induction places with
  | nil => exact upholds_pure upheld ()
  | cons place rest ih =>
    have first := upholds_bind upheld (upholds_need upheld "name" place) handles
    exact upholds_bind upheld first fun _ => ih

theorem upholds_step {handle : Handler} (handles : ∀ c, Upholds R (handle c)) (current : Option Statement)
    (action : Action) : Upholds R (step handle current action) := by
  cases action with
  | startBlock name level => exact upholds_asked upheld (upheld.startBlock name level) _
  | enter name => exact upholds_asked upheld (upheld.enter name) _
  | leave => exact upholds_asked upheld upheld.leave _
  | hasBlock name => exact upholds_asked upheld (upheld.look _) _
  | blockContent name => exact upholds_asked upheld (upheld.blockContent name) _
  | blockNames => exact upholds_bind upheld (upholds_get upheld) fun _ => upholds_pure upheld _
  | isReady => exact upholds_asked upheld upheld.isReady _
  | increase => exact upholds_asked upheld upheld.increase _
  | decrease => exact upholds_asked upheld upheld.decrease _
  | write pieces => exact upholds_asked upheld (upheld.write pieces) _
  | writeLine pieces => exact upholds_asked upheld (upheld.writeLine pieces) _
  | setUnit unit => exact upholds_asked upheld (upheld.onBuffer (.setUnit unit)) _
  | addReferences refs => exact upholds_asked upheld (upheld.addReferences refs) _
  | declaration => exact upholds_asked upheld (upheld.look _) _
  | references => exact upholds_bind upheld (upholds_get upheld) fun _ => upholds_pure upheld _
  | takeName => exact upholds_asked upheld upheld.takeName _
  | literal json => exact upholds_bind upheld (upholds_ofExcept upheld _) fun _ => upholds_pure upheld _
  | macroSlot name =>
    exact upholds_bind upheld (upholds_onSession (upheld.macroSlot name)) fun _ =>
      upholds_bind upheld (upholds_whole upheld _) fun _ => upholds_pure upheld _
  | setMacro name definition => exact upholds_asked upheld (upheld.setMacro name _) _
  | viewSlot name =>
    exact upholds_bind upheld (upholds_onSession (upheld.viewSlot name)) fun _ =>
      upholds_bind upheld (upholds_whole upheld _) fun _ => upholds_pure upheld _
  | setView name definition count => exact upholds_asked upheld (upheld.setView name _ count) _
  | symbols => exact upholds_bind upheld (upholds_get upheld) fun _ => upholds_pure upheld _
  | emitGuarded expr subject errorName => exact upholds_asked upheld (upheld.emitGuarded expr _ errorName) _
  | emitLineNumber json =>
    exact upholds_bind upheld (upholds_ofExcept upheld _) fun line =>
      upholds_asked upheld (upheld.emitLineNumber line) _
  | report isError subject id args =>
    refine upholds_bind upheld (upholds_onSession ?_) fun _ => upholds_pure upheld _
    cases isError with
    | false => exact upheld.reportWarning _ id args
    | true => exact upheld.reportError _ id args
  | setContext json =>
    exact upholds_bind upheld (upholds_ofExcept upheld _) fun context =>
      upholds_bind upheld (upholds_onSession (upheld.of_quiet fun _ => ⟨rfl, rfl, rfl⟩)) fun _ => upholds_pure upheld _
  | handleAll places =>
    exact upholds_bind upheld (upholds_handlePlaces upheld handles places) fun _ => upholds_pure upheld _
  | handle subject =>
    exact upholds_bind upheld (upholds_bind upheld (upholds_need upheld _ _) handles) fun _ => upholds_pure upheld _
  | handleContent =>
    exact upholds_bind upheld (upholds_need upheld _ current) fun c =>
      upholds_bind upheld (upholds_handlePlaces upheld handles c.content) fun _ => upholds_pure upheld _
  | writeParam =>
    exact upholds_bind upheld (upholds_need upheld _ current) fun c =>
      upholds_asked upheld (upheld.writeLine [c.param]) _
  | classText classpath => exact upholds_asked upheld (upheld.classText classpath) _
  | surroundings => exact upholds_bind upheld (upholds_get upheld) fun _ => upholds_pure upheld _
  | indented body => exact upholds_pure upheld _
  | within name body => exact upholds_pure upheld _

omit upheld in
theorem run_eq_step {handle : Handler} {current : Option Statement} {action : Action}
    (plain : ∀ body, action ≠ .indented body) (plain' : ∀ name body, action ≠ .within name body) :
    run handle current action = step handle current action := by
  rw [run]
  · exact plain
  · exact plain'

mutual

theorem upholds_run {handle : Handler} (handles : ∀ c, Upholds R (handle c)) (current : Option Statement)
    (action : Action) : Upholds R (run handle current action) := by
  cases action with
  | indented body =>
    have played := upholds_between upheld (upholds_onSession upheld.increase) (upholds_runInside handles current body)
      (upholds_onSession upheld.decrease)
    rw [run]
    exact upholds_bind upheld played fun _ => upholds_pure upheld _
  | within name body =>
    have played := upholds_between upheld (upholds_onSession (upheld.enter name))
      (upholds_runInside handles current body) (upholds_onSession upheld.leave)
    rw [run]
    exact upholds_bind upheld played fun _ => upholds_pure upheld _
  | _ =>
    rw [run_eq_step (by simp) (by simp)]
    exact upholds_step upheld handles current _

theorem upholds_runInside {handle : Handler} (handles : ∀ c, Upholds R (handle c)) (current : Option Statement)
    (actions : List Action) : Upholds R (runInside handle current actions) := by
  cases actions with
  | nil =>
    rw [runInside]
    exact upholds_pure upheld ()
  | cons action rest =>
    have others := upholds_runInside handles current rest
    rw [runInside]
    exact upholds_bind upheld (upholds_run handles current action) fun _ =>
      upholds_bind upheld (upholds_record upheld _) fun _ => others

end

theorem upholds_script (script : Script) (depth : Nat) (c : Statement) : Upholds R (script.handler depth c) := by
  induction depth generalizing c with
  | zero => exact upholds_throw upheld _
  | succ depth ih =>
    refine upholds_bind upheld (upholds_record upheld _) fun _ => ?_
    exact upholds_bind upheld (upholds_ofExcept upheld _) fun actions => upholds_runInside upheld ih (some c) actions

theorem upholds_handler (handling : Handling) (c : Statement) : Upholds R (handling.handler c) := by
  cases handling with
  | compiled => exact upholds_onSession (upheld.compile c)
  | scripted script => exact upholds_script upheld script _ c

end Play

namespace Session

variable {R : Session → Session → Prop}

theorem Upheld.perform (upheld : Upheld R) (handling : Handling) (s : Session) (action : Action) :
    R s (s.perform handling action).after := by
  have played := Play.upholds_run upheld (Play.upholds_handler upheld handling) none action { session := s }
  rw [Act.final] at played
  rw [Session.perform]
  cases ran : Play.run handling.handler none action { session := s } <;> rw [ran] at played <;> exact played

theorem Upheld.performAll (upheld : Upheld R) (handling : Handling) (s : Session) (actions : List Action) :
    R s (s.performAll handling actions).2 := by
  induction actions generalizing s with
  | nil => exact upheld.quiet (.refl s)
  | cons action rest ih => exact upheld.trans (upheld.perform handling s action) (ih _)

def performed (config : Config) (digits : Digits) (sink : Sink) (isLogged : Bool) (handling : Handling)
    (actions : List Action) : Session :=
  (performAll handling { fresh config digits sink with isLogged } actions).2

/-- What single operations keep holds from the start to the end of a performance. -/
theorem Upheld.performed (upheld : Upheld R) (config : Config) (digits : Digits) (sink : Sink) (isLogged : Bool)
    (handling : Handling) (actions : List Action) :
    R { fresh config digits sink with isLogged } (performed config digits sink isLogged handling actions) :=
  upheld.performAll handling _ actions

end Session

end TemplateCompiler
