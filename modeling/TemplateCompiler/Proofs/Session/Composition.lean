import TemplateCompiler.Proofs.Buffer.Assignment
import TemplateCompiler.Proofs.Session.Regime

namespace TemplateCompiler.Session

variable {α β : Type} {s s' s'' : Session} {k : Nat}

def dressed (s : Session) (unit : Option String) (buffer : Buffer) : Session :=
  { s with config := { s.config with indentUnit := unit }, buffer }

def redressed (unit : Option String) (buffer : Buffer) :
    EStateM.Result Fault Session α → EStateM.Result Fault Session α
  | .ok a s => .ok a (s.dressed unit buffer)
  | .error e s => .error e (s.dressed unit buffer)

/-! Steps beside the buffer -/

structure Extends (s s' : Session) : Prop where
  references : s.references.toList <+: s'.references.toList
  reports : s.reports <+: s'.reports
  notes : s.notes <+: s'.notes
  failed : s.failed = true → s'.failed = true
  names : s.names.count ≤ s'.names.count

theorem Extends.refl (s : Session) : Extends s s :=
  ⟨List.prefix_rfl, List.prefix_rfl, List.prefix_rfl, id, Nat.le_refl _⟩

theorem Extends.trans (first : Extends s s') (second : Extends s' s'') : Extends s s'' where
  references := first.references.trans second.references
  reports := first.reports.trans second.reports
  notes := first.notes.trans second.notes
  failed := second.failed ∘ first.failed
  names := Nat.le_trans first.names second.names

/-- The operation does the same with every unit and every buffer, and leaves both alone. -/
def Blind (act : Act α) : Prop := ∀ s unit buffer, act (s.dressed unit buffer) = redressed unit buffer (act s)

theorem Blind.bind {act : Act α} {f : α → Act β} (first : Blind act) (rest : ∀ a, Blind (f a)) :
    Blind (act >>= f) := by
  intro s unit buffer
  have same := first s unit buffer
  cases ran : act s with
  | ok a s' =>
    rw [ran] at same
    rw [Act.bind_of_ok ran, Act.bind_of_ok same]
    exact rest a s' unit buffer
  | error e s' =>
    rw [ran] at same
    rw [Act.bind_of_error ran, Act.bind_of_error same]
    rfl

theorem Blind.untouched {act : Act α} (blind : Blind act) : Untouched act := by
  intro s
  have same : act s = redressed s.config.indentUnit s.buffer (act s) := blind s s.config.indentUnit s.buffer
  rw [Act.final]
  cases ran : act s with
  | ok a s' =>
    rw [ran] at same
    have kept := congrArg Session.buffer (EStateM.Result.ok.inj same).2
    exact kept
  | error e s' =>
    rw [ran] at same
    have kept := congrArg Session.buffer (EStateM.Result.error.inj same).2
    exact kept

theorem blind_macroSlot (name : String) : Blind (macroSlot name) := by
  intro s unit buffer
  by_cases made : (s.macros.get (fun _ => some {}) name).2.calls ≠ s.macros.calls
  · simp only [macroSlot, Act.get_bind, dressed, if_pos made]
    rfl
  · simp only [macroSlot, Act.get_bind, dressed, if_neg made]
    rfl

theorem blind_setMacro (name : String) (definition : Option Statement) : Blind (setMacro name definition) :=
  (blind_macroSlot name).bind fun _ _ _ _ => rfl

theorem blind_note (n : Note) : Blind (note n) := fun _ _ _ => rfl

/-- The operation is blind, and only adds to the session. It has nothing to do with macros. -/
structure Aside (act : Act α) : Prop where
  blind : Blind act
  adds : ∀ s, Extends s (Act.final act s)
  macros : ∀ s, (Act.final act s).macros = s.macros

namespace Aside

theorem bind {act : Act α} {f : α → Act β} (first : Aside act) (rest : ∀ a, Aside (f a)) : Aside (act >>= f) where
  blind := first.blind.bind fun a => (rest a).blind
  adds s := Act.final_bind_rel Extends Extends.trans (first.adds s) fun a s' _ _ => (rest a).adds s'
  macros s := by
    have kept := Act.final_bind_rel (fun s s' : Session => s.macros = s'.macros) Eq.trans (first.macros s).symm
      fun a s' _ _ => ((rest a).macros s').symm
    exact kept.symm

end Aside

theorem aside_pure (a : α) : Aside (pure a : Act α) := ⟨fun _ _ _ => rfl, Extends.refl, fun _ => rfl⟩

theorem aside_throw (fault : Fault) : Aside (throw fault : Act α) := ⟨fun _ _ _ => rfl, Extends.refl, fun _ => rfl⟩

theorem aside_ofExcept (e : Except Fault α) : Aside (Act.ofExcept e) := by
  cases e with
  | ok a => exact aside_pure a
  | error fault => exact aside_throw fault

theorem aside_note (n : Note) : Aside (note n) where
  blind := blind_note n
  adds s := { Extends.refl s with notes := List.prefix_append _ _ }
  macros _ := rfl

theorem aside_report (statement : Option Statement) (id : String) (args : Value) :
    Aside (report statement id args) where
  blind s unit buffer := by
    rw [report_eq, report_eq]
    have same : (s.dressed unit buffer).sink = s.sink := rfl
    rw [same]
    rcases s.sink with _ | ⟨_, _ | _⟩ <;> rfl
  adds s := by
    rw [Act.final, report_eq]
    rcases s.sink with _ | ⟨_, _ | _⟩
    · exact { Extends.refl s with reports := List.prefix_append _ _ }
    · exact Extends.refl s
    · exact { Extends.refl s with notes := List.prefix_append _ _ }
  macros s := by
    rw [Act.final, report_eq]
    rcases s.sink with _ | ⟨_, _ | _⟩ <;> rfl

theorem aside_reportError (statement : Option Statement) (id : String) (args : Value) :
    Aside (reportError statement id args) := by
  have flagged : Aside (modify ({ · with failed := true }) : Act Unit) :=
    ⟨fun _ _ _ => rfl, fun s => { Extends.refl s with failed := fun _ => rfl }, fun _ => rfl⟩
  exact flagged.bind fun _ => (aside_note _).bind fun _ => aside_report statement id args

theorem aside_reportWarning (statement : Option Statement) (id : String) (args : Value) :
    Aside (reportWarning statement id args) := (aside_note _).bind fun _ => aside_report statement id args

theorem aside_takeName : Aside takeName where
  blind _ _ _ := rfl
  adds s := { Extends.refl s with notes := List.prefix_append _ _, names := Nat.le_succ _ }
  macros _ := rfl

theorem prefix_addAll (refs : References) (more : List String) : refs.toList <+: (refs.addAll more).toList := by
  induction more generalizing refs with
  | nil => exact List.prefix_rfl
  | cons ref rest ih =>
    have first : refs.toList <+: (refs.add ref).toList := by
      rw [References.toList_add]
      split
      · exact List.prefix_rfl
      · exact List.prefix_append _ _
    exact first.trans (ih (refs.add ref))

theorem aside_addReferences (refs : List String) : Aside (addReferences refs) where
  blind _ _ _ := rfl
  adds s := { Extends.refl s with references := prefix_addAll s.references refs }
  macros _ := rfl

/-! Inside a block -/

/-- The operation is put together from steps beside the buffer, lines and steps into `k` more levels. -/
inductive Inside : Nat → {α : Type} → Act α → Prop where
  | aside {k : Nat} {α : Type} {act : Act α} (aside : Aside act) : Inside k act
  | look {k : Nat} {α : Type} {f : Session → Act α} (blind : ∀ s unit buffer, f (s.dressed unit buffer) = f s)
    (rest : ∀ s, Inside k (f s)) : Inside k (get >>= f)
  | ready {k : Nat} {α : Type} {f : Bool → Act α} (rest : Inside k (f true)) : Inside k (isReady >>= f)
  | line {k : Nat} (parts : List String) : Inside k (emitLine parts)
  | bind {k : Nat} {α β : Type} {act : Act α} {f : α → Act β} (first : Inside k act) (rest : ∀ a, Inside k (f a)) :
    Inside k (act >>= f)
  | indented {k : Nat} {α : Type} {act : Act α} (body : Inside k act) : Inside (k + 1) (indented act)

theorem Inside.allows {act : Act α} (inside : Inside k act) : (Regime.inside k).Allows act := by
  induction inside with
  | aside aside => exact Regime.allows_of_untouched aside.blind.untouched
  | look _ _ ih => exact (Regime.allows_of_untouched untouched_get).bind ih
  | ready _ ih => exact Regime.allows_ready ih
  | line parts => exact Regime.allows_emitLine parts
  | bind _ _ first rest => exact first.bind rest
  | indented _ ih => exact ih.indented

structure Fills (s s' : Session) : Prop where
  adds : Extends s s'
  macros : s'.macros = s.macros
  unit : s'.buffer.unit = s.buffer.unit
  places : Buffer.SamePlaces s.buffer s'.buffer
  others : ∀ i, s.buffer.active ≠ some i → s'.buffer.textOf i = s.buffer.textOf i
  valid : s'.buffer.Valid

namespace Fills

theorem refl (valid : s.buffer.Valid) : Fills s s := ⟨.refl s, rfl, rfl, .refl _, fun _ _ => rfl, valid⟩

theorem trans (first : Fills s s') (second : Fills s' s'') : Fills s s'' where
  adds := first.adds.trans second.adds
  macros := second.macros.trans first.macros
  unit := second.unit.trans first.unit
  places := first.places.trans second.places
  others i other := (second.others i (by rw [first.places.active]; exact other)).trans (first.others i other)
  valid := second.valid

theorem of_aside {act : Act α} (aside : Aside act) (valid : s.buffer.Valid) : Fills s (Act.final act s) := by
  have same := aside.blind.untouched s
  refine ⟨aside.adds s, aside.macros s, congrArg _ same, ?_, fun i _ => congrArg (·.textOf i) same, ?_⟩
  · rw [same]
    exact .refl _
  · rw [same]
    exact valid

theorem of_operation (op : Buffer.Operation) (valid : s.buffer.Valid) (unset : op.setsUnit = false)
    (places : Buffer.SamePlaces s.buffer (s.buffer.next op)) : Fills s (Act.final (onBuffer op.act) s) := by
  rw [final_onBuffer_eq]
  refine ⟨{ Extends.refl s with }, rfl, Buffer.unit_next s.buffer unset, places, fun i other => ?_, valid.next op⟩
  change (s.buffer.next op).textOf i = s.buffer.textOf i
  rw [Buffer.textOf_next valid, if_neg other, String.append_empty]

theorem of_shift (valid : s.buffer.Valid) (inward : Bool) : Fills s (Act.final (onBuffer (Buffer.shift inward)) s) := by
  refine of_operation (.shift inward) valid rfl ?_
  rw [Buffer.next_shift]
  exact .shifted s.buffer inward

end Fills

/-- However an operation inside a block ends, it has filled that block. -/
theorem Inside.fills {act : Act α} (inside : Inside k act) {s : Session} (valid : s.buffer.Valid)
    (ready : s.buffer.isReady) : Fills s (Act.final act s) := by
  induction inside generalizing s with
  | aside aside => exact .of_aside aside valid
  | look _ _ ih => exact ih s valid ready
  | ready _ ih =>
    rw [Act.final_bind_of_ok (isReady_of_ready ready)]
    exact ih valid ready
  | line parts =>
    refine Fills.of_operation (.writeLine parts) valid rfl ?_
    rw [Buffer.next_writeLine]
    exact .written s.buffer _
  | bind first rest ih ih' =>
    refine Act.final_bind_rel Fills Fills.trans (ih valid ready) fun a s' _ mid => ih' a mid.valid ?_
    rw [Buffer.isReady, mid.places.active]
    exact ready
  | indented body ih =>
    refine Act.final_between_rel Fills Fills.trans (.of_shift valid true) (fun s' _ mid => ih mid.valid ?_)
      fun _ _ done => .of_shift done.valid false
    rw [Buffer.isReady, mid.places.active]
    exact ready

/-! Outside of all blocks -/

/-- The operation is put together from blind steps and from new blocks. -/
inductive Outside : {α : Type} → Act α → Prop where
  | blind {α : Type} {act : Act α} (blind : Blind act) : Outside act
  | idle {α : Type} {f : Bool → Act α} (rest : Outside (f false)) : Outside (isReady >>= f)
  | bind {α β : Type} {act : Act α} {f : α → Act β} (first : Outside act) (rest : ∀ a, Outside (f a)) :
    Outside (act >>= f)
  | newBlock {level k : Nat} {body : Act Unit} (name : String) (shallow : level + k ≤ deepest)
    (inside : Inside k body) : Outside (do startBlock name (.count level); within name body)

theorem Outside.allows {act : Act α} (outside : Outside act) : Regime.outside.Allows act := by
  induction outside with
  | blind blind => exact Regime.allows_of_untouched blind.untouched
  | idle _ ih => exact Regime.allows_idle ih
  | bind _ _ first rest => exact first.bind rest
  | newBlock name shallow inside => exact Regime.allows_newBlock name shallow inside.allows

end TemplateCompiler.Session
