import TemplateCompiler.Session.Basic
import TemplateCompiler.Proofs.Buffer.Growth

namespace TemplateCompiler

def Report.isError (r : Report) : Bool := r.id ≠ Report.unknownStatement && r.id ≠ Report.missingMainMacro

/-- The reports that stay with the session. Relayed ones go to the log only. -/
def Sink.kept : Sink → List Report → List Report
  | .collect, reports => reports
  | .relay _ _, _ => []

def Sink.isMute : Sink → Prop
  | .relay _ none => True
  | _ => False

theorem Sink.kept_nil (sink : Sink) : sink.kept [] = [] := by
  cases sink <;> rfl

theorem Sink.kept_append (sink : Sink) (reports more : List Report) :
    sink.kept (reports ++ more) = sink.kept reports ++ sink.kept more := by
  cases sink <;> rfl

def Names.skip (names : Names) (n : Nat) : Names := { names with count := names.count + n }

theorem Names.skip_skip (names : Names) (n m : Nat) : (names.skip n).skip m = names.skip (n + m) := by
  simp only [Names.skip, Nat.add_assoc]

theorem References.addAll_append (refs : References) (more others : List String) :
    refs.addAll (more ++ others) = (refs.addAll more).addAll others := List.foldl_append

structure Tally where
  names : Nat := 0
  references : List String := []
  reports : List Report := []

namespace Tally

def append (t u : Tally) : Tally := ⟨t.names + u.names, t.references ++ u.references, t.reports ++ u.reports⟩

instance : Append Tally := ⟨append⟩

theorem references_append (t u : Tally) : (t ++ u).references = t.references ++ u.references := rfl

theorem empty_append (t : Tally) : ({} : Tally) ++ t = t := by
  change append {} t = t
  simp only [append, Nat.zero_add, List.nil_append]

theorem append_empty (t : Tally) : t ++ ({} : Tally) = t := by
  change append t {} = t
  simp only [append, Nat.add_zero, List.append_nil]

end Tally

namespace Session

variable {hindered : Prop} {α β : Type} {s s' s'' : Session} {t u : Tally} {i level : Nat}

structure Moved (s s' : Session) (t : Tally) : Prop where
  config : s'.config = s.config
  sink : s'.sink = s.sink
  context : s'.context = s.context
  unit : s'.buffer.unit = s.buffer.unit
  names : s'.names = s.names.skip t.names
  references : s'.references = s.references.addAll t.references
  failed : s'.failed = (s.failed || t.reports.any Report.isError)
  reports : s'.reports = s.reports ++ s.sink.kept t.reports

theorem Moved.refl (s : Session) : Moved s s {} :=
  ⟨rfl, rfl, rfl, rfl, rfl, rfl, by simp, by simp [Sink.kept_nil]⟩

theorem Moved.trans (first : Moved s s' t) (second : Moved s' s'' u) : Moved s s'' (t ++ u) where
  config := second.config.trans first.config
  sink := second.sink.trans first.sink
  context := second.context.trans first.context
  unit := second.unit.trans first.unit
  names := by
    rw [second.names, first.names, Names.skip_skip]
    rfl
  references := by
    rw [second.references, first.references, ← References.addAll_append]
    rfl
  failed := by
    rw [second.failed, first.failed, Bool.or_assoc, ← List.any_append]
    rfl
  reports := by
    rw [second.reports, first.reports, first.sink, List.append_assoc, ← Sink.kept_append]
    rfl

/-- The session stopped for a reason, and had made no reports but the first of those due. -/
def Stopped (hindered : Prop) (s : Session) (due : List Report) (s' : Session) : Prop :=
  hindered ∧ ∃ made, made <+: due ∧ s'.reports = s.reports ++ s.sink.kept made

theorem Stopped.here (reason : hindered) (due : List Report) (same : s'.reports = s.reports) :
    Stopped hindered s due s' :=
  ⟨reason, [], List.nil_prefix, by simp [same, Sink.kept_nil]⟩

theorem Stopped.before {due : List Report} (stopped : Stopped hindered s due s') (more : List Report) :
    Stopped hindered s (due ++ more) s' := by
  obtain ⟨reason, made, early, same⟩ := stopped
  exact ⟨reason, made, early.trans (List.prefix_append due more), same⟩

theorem Stopped.after {due : List Report} (moved : Moved s s' t) (stopped : Stopped hindered s' due s'') :
    Stopped hindered s (t.reports ++ due) s'' := by
  obtain ⟨reason, made, early, same⟩ := stopped
  refine ⟨reason, t.reports ++ made, (List.prefix_append_right_inj t.reports).mpr early, ?_⟩
  rw [same, moved.reports, moved.sink, List.append_assoc, ← Sink.kept_append]

/-- The operation moves the session on by a tally to a state of which `ok` holds, unless something hinders it. -/
def Goes (hindered : Prop) (act : Act α) (s : Session) (t : Tally) (ok : α → Session → Prop) : Prop :=
  Act.Ends act s (fun a s' => Moved s s' t ∧ ok a s') (Stopped hindered s t.reports)

theorem goes_of_ok {act : Act α} {a : α} {ok : α → Session → Prop} (ran : act s = .ok a s') (moved : Moved s s' t)
    (holds : ok a s') : Goes hindered act s t ok := Act.ends_of_ok ran ⟨moved, holds⟩

theorem goes_of_fault {act : Act α} {e : Fault} {ok : α → Session → Prop} (fails : act s = .error e s')
    (reason : hindered) (same : s'.reports = s.reports) : Goes hindered act s t ok :=
  Act.ends_of_error fails (Stopped.here reason _ same)

theorem Goes.bind {act : Act α} {f : α → Act β} {mid : α → Session → Prop} {ok : β → Session → Prop}
    (first : Goes hindered act s t mid)
    (rest : ∀ a s', Moved s s' t → mid a s' → Goes hindered (f a) s' u ok) :
    Goes hindered (act >>= f) s (t ++ u) ok := by
  refine Act.Ends.bind (first.mono (fun _ _ h => h) fun s' stopped => stopped.before u.reports) ?_
  rintro a s' ⟨moved, holds⟩
  refine (rest a s' moved holds).mono ?_ fun s'' stopped => stopped.after moved
  rintro b s'' ⟨moved', holds'⟩
  exact ⟨moved.trans moved', holds'⟩

theorem Goes.mono {act : Act α} {ok ok' : α → Session → Prop} (goes : Goes hindered act s t ok)
    (weaker : ∀ a s', Moved s s' t → ok a s' → ok' a s') : Goes hindered act s t ok' :=
  Act.Ends.mono goes (fun a s' h => ⟨h.1, weaker a s' h.1 h.2⟩) fun _ stopped => stopped

theorem goes_of_look {act : Act α} {a : α} {f : α → Act β} {ok : β → Session → Prop} (look : act s = .ok a s)
    (rest : Goes hindered (f a) s t ok) : Goes hindered (act >>= f) s t ok := by
  exact Act.ends_of_step look rest

/-- Reports carry no context, and whatever may stop the session counts as a hindrance. -/
structure Steady (hindered : Prop) (s : Session) : Prop where
  context : s.context = .null
  wide : TooLong s.buffer.unit → hindered
  mute : s.sink.isMute → hindered

theorem Steady.moved (steady : Steady hindered s) (moved : Moved s s' t) : Steady hindered s' where
  context := moved.context.trans steady.context
  wide long := steady.wide (by rw [← moved.unit]; exact long)
  mute silent := steady.mute (by rw [← moved.sink]; exact silent)

structure Still (s s' : Session) : Prop where
  buffer : s'.buffer = s.buffer
  macros : s'.macros = s.macros

/-! Reports and other additions that leave the blocks alone -/

theorem report_eq (s : Session) (statement : Option Statement) (id : String) (args : Value) :
    report statement id args s = match s.sink with
      | .collect => .ok () { s with reports := s.reports ++ [⟨statement, id, args, s.context⟩] }
      | .relay channel (some level) =>
        let summary := (⟨statement, id, args, s.context⟩ : Report).summary
        .ok () { s with notes := s.notes ++ [.relayed ⟨level, channel, summary⟩] }
      | .relay _ none => .error .logLevelNotInteger s := by
  obtain ⟨_, _ | ⟨_, _ | _⟩⟩ := s <;> rfl

theorem ends_report (steady : Steady hindered s) (statement : Option Statement) (id : String) (args : Value)
    {failed : Bool} (flag : failed = (s.failed || (⟨statement, id, args, .null⟩ : Report).isError)) (notes : List Note) :
    Act.Ends (report statement id args) { s with failed, notes }
      (fun _ s' => Moved s s' { reports := [⟨statement, id, args, .null⟩] } ∧ Still s s')
      (Stopped hindered s [⟨statement, id, args, .null⟩]) := by
  have flagged : failed = (s.failed || [(⟨statement, id, args, .null⟩ : Report)].any Report.isError) := by
    rw [flag, List.any_cons, List.any_nil, Bool.or_false]
  have ran := report_eq { s with failed, notes } statement id args
  cases sink : s.sink with
  | collect =>
    simp only [sink, steady.context] at ran ⊢
    refine Act.ends_of_ok ran ⟨⟨rfl, sink.symm, steady.context.symm, rfl, rfl, rfl, flagged, ?_⟩, rfl, rfl⟩
    simp only [sink, Sink.kept]
  | relay channel level =>
    cases level with
    | some level =>
      simp only [sink, steady.context] at ran ⊢
      refine Act.ends_of_ok ran ⟨⟨rfl, sink.symm, steady.context.symm, rfl, rfl, rfl, flagged, ?_⟩, rfl, rfl⟩
      simp only [sink, Sink.kept, List.append_nil]
    | none =>
      simp only [sink] at ran
      refine Act.ends_of_error ran (Stopped.here (steady.mute ?_) _ rfl)
      rw [sink]
      trivial

theorem goes_reportError (steady : Steady hindered s) (statement : Option Statement) {id : String} (args : Value)
    (grave : (⟨statement, id, args, .null⟩ : Report).isError = true) :
    Goes hindered (reportError statement id args) s { reports := [⟨statement, id, args, .null⟩] }
      fun _ => Still s := by
  have flag : true = (s.failed || (⟨statement, id, args, .null⟩ : Report).isError) := by rw [grave, Bool.or_true]
  apply Act.ends_of_step (Act.modify_apply _ s)
  apply Act.ends_of_step (Act.modify_apply _ _)
  exact ends_report steady statement id args flag _

theorem goes_reportWarning (steady : Steady hindered s) (statement : Option Statement) {id : String} (args : Value)
    (mild : (⟨statement, id, args, .null⟩ : Report).isError = false) :
    Goes hindered (reportWarning statement id args) s { reports := [⟨statement, id, args, .null⟩] }
      fun _ => Still s := by
  have flag : s.failed = (s.failed || (⟨statement, id, args, .null⟩ : Report).isError) := by rw [mild, Bool.or_false]
  apply Act.ends_of_step (Act.modify_apply _ s)
  exact ends_report steady statement id args flag _

theorem goes_note (s : Session) (n : Note) : Goes hindered (note n) s {} fun _ => Still s := by
  have moved : Moved s { s with notes := s.notes ++ [n] } {} := { Moved.refl s with }
  exact Act.ends_of_ok rfl ⟨moved, rfl, rfl⟩

theorem goes_addReferences (s : Session) (refs : List String) :
    Goes hindered (addReferences refs) s { references := refs } fun _ => Still s := by
  have moved : Moved s { s with references := s.references.addAll refs } { references := refs } :=
    { Moved.refl s with references := rfl }
  exact Act.ends_of_ok rfl ⟨moved, rfl, rfl⟩

def nextName (s : Session) : String := s.names.name (s.names.count + 1)

def named (s : Session) : Session :=
  { s with names := s.names.skip 1, notes := s.notes ++ [.nameGiven s.nextName] }

theorem takeName_eq (s : Session) : takeName s = .ok s.nextName s.named := rfl

theorem goes_takeName (s : Session) :
    Goes hindered takeName s { names := 1 } fun name s' => name = s.nextName ∧ Still s s' := by
  have moved : Moved s s.named { names := 1 } := { Moved.refl s with names := rfl }
  exact Act.ends_of_ok (takeName_eq s) ⟨moved, rfl, rfl, rfl⟩

/-! Lines in the active block -/

structure Writes (hindered : Prop) (s : Session) (i level : Nat) : Prop where
  steady : Steady hindered s
  writing : s.buffer.Writing i level

/-- Block `i` has taken lines, and nothing else has changed among blocks and macros. -/
structure Grows (s s' : Session) (i : Nat) (lines : List Line) : Prop where
  macros : s'.macros = s.macros
  buffer : ∃ parts, s'.buffer = s.buffer.appendTo i (Buffer.texts parts) ∧
    String.join parts = rendered s.buffer.unit lines

theorem Still.grows (still : Still s s') (i : Nat) : Grows s s' i [] where
  macros := still.macros
  buffer := ⟨[], still.buffer.trans (Buffer.appendTo_nil s.buffer i).symm, rfl⟩

theorem Grows.trans {lines more : List Line} (first : Grows s s' i lines) (second : Grows s' s'' i more) :
    Grows s s'' i (lines ++ more) where
  macros := second.macros.trans first.macros
  buffer := by
    obtain ⟨parts, grown, text⟩ := first.buffer
    obtain ⟨others, grown', text'⟩ := second.buffer
    refine ⟨parts ++ others, ?_, ?_⟩
    · rw [grown', grown, Buffer.appendTo_appendTo, Buffer.texts, Buffer.texts, ← List.map_append]
      rfl
    · have unit : s'.buffer.unit = s.buffer.unit := by rw [grown]; rfl
      rw [String.join_append, text, text', unit, rendered_append]

theorem Grows.writes {lines : List Line} (grows : Grows s s' i lines) (moved : Moved s s' t)
    (writes : Writes hindered s i level) : Writes hindered s' i level where
  steady := writes.steady.moved moved
  writing := by
    obtain ⟨parts, grown, -⟩ := grows.buffer
    rw [grown]
    exact writes.writing.appendTo _

/-- The operation answers `a`, adds lines to block `i` and moves the session on, unless something hinders it. -/
def Emits (hindered : Prop) (i : Nat) (act : Act α) (s : Session) (a : α) (lines : List Line) (t : Tally) : Prop :=
  Goes hindered act s t fun b s' => b = a ∧ Grows s s' i lines

theorem Goes.emits {act : Act α} {a : α} {ok : α → Session → Prop} (goes : Goes hindered act s t ok)
    (still : ∀ b s', ok b s' → b = a ∧ Still s s') (i : Nat) : Emits hindered i act s a [] t := by
  refine goes.mono fun b s' _ holds => ?_
  obtain ⟨same, unchanged⟩ := still b s' holds
  exact ⟨same, unchanged.grows i⟩

theorem Emits.bind {act : Act α} {f : α → Act β} {a : α} {b : β} {lines more : List Line}
    (first : Emits hindered i act s a lines t) (writes : Writes hindered s i level)
    (rest : ∀ s', Writes hindered s' i level → Moved s s' t → Emits hindered i (f a) s' b more u) :
    Emits hindered i (act >>= f) s b (lines ++ more) (t ++ u) := by
  unfold Emits
  refine Goes.bind first ?_
  rintro _ s' moved ⟨rfl, grows⟩
  refine (rest s' (grows.writes moved writes) moved).mono ?_
  rintro c s'' - ⟨same, grows'⟩
  exact ⟨same, grows.trans grows'⟩

theorem emits_pure (s : Session) (i : Nat) (a : α) : Emits hindered i (pure a) s a [] {} := by
  have still : Still s s := ⟨rfl, rfl⟩
  have ran : (pure a : Act α) s = .ok a s := rfl
  exact goes_of_ok ran (Moved.refl s) ⟨rfl, still.grows i⟩

theorem emits_of_look {act : Act α} {a : α} {f : α → Act β} {b : β} {lines : List Line} (look : act s = .ok a s)
    (rest : Emits hindered i (f a) s b lines t) : Emits hindered i (act >>= f) s b lines t := goes_of_look look rest

theorem emits_of_fault {act : Act α} {a : α} {e : Fault} {lines : List Line} (fails : act s = .error e s)
    (reason : hindered) : Emits hindered i act s a lines t := goes_of_fault fails reason rfl

theorem Emits.congr {act : Act α} {a : α} {lines lines' : List Line} {t t' : Tally}
    (emits : Emits hindered i act s a lines t) (sameLines : lines = lines') (sameTally : t = t') :
    Emits hindered i act s a lines' t' := by
  rw [← sameLines, ← sameTally]
  exact emits

theorem emits_writeLine (writes : Writes hindered s i level) (parts : List String) :
    Emits hindered i (writeLine (Buffer.texts parts)) s () [⟨level, String.join parts⟩] {} := by
  obtain ⟨pieces, ran, text⟩ := writes.writing.writeLine_eq parts
  have written : writeLine (Buffer.texts parts) s =
      .ok () { s with buffer := s.buffer.appendTo i (Buffer.texts pieces) } := by
    simp only [writeLine, onBuffer, ran]
  have moved : Moved s { s with buffer := s.buffer.appendTo i (Buffer.texts pieces) } {} := { Moved.refl s with }
  exact Act.ends_of_ok written ⟨moved, rfl, rfl, pieces, rfl, text.trans (rendered_singleton _ _).symm⟩

theorem emits_emitLine (writes : Writes hindered s i level) (parts : List String) :
    Emits hindered i (emitLine parts) s () [⟨level, String.join parts⟩] {} := emits_writeLine writes parts

theorem stopped_onBuffer {due : List Report} (stopped : Stopped hindered s due s') (act : Buffer.Act Unit) :
    Act.Ends (onBuffer act) s' (fun _ s'' => Stopped hindered s due s'') (Stopped hindered s due) := by
  cases ran : act s'.buffer with
  | ok a b =>
    have done : onBuffer act s' = .ok a { s' with buffer := b } := by simp only [onBuffer, ran]
    exact Act.ends_of_ok done stopped
  | error fault b =>
    have fails : onBuffer act s' = .error fault { s' with buffer := b } := by simp only [onBuffer, ran]
    exact Act.ends_of_error fails stopped

theorem Emits.indented {act : Act α} {a : α} {lines : List Line} (writes : Writes hindered s i level)
    (shallow : level < deepest)
    (body : ∀ s', Writes hindered s' i (level + 1) → Moved s s' {} → Emits hindered i act s' a lines t) :
    Emits hindered i (indented act) s a lines t := by
  rcases writes.writing.increase_cases shallow with ⟨b, ran, deeper, unit, back⟩ | ⟨fault, b, fails, long⟩
  · have entered : increase s = .ok () { s with buffer := b } := by
      simp only [increase, onBuffer, ran]
    have moved : Moved s { s with buffer := b } {} := { Moved.refl s with unit := unit }
    have inside := body _ ⟨writes.steady.moved moved, deeper⟩ moved
    refine Act.Ends.between entered inside ?_ fun s₂ stopped => ?_
    · rintro _ s₂ ⟨moved', rfl, macros, parts, grown, text⟩
      have left : decrease s₂ = .ok () { s₂ with buffer := s.buffer.appendTo i (Buffer.texts parts) } := by
        simp only [decrease, onBuffer, grown, back]
      refine Act.ends_of_ok left ⟨?_, rfl, macros, parts, rfl, ?_⟩
      · exact { moved' with unit := rfl }
      · rw [← unit]
        exact text
    · exact stopped_onBuffer stopped _
  · have fails' : increase s = .error fault { s with buffer := b } := by
      simp only [increase, onBuffer, fails]
    exact goes_of_fault (Act.between_of_entry_error fails') (writes.steady.wide long) rfl

theorem onBuffer_of_ok {act : Buffer.Act α} {a : α} {b : Buffer} (ran : act s.buffer = .ok a b) :
    onBuffer act s = .ok a { s with buffer := b } := by
  simp only [onBuffer, ran]

theorem onBuffer_of_error {act : Buffer.Act α} {e : Fault} {b : Buffer} (failed : act s.buffer = .error e b) :
    onBuffer act s = .error e { s with buffer := b } := by
  simp only [onBuffer, failed]

theorem final_onBuffer_eq (act : Buffer.Act α) (s : Session) :
    Act.final (onBuffer act) s = { s with buffer := Act.final act s.buffer } := by
  simp only [Act.final, onBuffer]
  cases act s.buffer <;> rfl

theorem enter_of_ok {name : String} {b : Buffer} (ran : Buffer.enter name s.buffer = .ok () b) (ready : b.isReady) :
    enter name s = .ok () { s with buffer := b } := by
  have look : getBuffer { s with buffer := b } = .ok b { s with buffer := b } := rfl
  rw [enter, Act.bind_of_ok (onBuffer_of_ok ran), Act.bind_of_ok look, ready]
  rfl

theorem isReady_of_ready (ready : s.buffer.isReady) : isReady s = .ok true s := congrArg (EStateM.Result.ok · s) ready

theorem isReady_of_idle (idle : s.buffer.active = none) : isReady s = .ok false s := by
  have unready : s.buffer.isReady = false := by rw [Buffer.isReady, idle]; rfl
  exact congrArg (EStateM.Result.ok · s) unready

theorem goes_newBlock (steady : Steady hindered s) (idle : s.buffer.active = none) (name : String)
    (shallow : level ≤ deepest) {act : Act Unit} {lines : List Line}
    (inside : ∀ s' i, Writes hindered s' i level → Moved s s' {} → Emits hindered i act s' () lines t) :
    Goes hindered (do startBlock name (.count level); within name act) s t fun _ s' =>
      s'.macros = s.macros ∧ ∃ parts indent,
        s'.buffer = s.buffer.withBlock name (.count level) (Buffer.texts parts) indent ∧
        String.join parts = rendered s.buffer.unit lines := by
  let added : Session := { s with
    buffer := s.buffer.addBlock name (.count level)
    notes := s.notes ++ [.blockAdded name level] }
  have started : startBlock name (.count level) s = .ok () added := rfl
  apply Act.ends_of_step started
  rcases Buffer.enter_cases idle name shallow with ⟨b, ran, writing, unit, left⟩ | ⟨fault, b, fails, long⟩
  · have ready : b.isReady = true := by rw [Buffer.isReady, writing.active]; rfl
    have entered : enter name added = .ok () { added with buffer := b } := enter_of_ok ran ready
    have moved : Moved s { added with buffer := b } {} := { Moved.refl s with unit := unit }
    have written := inside _ _ ⟨steady.moved moved, writing⟩ moved
    refine Act.Ends.between entered written ?_ fun s₂ stopped => stopped_onBuffer stopped _
    rintro _ s₂ ⟨moved', -, macros, parts, grown, text⟩
    obtain ⟨indent, back⟩ := left (Buffer.texts parts)
    have exited : leave s₂ =
        .ok () { s₂ with buffer := s.buffer.withBlock name (.count level) (Buffer.texts parts) indent } := by
      simp only [leave, onBuffer, grown, back]
    refine Act.ends_of_ok exited ⟨{ moved' with unit := rfl }, macros, parts, indent, rfl, ?_⟩
    rw [← unit]
    exact text
  · have fails' : enter name added = .error fault { added with buffer := b } := by
      have first : onBuffer (Buffer.enter name) added = .error fault { added with buffer := b } := by
        simp only [onBuffer, added, fails]
      rw [enter, Act.bind_of_error first]
    exact Act.ends_of_error (Act.between_of_entry_error fails') (Stopped.here (steady.wide long) _ rfl)

end Session

end TemplateCompiler
