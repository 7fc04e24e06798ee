import TemplateCompiler.Proofs.Compiler.Body

namespace TemplateCompiler.Compiler

open Session Layout

variable {hindered : Prop} {s s' : Session}

abbrev Made := List (Statement × List Line)

def Made.accepted (made : Made) : Grammar.Accepted := made.map fun m => (m.1.title, m.1.line)

/-- No block is active, and the macros are those that were made, with their lines as the contents of their blocks. -/
structure Idle (hindered : Prop) (s : Session) (made : Made) : Prop where
  steady : Steady hindered s
  idle : s.buffer.active = none
  macros : s.macros.entries = made.map fun m => (m.1.title, some ⟨some m.1⟩)
  known : ∀ name i, s.buffer.find? name = some i → i < s.buffer.blocks.length
  contents : ∀ m ∈ made, s.buffer.content (blockOf m.1.title) = .ok (rendered s.buffer.unit m.2)

theorem Idle.still {made : Made} {t : Tally} (idle : Idle hindered s made) (moved : Moved s s' t) (still : Still s s') :
    Idle hindered s' made where
  steady := idle.steady.moved moved
  idle := by rw [still.buffer]; exact idle.idle
  macros := by rw [still.macros]; exact idle.macros
  known := by rw [still.buffer]; exact idle.known
  contents := by rw [still.buffer]; exact idle.contents

theorem lookup_map_key {α β : Type} (key : α → String) (value : α → β) (items : List α) (name : String) :
    (items.map fun a => (key a, value a)).lookup name = (items.find? fun a => name == key a).map value := by
  induction items with
  | nil => rfl
  | cons a rest ih =>
    rw [List.map_cons, List.lookup_cons, List.find?_cons]
    cases name == key a with
    | true => rfl
    | false => exact ih

theorem macroSlot_of_made {name : String} {slot : MacroSlot} (known : s.macros.slot? name = some slot) :
    macroSlot name s = .ok slot s := by
  rw [macroSlot, Act.get_bind, Slots.get_of_made known]
  have same : ¬ s.macros.calls ≠ s.macros.calls := fun different => different rfl
  simp only [if_neg same]
  rfl

theorem macroSlot_of_missing {name : String} (missing : s.macros.slot? name = none) :
    macroSlot name s = .ok {} { s with
      macros := ⟨Ordered.put s.macros.entries name (some {}), s.macros.calls + 1⟩
      notes := s.notes ++ [.macroSlotMade name] } := by
  have different : s.macros.calls + 1 ≠ s.macros.calls := Nat.succ_ne_self _
  rw [macroSlot, Act.get_bind, Slots.get_of_empty missing]
  simp only [if_pos different]
  rfl

theorem setMacro_of_made {name : String} {slot : MacroSlot} (known : s.macros.slot? name = some slot)
    (definition : Option Statement) :
    setMacro name definition s = .ok () { s with macros := s.macros.put name ⟨definition⟩ } :=
  Act.bind_of_ok (macroSlot_of_made known) _

theorem goes_macroSlot {name : String} (missing : s.macros.slot? name = none) :
    Goes hindered (macroSlot name) s {} fun slot s' =>
      slot = {} ∧ s'.buffer = s.buffer ∧ s'.macros.entries = Ordered.put s.macros.entries name (some {}) := by
  have moved : Moved s { s with
      macros := ⟨Ordered.put s.macros.entries name (some {}), s.macros.calls + 1⟩
      notes := s.notes ++ [.macroSlotMade name] } {} := { Moved.refl s with }
  exact Act.ends_of_ok (macroSlot_of_missing missing) ⟨moved, rfl, rfl, rfl⟩

theorem goes_setMacro {name : String} {slot : MacroSlot} (known : s.macros.slot? name = some slot)
    (definition : Option Statement) :
    Goes hindered (setMacro name definition) s {} fun _ s' =>
      s'.buffer = s.buffer ∧ s'.macros.entries = Ordered.put s.macros.entries name (some ⟨definition⟩) := by
  have moved : Moved s { s with macros := s.macros.put name ⟨definition⟩ } {} := { Moved.refl s with }
  exact Act.ends_of_ok (setMacro_of_made known definition) ⟨moved, rfl, rfl⟩

theorem goes_macroBlock (steady : Steady hindered s) (idle : s.buffer.active = none) (name : String)
    {body : Session.Act Unit} {lines : List Line} {t : Tally}
    (inside : ∀ s' i, Writes hindered s' i 4 → Moved s s' {} → Emits hindered i body s' () lines t) :
    Goes hindered (macroBlock name body) s t fun _ s' => s'.macros = s.macros ∧ ∃ parts indent,
      s'.buffer = s.buffer.withBlock (blockOf name) (.count 2) (Buffer.texts parts) indent ∧
      String.join parts = rendered s.buffer.unit (macroLines s.config.framework name lines) := by
  rw [macroBlock_eq]
  apply goes_newBlock steady idle (blockOf name) (by decide)
  intro s' i writes moved
  rw [← moved.config]
  exact emits_macroFrame writes name fun s'' writes' moved' => inside s'' i writes' (moved.trans moved')

variable {c : Statement} {made : Made}

abbrev Wording := String → Names → List Statement → List Line

def sectionOf (body : Wording) (accepted : Grammar.Accepted) (framework : String) (names : Names)
    (c : Statement) : Made :=
  if Grammar.accepts accepted c then [(c, macroLines framework c.title (body framework names c.children))] else []

def topTally (accepted : Grammar.Accepted) (c : Statement) : Tally where
  names := if Grammar.accepts accepted c then c.children.countP takesName else 0
  references := if Grammar.accepts accepted c then c.children.flatMap referencesIn else referencesIn c
  reports := Grammar.topReports accepted c

theorem accepts_of_other {accepted : Grammar.Accepted} (other : Grammar.directive c.nameText ≠ .macroDefinition) :
    Grammar.accepts accepted c = false := by
  simp [Grammar.accepts, other]

theorem Idle.goes_still {act : Session.Act Unit} {t : Tally} (idle : Idle hindered s made)
    (goes : Goes hindered act s t fun _ => Still s) (unaccepted : Grammar.accepts made.accepted c = false)
    (references : t.references = referencesIn c) (names : t.names = 0)
    (reports : t.reports = Grammar.topReports made.accepted c) :
    Goes hindered act s (topTally made.accepted c) fun _ s' =>
      Idle hindered s' (made ++ sectionOf shownBody made.accepted s.config.framework s.names c) := by
  have same : topTally made.accepted c = t := by
    simp only [topTally, unaccepted, Bool.false_eq_true, ↓reduceIte, ← references, ← reports, ← names]
  have nothing : made ++ sectionOf shownBody made.accepted s.config.framework s.names c = made := by
    simp [sectionOf, unaccepted]
  rw [same, nothing]
  exact goes.mono fun _ s' moved still => idle.still moved still

theorem goes_refused (idle : Idle hindered s made) (c : Statement) (act : Session.Act Unit) :
    Goes hindered (do if ← isReady then act else reject c Report.statementNotAllowed) s
      { reports := [Grammar.complaint c Report.statementNotAllowed] } fun _ => Still s := by
  apply goes_of_look (isReady_of_idle idle.idle)
  rw [if_neg Bool.false_ne_true]
  exact goes_reportError idle.steady (some c) _ rfl

def defineMacro (c : Statement) (body : Session.Act Unit) : Session.Act Unit := do
  match (← macroSlot c.title).definition with
  | some first => reportError (some c) Report.macroAlreadyDefined (.list [.text c.title, first.line])
  | none =>
    setMacro c.title (some c)
    macroBlock c.title body

theorem goes_compileMacro_idle {t : Tally} {ok : Unit → Session → Prop} (idle : Idle hindered s made)
    (given : c.param = .text c.paramText) {body : Session.Act Unit}
    (rest : Goes hindered (if c.title = "" then reject c Report.missingParameter else defineMacro c body) s t ok) :
    Goes hindered (compileMacro c body) s t ok := by
  apply goes_of_look (isReady_of_idle idle.idle)
  rw [if_neg Bool.false_ne_true, given]
  exact goes_of_look (Act.ofExcept_ok c.paramText s) rest

theorem goes_compileMacro_blank (idle : Idle hindered s made) (given : c.param = .text c.paramText)
    (blank : c.title = "") (body : Session.Act Unit) :
    Goes hindered (compileMacro c body) s { reports := [Grammar.complaint c Report.missingParameter] }
      fun _ => Still s := by
  apply goes_compileMacro_idle idle given
  rw [if_pos blank]
  exact goes_reportError idle.steady (some c) _ rfl

theorem Idle.slot?_eq (idle : Idle hindered s made) (name : String) :
    s.macros.slot? name = (made.find? fun m => name == m.1.title).map fun m => ⟨some m.1⟩ := by
  rw [Slots.slot?, idle.macros, lookup_map_key (fun m : Statement × List Line => m.1.title)]
  cases made.find? fun m => name == m.1.title <;> rfl

theorem Made.lookup_accepted (made : Made) (name : String) :
    made.accepted.lookup name = (made.find? fun m => name == m.1.title).map fun m => m.1.line :=
  lookup_map_key (fun m : Statement × List Line => m.1.title) (fun m => m.1.line) made name

theorem goes_compileMacro_again (idle : Idle hindered s made) (given : c.param = .text c.paramText)
    (present : c.title ≠ "") {line : Value} (taken : made.accepted.lookup c.title = some line)
    (body : Session.Act Unit) :
    Goes hindered (compileMacro c body) s
      { reports := [⟨some c, Report.macroAlreadyDefined, .list [.text c.title, line], .null⟩] } fun _ => Still s := by
  rw [Made.lookup_accepted] at taken
  obtain ⟨first, found, same⟩ := Option.map_eq_some_iff.mp taken
  have slot : s.macros.slot? c.title = some ⟨some first.1⟩ := by rw [idle.slot?_eq, found]; rfl
  apply goes_compileMacro_idle idle given
  rw [if_neg present]
  apply goes_of_look (macroSlot_of_made slot)
  rw [← same]
  exact goes_reportError idle.steady (some c) _ rfl

theorem blockOf_injective {name other : String} (same : blockOf name = blockOf other) : name = other :=
  (String.append_right_inj "macro_").mp same

/-- The session after a new macro: its slot and its block come after all others, which are as before. -/
theorem Idle.add (idle : Idle hindered s made) (steady : Steady hindered s')
    (new : made.accepted.lookup c.title = none)
    (macros : s'.macros.entries = Ordered.put s.macros.entries c.title (some ⟨some c⟩)) {lines : List Line}
    {parts : List String} {indent : String}
    (buffer : s'.buffer = s.buffer.withBlock (blockOf c.title) (.count 2) (Buffer.texts parts) indent)
    (text : String.join parts = rendered s.buffer.unit lines) : Idle hindered s' (made ++ [(c, lines)]) := by
  have unit : s'.buffer.unit = s.buffer.unit := by rw [buffer]; rfl
  have found (name : String) :
      s'.buffer.find? name = if name = blockOf c.title then some s.buffer.blocks.length else s.buffer.find? name := by
    rw [buffer]
    exact Buffer.find?_withBlock s.buffer (blockOf c.title) name _ _ _
  have missing : (made.find? fun m => c.title == m.1.title) = none := by
    rw [Made.lookup_accepted, Option.map_eq_none_iff] at new
    exact new
  refine ⟨steady, ?_, ?_, ?_, ?_⟩
  · rw [buffer]
    exact idle.idle
  · have free : s.macros.entries.lookup c.title = none := by
      rw [idle.macros, lookup_map_key (fun m : Statement × List Line => m.1.title), missing]
      rfl
    rw [macros, Ordered.put_of_missing free, idle.macros, List.map_append]
    rfl
  · intro name i known
    have more : s'.buffer.blocks.length = s.buffer.blocks.length + 1 := by
      rw [buffer]
      simp [Buffer.withBlock]
    rw [found] at known
    split at known
    · cases known
      omega
    · have before := idle.known name i known
      omega
  · intro m member
    rcases List.mem_append.mp member with member | member
    · -- a macro made before has another title, and so another block
      have different : blockOf m.1.title ≠ blockOf c.title := by
        intro same
        have other := List.find?_eq_none.mp missing m member
        rw [blockOf_injective same] at other
        simp at other
      have kept := Buffer.content_withBlock_other different (idle.known _) (.count 2) (Buffer.texts parts) indent
      rw [unit, buffer, kept]
      exact idle.contents m member
    · rw [List.mem_singleton.mp member, unit, ← text, buffer]
      exact Buffer.content_withBlock s.buffer (blockOf c.title) (.count 2) parts indent

theorem goes_compileMacro_new (idle : Idle hindered s made) (given : c.param = .text c.paramText)
    (present : c.title ≠ "") (new : made.accepted.lookup c.title = none)
    (bars : ∀ place ∈ c.content, Bars place → hindered) :
    Goes hindered (compileMacro c (compileAll c.content)) s (bodyTally c.children) fun _ s' =>
      Idle hindered s' (made ++
        [(c, macroLines s.config.framework c.title (shownBody s.config.framework s.names c.children))]) := by
  have missing : s.macros.slot? c.title = none := by
    rw [Made.lookup_accepted, Option.map_eq_none_iff] at new
    rw [idle.slot?_eq, new]
    rfl
  apply goes_compileMacro_idle idle given
  rw [if_neg present]
  -- making the slot and filling it count for nothing
  rw [← Tally.empty_append (bodyTally c.children), ← Tally.empty_append (bodyTally c.children)]
  apply Goes.bind (goes_macroSlot missing)
  rintro slot s₁ m₁ ⟨rfl, buffer₁, macros₁⟩
  have made₁ : s₁.macros.slot? c.title = some {} := by
    rw [Slots.slot?, macros₁, Ordered.lookup_put, if_pos rfl]
    rfl
  apply Goes.bind (goes_setMacro made₁ (some c))
  rintro _ s₂ m₂ ⟨buffer₂, macros₂⟩
  have m := m₁.trans m₂
  have buffer : s₂.buffer = s.buffer := buffer₂.trans buffer₁
  have inside (s' : Session) (i : Nat) (writes : Writes hindered s' i 4) (m' : Moved s₂ s' {}) :
      Emits hindered i (compileAll c.content) s' () (shownBody s.config.framework s.names c.children)
        (bodyTally c.children) := by
    have all := emits_compileAll writes c.content bars
    rw [m'.config, m'.names, m.config, m.names] at all
    exact all
  refine (goes_macroBlock (idle.steady.moved m) (by rw [buffer]; exact idle.idle) c.title inside).mono ?_
  rintro _ s₃ m₃ ⟨macros₃, parts, indent, buffer₃, text⟩
  rw [buffer] at buffer₃ text
  rw [m.config] at text
  refine idle.add (idle.steady.moved (m.trans m₃)) new ?_ buffer₃ text
  rw [macros₃, macros₂, macros₁, Ordered.put_put]

/-- What a statement at the top level cannot be compiled for. -/
inductive BarsTop (c : Statement) : Prop where
  | name {fault : Fault} (unknown : directive? c.name = .error fault)
  | param (other : c.param.text? = none)
    (kind : Grammar.directive c.nameText = .macroDefinition ∨ Grammar.directive c.nameText = .dependency)
  | inside (kind : Grammar.directive c.nameText = .macroDefinition) {place : Option Statement}
    (member : place ∈ c.content) (bars : Bars place)

theorem goes_compileMacro_top (idle : Idle hindered s made)
    (kind : Grammar.directive c.nameText = .macroDefinition) (given : c.param = .text c.paramText)
    (bars : ∀ place ∈ c.content, Bars place → hindered) :
    Goes hindered (compileMacro c (compileAll c.content)) s (topTally made.accepted c) fun _ s' =>
      Idle hindered s' (made ++ sectionOf shownBody made.accepted s.config.framework s.names c) := by
  by_cases blank : c.title = ""
  · apply idle.goes_still (goes_compileMacro_blank idle given blank _) (by simp [Grammar.accepts, blank])
    · simp [referencesIn, kind]
    · rfl
    · simp [Grammar.topReports, kind, blank, Report.missingParameter]
  · cases taken : made.accepted.lookup c.title with
    | some line =>
      apply idle.goes_still (goes_compileMacro_again idle given blank taken _) (by simp [Grammar.accepts, taken])
      · simp [referencesIn, kind]
      · rfl
      · simp [Grammar.topReports, kind, blank, taken, Report.macroAlreadyDefined]
    | none =>
      have accepted : Grammar.accepts made.accepted c = true := by simp [Grammar.accepts, kind, blank, taken]
      have same : topTally made.accepted c = bodyTally c.children := by
        simp [topTally, accepted, bodyTally, Grammar.topReports, kind, blank, taken]
      rw [same, sectionOf, if_pos accepted]
      exact goes_compileMacro_new idle given blank taken bars

/-- A statement at the top level adds its section and its tally. -/
theorem goes_compile_top (idle : Idle hindered s made) (bars : BarsTop c → hindered) :
    Goes hindered (compile c) s (topTally made.accepted c) fun _ s' =>
      Idle hindered s' (made ++ sectionOf shownBody made.accepted s.config.framework s.names c) := by
  cases found : directive? c.name with
  | error fault => exact goes_of_fault (compile_of_error found) (bars (.name found)) rfl
  | ok what =>
    have kind := Statement.directive_of_ok found
    rw [compile_of_ok found]
    cases what with
    | text =>
      apply idle.goes_still (goes_refused idle c _) (accepts_of_other (by simp [kind]))
      · simp [referencesIn, kind]
      · rfl
      · simp [Grammar.topReports, kind, Report.statementNotAllowed]
    | expression =>
      apply idle.goes_still (goes_refused idle c _) (accepts_of_other (by simp [kind]))
      · simp [referencesIn, kind]
      · rfl
      · simp [Grammar.topReports, kind, Report.statementNotAllowed]
    | dependency =>
      rcases param_cases c with other | given
      · have failed := compileDependency_of_other other s
        exact goes_of_fault failed (bars (.param other (.inr kind))) rfl
      · have goes := goes_compileDependency idle.steady given
        apply idle.goes_still goes (accepts_of_other (by simp [kind]))
        · simp [referencesIn, kind]
        · rfl
        · simp [Grammar.topReports, kind]
    | unknown =>
      have warned := goes_reportWarning idle.steady (some c) (.list [c.name])
        (show (Grammar.complaint c Report.unknownStatement).isError = false from rfl)
      apply idle.goes_still warned (accepts_of_other (by simp [kind]))
      · simp [referencesIn, kind]
      · rfl
      · simp [Grammar.topReports, kind, Grammar.complaint, Report.unknownStatement]
    | macroDefinition =>
      rcases param_cases c with other | given
      · have failed : compileMacro c (compileAll c.content) s = .error (.noAttribute c.param.kind "strip") s := by
          rw [compileMacro, Act.bind_of_ok (isReady_of_idle idle.idle), if_neg Bool.false_ne_true,
            textFor_of_other other]
          rfl
        exact goes_of_fault failed (bars (.param other (.inl kind))) rfl
      · exact goes_compileMacro_top idle kind given fun place member barred => bars (.inside kind member barred)

def sectionsOf (body : Wording) (accepted : Grammar.Accepted) (framework : String) (names : Names) :
    List Statement → Made
  | [] => []
  | c :: rest =>
    sectionOf body accepted framework names c ++
      sectionsOf body (accepted.and c) framework (names.skip (topTally accepted c).names) rest

def templateTally (accepted : Grammar.Accepted) : List Statement → Tally
  | [] => {}
  | c :: rest => topTally accepted c ++ templateTally (accepted.and c) rest

theorem reports_templateTally (accepted : Grammar.Accepted) (statements : List Statement) :
    (templateTally accepted statements).reports = Grammar.reportsAfter accepted statements := by
  induction statements generalizing accepted with
  | nil => rfl
  | cons c rest ih => exact congrArg (Grammar.topReports accepted c ++ ·) (ih (accepted.and c))

theorem accepted_section (body : Wording) (made : Made) (framework : String) (names : Names) (c : Statement) :
    (made ++ sectionOf body made.accepted framework names c).accepted = made.accepted.and c := by
  rw [sectionOf, Grammar.Accepted.and]
  split <;> simp [Made.accepted]

theorem accepted_sections (body : Wording) (made : Made) (framework : String) (names : Names)
    (statements : List Statement) :
    (made ++ sectionsOf body made.accepted framework names statements).accepted =
      statements.foldl Grammar.Accepted.and made.accepted := by
  induction statements generalizing made names with
  | nil => simp [sectionsOf]
  | cons c rest ih =>
    rw [sectionsOf, ← List.append_assoc, ← accepted_section body made framework names c, ih, List.foldl_cons,
      accepted_section]

theorem sectionsOf_congr {body body' : Wording} {statements : List Statement}
    (same : ∀ c ∈ statements, Grammar.directive c.nameText = .macroDefinition →
      ∀ framework names, body framework names c.children = body' framework names c.children)
    (accepted : Grammar.Accepted) (framework : String) (names : Names) :
    sectionsOf body accepted framework names statements = sectionsOf body' accepted framework names statements := by
  induction statements generalizing accepted names with
  | nil => rfl
  | cons c rest ih =>
    have first : sectionOf body accepted framework names c = sectionOf body' accepted framework names c := by
      by_cases kind : Grammar.directive c.nameText = .macroDefinition
      · simp only [sectionOf, same c List.mem_cons_self kind]
      · simp [sectionOf, accepts_of_other kind]
    have others := ih fun d member => same d (List.mem_cons_of_mem c member)
    rw [sectionsOf, sectionsOf, first, others]

theorem goes_compileAll_top (idle : Idle hindered s made) (statements : List Statement)
    (bars : ∀ c ∈ statements, BarsTop c → hindered) :
    Goes hindered (compileAll (statements.map some)) s (templateTally made.accepted statements) fun _ s' =>
      Idle hindered s' (made ++ sectionsOf shownBody made.accepted s.config.framework s.names statements) := by
  induction statements generalizing s made with
  | nil =>
    refine Act.ends_of_ok rfl ⟨Moved.refl s, ?_⟩
    rw [sectionsOf, List.append_nil]
    exact idle
  | cons c rest ih =>
    apply Goes.bind (goes_compile_top idle (bars c List.mem_cons_self))
    intro _ s' moved idle'
    have others := ih idle' fun d member => bars d (List.mem_cons_of_mem c member)
    rw [accepted_section, moved.config, moved.names, List.append_assoc] at others
    exact others

end TemplateCompiler.Compiler
