import Mathlib.Data.List.Forall2
import TemplateCompiler.Proofs.Buffer.Assignment

namespace TemplateCompiler

open Buffer (Operation)

structure Entry where
  level : Int
  isLine : Bool
  text : String
  deriving DecidableEq, Repr

namespace Entry

def shown (unit : Option String) (e : Entry) : String :=
  if e.isLine then margin unit (max e.level 0).toNat ++ e.text else e.text

theorem shown_of_disabled {unit : Option String} (disabled : unit.getD "" = "") (e : Entry) :
    e.shown unit = e.text := by
  simp [shown, margin_empty disabled]

end Entry

/-- A buffer without unit and indent, whose levels always count. -/
structure Draft where
  blocks : List (Int × List Entry) := []
  names : List (String × Nat) := []
  active : Option Nat := none
  stack : List (Option Nat) := []
  deriving DecidableEq, Repr

namespace Buffer.Operation

def isPlain : Operation → Bool
  | .startBlock _ (.other _) | .setUnit _ => false
  | _ => true

def needsBlock : Operation → Bool
  | .write _ | .writeLine _ | .shift _ => true
  | _ => false

end Buffer.Operation

namespace Draft

variable {d : Draft} {op : Operation} {ops : List Operation} {u : Uncached} {b : Buffer}

def change (d : Draft) (f : Int × List Entry → Int × List Entry) : Draft :=
  match d.active with
  | some i => { d with blocks := d.blocks.modify i f }
  | none => d

def add (d : Draft) (isLine : Bool) (text : String) : Draft :=
  d.change fun block => (block.1, block.2 ++ [⟨block.1, isLine, text⟩])

def next (d : Draft) : Operation → Draft
  | .startBlock name (.count n) =>
    { d with blocks := d.blocks ++ [(n, [])], names := Ordered.put d.names name d.blocks.length }
  | .startBlock _ (.other _) => d
  | .enter name => { d with stack := d.active :: d.stack, active := d.names.lookup name }
  | .leave => { d with active := d.stack.headD none, stack := d.stack.tail }
  | .write parts => d.add false (String.join parts)
  | .writeLine parts => d.add true (String.join parts ++ "\n")
  | .shift inward => d.change fun block => (if inward then block.1 + 1 else block.1 - 1, block.2)
  | .setUnit _ => d

def run (d : Draft) (ops : List Operation) : Draft := ops.foldl next d

def entries (d : Draft) (i : Nat) : List Entry := (d.blocks[i]?.map Prod.snd).getD []

/-- What a name holds as a unit shows it. -/
def content (d : Draft) (unit : Option String) (name : String) : Except Fault String :=
  match d.names.lookup name with
  | some i => .ok (String.join ((d.entries i).map (Entry.shown unit)))
  | none => .error (.unknownBlock name)

/-- The operation can be done on a buffer that indents its lines. -/
def Takes (d : Draft) (op : Operation) : Prop := op.isPlain ∧ (op.needsBlock → d.active.isSome)

def TakesAll (d : Draft) : List Operation → Prop
  | [] => True
  | op :: rest => d.Takes op ∧ (d.next op).TakesAll rest

/-! A buffer without kept indent -/

/-- A block as a unit shows it. Its level is only told where lines are indented. -/
def ShowsBlock (unit : Option String) (block : Int × List Entry) (block' : Level × String) : Prop :=
  (unit.getD "" ≠ "" → block'.1 = .count block.1) ∧ block'.2 = String.join (block.2.map (Entry.shown unit))

structure Shows (d : Draft) (u : Uncached) : Prop where
  blocks : List.Forall₂ (ShowsBlock u.unit) d.blocks u.blocks
  names : u.names = d.names
  active : u.active = d.active
  stack : u.stack = d.stack

theorem forall₂_modify {α β : Type} {R : α → β → Prop} {f : α → α} {g : β → β} {as : List α} {bs : List β} {i : Nat}
    (related : List.Forall₂ R as bs) (here : ∀ a b, as[i]? = some a → bs[i]? = some b → R a b → R (f a) (g b)) :
    List.Forall₂ R (as.modify i f) (bs.modify i g) := by
  induction related generalizing i with
  | nil => simp
  | cons first rest ih =>
    cases i with
    | zero => exact .cons (here _ _ rfl rfl first) rest
    | succ i => exact .cons first (ih fun a b left right => here a b left right)

theorem ShowsBlock.margin {block : Int × List Entry} {block' : Level × String}
    (shows : ShowsBlock u.unit block block') :
    u.margin block'.1 = margin u.unit (max block.1 0).toNat := by
  by_cases disabled : u.unit.getD "" = ""
  · rw [margin_empty disabled, Uncached.margin.eq_def]
    cases block'.1 with
    | count n => exact margin_empty disabled _
    | other v => rfl
  · rw [shows.1 disabled, Uncached.margin]

theorem ShowsBlock.append {block : Int × List Entry} {block' : Level × String} {unit : Option String}
    (shows : ShowsBlock unit block block') {e : Entry} {text : String} (shown : e.shown unit = text) :
    ShowsBlock unit (block.1, block.2 ++ [e]) (block'.1, block'.2 ++ text) := by
  refine ⟨shows.1, ?_⟩
  simp [shows.2, shown]

theorem Shows.startBlock (shows : d.Shows u) (name : String) (n : Int) :
    (d.next (.startBlock name (.count n))).Shows (u.perform (.startBlock name (.count n))).2 where
  blocks := List.rel_append shows.blocks (.cons ⟨fun _ => rfl, rfl⟩ .nil)
  names := by
    simp only [Uncached.perform, next, shows.names, shows.blocks.length_eq]
  active := shows.active
  stack := shows.stack

theorem Shows.append (shows : d.Shows u) (ready : d.active.isSome) {isLine : Bool} {text : String}
    {given : Level → String}
    (shown : ∀ block block', ShowsBlock u.unit block block' →
      Entry.shown u.unit ⟨block.1, isLine, text⟩ = given block'.1) :
    (u.append given).1 = .ok () ∧ (d.add isLine text).Shows (u.append given).2 := by
  obtain ⟨i, active⟩ := Option.isSome_iff_exists.mp ready
  have active' : u.active = some i := shows.active.trans active
  simp only [Uncached.append, add, change, active, active']
  refine ⟨trivial, forall₂_modify shows.blocks ?_, shows.names, rfl, shows.stack⟩
  exact fun block block' _ _ both => both.append (shown block block' both)

theorem Shows.levelOf (shows : d.Shows u) (enabled : u.unit.getD "" ≠ "") (i : Nat) :
    ∃ n, u.levelOf i = .count n ∧ ∀ block, d.blocks[i]? = some block → block.1 = n := by
  have length := shows.blocks.length_eq
  by_cases known : i < d.blocks.length
  · have known' : i < u.blocks.length := length ▸ known
    have level : (u.blocks[i]).1 = .count (d.blocks[i]).1 := (shows.blocks.get known known').1 enabled
    refine ⟨(d.blocks[i]).1, by simp [Uncached.levelOf, known', level], fun block stored => ?_⟩
    rw [List.getElem?_eq_getElem known] at stored
    rw [← Option.some.inj stored]
  · have beyond : u.blocks.length ≤ i := by omega
    refine ⟨0, by simp [Uncached.levelOf, beyond], fun block stored => ?_⟩
    rw [List.getElem?_eq_none (by omega)] at stored
    cases stored

theorem Shows.shift (shows : d.Shows u) (ready : d.active.isSome) (inward : Bool) :
    (u.shift inward).1 = .ok () ∧ (d.next (.shift inward)).Shows (u.shift inward).2 := by
  obtain ⟨i, active⟩ := Option.isSome_iff_exists.mp ready
  have active' : u.active = some i := shows.active.trans active
  unfold Uncached.shift
  simp only [next, change, active, active']
  by_cases disabled : u.unit.getD "" = ""
  · -- the draft counts on, and the buffer shows no level
    rw [if_pos disabled]
    refine ⟨rfl, ?_, shows.names, active', shows.stack⟩
    have same : u.blocks.modify i id = u.blocks := List.modify_id i u.blocks
    rw [← same]
    exact forall₂_modify shows.blocks fun block block' _ _ both => ⟨fun enabled => absurd disabled enabled, both.2⟩
  · rw [if_neg disabled]
    obtain ⟨n, level, drafted⟩ := shows.levelOf disabled i
    rw [level]
    refine ⟨rfl, forall₂_modify shows.blocks ?_, shows.names, rfl, shows.stack⟩
    intro block block' stored _ both
    exact ⟨fun _ => by rw [drafted block stored], both.2⟩

theorem Shows.perform (shows : d.Shows u) (takes : d.Takes op) :
    (u.perform op).1 = .ok () ∧ (d.next op).Shows (u.perform op).2 := by
  obtain ⟨plain, ready⟩ := takes
  cases op with
  | startBlock name level =>
    cases level with
    | count n => exact ⟨rfl, shows.startBlock name n⟩
    | other v => cases plain
  | enter name =>
    refine ⟨rfl, shows.blocks, shows.names, ?_, ?_⟩
    · simp only [Uncached.perform, next, shows.names]
    · simp only [Uncached.perform, next, shows.active, shows.stack]
  | leave =>
    refine ⟨rfl, shows.blocks, shows.names, ?_, ?_⟩
    · simp only [Uncached.perform, next, shows.stack]
    · simp only [Uncached.perform, next, shows.stack]
  | write parts => exact shows.append (ready rfl) fun _ _ _ => rfl
  | writeLine parts =>
    refine shows.append (ready rfl) fun block block' both => ?_
    rw [both.margin, String.append_assoc]
    rfl
  | shift inward => exact shows.shift (ready rfl) inward
  | setUnit unit => cases plain

/-! A buffer with kept indent -/

/-- The buffer is the draft as its unit shows it. -/
structure Describes (d : Draft) (b : Buffer) : Prop where
  valid : b.Valid
  inStep : b.InStep
  shows : d.Shows b.forget

theorem describes_empty (unit : Option String) : Describes {} { unit } where
  valid := .empty unit
  inStep := Buffer.renewal_of_idle rfl
  shows := ⟨.nil, rfl, rfl, rfl⟩

namespace Describes

variable (describes : d.Describes b)

include describes

theorem next (takes : d.Takes op) (can : (b.next op).CanIndent) :
    b.answer op = .ok () ∧ (d.next op).Describes (b.next op) := by
  have idle : op.setsUnit → b.active = none := by
    intro sets
    cases op with
    | setUnit unit => cases takes.1
    | _ => cases sets
  obtain ⟨same, inStep⟩ := Buffer.forget_next describes.valid describes.inStep idle can
  obtain ⟨fine, shows⟩ := describes.shows.perform takes
  rw [same] at fine shows
  exact ⟨fine, describes.valid.next op, inStep, shows⟩

theorem takes (op : Operation) (plain : op.isPlain) (ready : op.needsBlock → b.isReady) : d.Takes op := by
  refine ⟨plain, fun needs => ?_⟩
  rw [← describes.shows.active]
  exact ready needs

/-- What a buffer that indents its lines does without fault can be done under every other unit. -/
theorem takes_of_ok (enabled : b.unit?.isSome) (plain : op.isPlain) (fine : b.answer op = .ok ()) : d.Takes op := by
  refine describes.takes op plain fun needs => ?_
  rw [Buffer.isReady]
  cases active : b.active with
  | some i => rfl
  | none =>
    cases op with
    | write parts => simp only [Buffer.answer, Operation.act, Act.outcome, Buffer.write_eq, active] at fine; cases fine
    | writeLine parts =>
      simp only [Buffer.answer, Operation.act, Act.outcome, Buffer.writeLine_eq, active] at fine
      cases fine
    | shift inward =>
      simp only [Buffer.answer, Operation.act, Act.outcome, Buffer.shift_eq, active, enabled, ↓reduceIte] at fine
      cases fine
    | _ => cases needs

omit describes in
theorem canIndent_of_renewed (fine : Act.outcome Buffer.renewIndent b = .ok ()) : b.renewed.CanIndent := by
  simp only [Act.outcome, Buffer.renewIndent_eq] at fine
  unfold Buffer.renewed
  cases found : b.renewal with
  | ok indent => exact ⟨indent, Buffer.renewal_with b found⟩
  | error fault =>
    rw [found] at fine
    cases fine

theorem canIndent_of_ok (plain : op.isPlain) (fine : b.answer op = .ok ()) : (b.next op).CanIndent := by
  have keeps {b' : Buffer} (inStep : b'.InStep) : b'.CanIndent := ⟨b'.indent, inStep⟩
  cases op with
  | startBlock name level =>
    refine keeps (describes.inStep.congr rfl rfl rfl fun i active => ?_)
    have known := describes.valid.active i active
    simp only [Buffer.next_startBlock, Buffer.addBlock, Buffer.levelOf, List.getElem?_append_left known]
  | enter name =>
    rw [Buffer.next_enter]
    exact canIndent_of_renewed fine
  | leave =>
    rw [Buffer.next_leave]
    exact canIndent_of_renewed fine
  | write parts =>
    rw [Buffer.next_write]
    exact keeps (describes.inStep.written _)
  | writeLine parts =>
    rw [Buffer.next_writeLine]
    exact keeps (describes.inStep.written _)
  | shift inward =>
    simp only [Buffer.answer, Operation.act, Act.outcome, Buffer.shift_eq] at fine
    rw [Buffer.next_shift, Buffer.shifted]
    split
    · rename_i enabled
      rw [if_pos enabled] at fine
      cases active : b.active with
      | none => exact ⟨b.indent, Buffer.renewal_of_idle active⟩
      | some i =>
        simp only [active] at fine ⊢
        cases step : (b.levelOf i).step inward with
        | error fault => exact keeps describes.inStep
        | ok level =>
          simp only [step] at fine
          exact canIndent_of_renewed fine
    · exact keeps describes.inStep
  | setUnit unit => cases plain

theorem content (name : String) : b.content name = d.content b.unit name := by
  have found : b.find? name = d.names.lookup name := congrArg (·.lookup name) describes.shows.names
  rw [describes.valid.content_eq, Draft.content, found]
  cases named : d.names.lookup name with
  | none => rfl
  | some i =>
    have known : i < b.blocks.length := describes.valid.names name i (found.trans named)
    have length : d.blocks.length = b.blocks.length := by
      simpa [Buffer.forget] using describes.shows.blocks.length_eq
    have drafted : i < d.blocks.length := length ▸ known
    have text := (describes.shows.blocks.get drafted (by simpa [Buffer.forget] using known)).2
    simp only [Buffer.forget, List.get_eq_getElem, List.getElem_map] at text
    simp [Buffer.textOf, known, entries, drafted, text]

end Describes

/-! Runs -/

theorem Describes.run (describes : d.Describes b) (takes : d.TakesAll ops) (orderly : b.Orderly ops) :
    (∀ answer ∈ b.answers ops, answer = .ok ()) ∧ ∀ n, (d.run (ops.take n)).Describes (b.run (ops.take n)) := by
  induction ops generalizing d b with
  | nil =>
    refine ⟨List.forall_mem_nil _, fun n => ?_⟩
    rw [List.take_nil]
    exact describes
  | cons op rest ih =>
    obtain ⟨first, others⟩ := takes
    obtain ⟨-, can, later⟩ := orderly
    obtain ⟨fine, describes'⟩ := describes.next first can
    obtain ⟨fines, prefixes⟩ := ih describes' others later
    refine ⟨fun answer member => ?_, fun n => ?_⟩
    · rcases List.mem_cons.mp member with rfl | member
      · exact fine
      · exact fines answer member
    · cases n with
      | zero => exact describes
      | succ n => exact prefixes n

theorem Describes.takesAll_of_ok (describes : d.Describes b) (enabled : b.unit?.isSome)
    (plain : ∀ op ∈ ops, op.isPlain) (fine : ∀ answer ∈ b.answers ops, answer = .ok ()) :
    d.TakesAll ops ∧ b.Orderly ops := by
  induction ops generalizing d b with
  | nil => exact ⟨trivial, trivial⟩
  | cons op rest ih =>
    have plain' := plain op List.mem_cons_self
    have fine' : b.answer op = .ok () := fine _ List.mem_cons_self
    have takes := describes.takes_of_ok enabled plain' fine'
    have can := describes.canIndent_of_ok plain' fine'
    have unset : op.setsUnit = false := by
      cases op with
      | setUnit unit => cases plain'
      | _ => rfl
    have enabled' : (b.next op).unit?.isSome := by rw [Buffer.unit?, Buffer.unit_next b unset]; exact enabled
    obtain ⟨takes', orderly⟩ := ih (describes.next takes can).2 enabled'
      (fun op member => plain op (List.mem_cons_of_mem _ member))
      fun answer member => fine answer (List.mem_cons_of_mem _ member)
    exact ⟨⟨takes, takes'⟩, fun sets => (by rw [unset] at sets; cases sets), can, orderly⟩

end Draft

end TemplateCompiler
