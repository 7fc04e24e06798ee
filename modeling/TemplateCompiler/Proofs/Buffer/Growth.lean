import TemplateCompiler.Proofs.Buffer.Operation

namespace TemplateCompiler

structure Line where
  level : Nat
  text : String
  deriving DecidableEq, Repr

def Line.render (unit : Option String) (line : Line) : String := margin unit line.level ++ line.text ++ "\n"

def rendered (unit : Option String) (lines : List Line) : String := String.join (lines.map (Line.render unit))

theorem rendered_nil (unit : Option String) : rendered unit [] = "" := rfl

theorem rendered_cons (unit : Option String) (line : Line) (lines : List Line) :
    rendered unit (line :: lines) = line.render unit ++ rendered unit lines := by
  simp only [rendered, List.map_cons, String.join_cons]

theorem rendered_append (unit : Option String) (lines more : List Line) :
    rendered unit (lines ++ more) = rendered unit lines ++ rendered unit more := by
  simp only [rendered, List.map_append, String.join_append]

theorem rendered_singleton (unit : Option String) (line : Line) : rendered unit [line] = line.render unit := by
  rw [rendered_cons, rendered_nil, String.append_empty]

def deepest : Nat := 5

def TooLong (unit : Option String) : Prop := ∃ u, unit = some u ∧ Level.roomLimit < u.length * deepest

namespace Level

theorem indent_of_room {unit : String} {level : Nat} (shallow : level ≤ deepest)
    (room : unit.length * deepest ≤ roomLimit) :
    (count level).indent unit = .ok (repeatText unit level) := by
  have narrow : (level : Int) ≤ sizeLimit := by
    simp only [deepest, sizeLimit] at *
    omega
  have short : unit.length * level ≤ unit.length * deepest := Nat.mul_le_mul_left _ shallow
  have fits : (unit.length : Int) * level ≤ roomLimit := by omega
  have spelled := indent_of_fits (Int.natCast_nonneg level) narrow fits
  rw [spelled, Int.toNat_natCast]

end Level

theorem tooLong_of_unfit {unit : Option String} {u : String} {level : Nat} {fault : Fault} (given : unit = some u)
    (shallow : level ≤ deepest) (unfit : (Level.count level).indent u = .error fault) : TooLong unit := by
  refine ⟨u, given, Int.not_le.mp ?_⟩
  intro room
  rw [Level.indent_of_room shallow room] at unfit
  cases unfit

namespace Buffer

variable {b : Buffer} {i level : Nat}

theorem appendTo_nil (b : Buffer) (i : Nat) : b.appendTo i [] = b := by
  have same : b.blocks.modify i (fun block => { block with pieces := block.pieces ++ [] }) = b.blocks := by
    simp only [List.append_nil]
    exact List.modify_id i b.blocks
  simp only [appendTo, same]

theorem appendTo_appendTo (b : Buffer) (i : Nat) (pieces more : List Value) :
    (b.appendTo i pieces).appendTo i more = b.appendTo i (pieces ++ more) := by
  simp only [appendTo, List.modify_modify_eq, Function.comp_def, List.append_assoc]

theorem levelOf_setLevel (known : i < b.blocks.length) (level : Level) : (b.setLevel i level).levelOf i = level := by
  simp [levelOf, setLevel, List.getElem?_eq_getElem known]

def moved (b : Buffer) (i : Nat) (level : Level) (indent : String) : Buffer := { b.setLevel i level with indent }

theorem known_moved {indent : String} {other : Level} (known : i < b.blocks.length) :
    i < (b.moved i other indent).blocks.length := by
  simpa [moved, setLevel] using known

theorem levelOf_moved (known : i < b.blocks.length) (level : Level) (indent : String) :
    (b.moved i level indent).levelOf i = level := levelOf_setLevel known level

theorem moved_moved (b : Buffer) (i : Nat) (level other : Level) (indent next : String) :
    (b.moved i level indent).moved i other next = b.moved i other next := by
  simp only [moved, setLevel, List.modify_modify_eq, Function.comp_def]

theorem appendTo_moved (b : Buffer) (i : Nat) (pieces : List Value) (level : Level) (indent : String) :
    (b.moved i level indent).appendTo i pieces = (b.appendTo i pieces).moved i level indent := by
  simp only [moved, setLevel, appendTo, List.modify_modify_eq, Function.comp_def]

theorem moved_levelOf (b : Buffer) (i : Nat) : b.moved i (b.levelOf i) b.indent = b := by
  have same : b.blocks.modify i (fun block => { block with level := b.levelOf i }) = b.blocks := by
    apply List.ext_getElem?
    intro j
    rw [List.getElem?_modify]
    by_cases here : i = j
    · subst here
      cases found : b.blocks[i]? <;> simp [levelOf, found]
    · simp [here]
  simp only [moved, setLevel, same]

theorem shift_of_step {u indent : String} {inward : Bool} {level : Level} (enabled : b.unit? = some u)
    (active : b.active = some i) (step : (b.levelOf i).step inward = .ok level)
    (renewal : (b.setLevel i level).renewal = .ok indent) : shift inward b = .ok () (b.moved i level indent) := by
  rw [shift_eq, enabled, active]
  simp only [Option.isSome_some, ↓reduceIte, step]
  rw [renewIndent_eq, renewal]
  rfl

theorem shift_of_fits {u indent : String} {inward : Bool} {level : Level} (known : i < b.blocks.length)
    (enabled : b.unit? = some u) (active : b.active = some i) (step : (b.levelOf i).step inward = .ok level)
    (fits : level.indent u = .ok indent) : shift inward b = .ok () (b.moved i level indent) := by
  have renewal : (b.setLevel i level).renewal = .ok indent := by
    rw [renewal_of_active (b := b.setLevel i level) enabled active, levelOf_setLevel known, fits]
  exact shift_of_step enabled active step renewal

theorem shift_of_unfit {u : String} {fault : Fault} {inward : Bool} {level : Level} (known : i < b.blocks.length)
    (enabled : b.unit? = some u) (active : b.active = some i) (step : (b.levelOf i).step inward = .ok level)
    (fails : level.indent u = .error fault) : shift inward b = .error fault (b.setLevel i level) := by
  have renewal : (b.setLevel i level).renewal = .error fault := by
    rw [renewal_of_active (b := b.setLevel i level) enabled active, levelOf_setLevel known, fails]
  rw [shift_eq, enabled, active]
  simp only [Option.isSome_some, ↓reduceIte, step]
  rw [renewIndent_eq, renewal]

/-- Block `i` is active at the given level, which counts only where lines are indented. -/
structure Standing (b : Buffer) (i : Nat) (n : Int) : Prop where
  active : b.active = some i
  known : i < b.blocks.length
  level : b.unit?.isSome → b.levelOf i = .count n
  inStep : b.InStep

namespace Standing

variable {n : Int}

theorem appendTo (standing : b.Standing i n) (pieces : List Value) : (b.appendTo i pieces).Standing i n where
  active := standing.active
  known := by simpa [Buffer.appendTo] using standing.known
  level enabled := (levelOf_appendTo b i pieces i).trans (standing.level enabled)
  inStep := standing.inStep.congr rfl rfl rfl fun j _ => levelOf_appendTo b i pieces j

theorem writeLine_eq (standing : b.Standing i n) (parts : List String) :
    ∃ pieces, writeLine (texts parts) b = .ok () (b.appendTo i (texts pieces)) ∧
      String.join pieces = Line.render b.unit ⟨n.toNat, String.join parts⟩ := by
  have start := standing.inStep.indent_eq standing.active standing.level
  have join := line_join b parts
  obtain ⟨pieces, spelled⟩ : ∃ pieces, b.lineStart ++ texts parts ++ [.text "\n"] = texts pieces := by
    unfold lineStart
    split
    · exact ⟨b.indent :: parts ++ ["\n"], by simp [texts]⟩
    · exact ⟨parts ++ ["\n"], by simp [texts]⟩
  refine ⟨pieces, ?_, ?_⟩
  · rw [Buffer.writeLine_eq, standing.active, spelled]
  · rw [spelled, texts_join, start] at join
    exact join

theorem moved {u indent : String} (standing : b.Standing i n) (enabled : b.unit? = some u) {m : Int}
    (fits : (Level.count m).indent u = .ok indent) : (b.moved i (.count m) indent).Standing i m where
  active := standing.active
  known := known_moved standing.known
  level _ := levelOf_moved standing.known _ _
  inStep := by
    rw [InStep, renewal_of_active (b := b.moved i _ indent) enabled standing.active, levelOf_moved standing.known]
    exact fits

theorem decrease_eq {u : String} (standing : b.Standing i n) (enabled : b.unit? = some u) (indent : String)
    (pieces : List Value) :
    decrease ((b.moved i (.count (n + 1)) indent).appendTo i pieces) = .ok () (b.appendTo i pieces) := by
  have after := standing.appendTo pieces
  have lined : (b.appendTo i pieces).unit? = some u := enabled
  have stands : (b.appendTo i pieces).levelOf i = .count n := after.level (by rw [lined]; rfl)
  have outward : (((b.appendTo i pieces).moved i (.count (n + 1)) indent).levelOf i).step false = .ok (.count n) := by
    rw [levelOf_moved after.known]
    simp [Level.step]
  have fits : (Level.count n).indent u = .ok b.indent := by
    rw [← stands, ← renewal_of_active lined standing.active]
    exact after.inStep
  rw [appendTo_moved, decrease, shift_of_fits (known_moved after.known) lined standing.active outward fits, moved_moved]
  rw [← stands]
  exact congrArg (EStateM.Result.ok ()) (moved_levelOf (b.appendTo i pieces) i)

/-- Where the unit can be repeated once more, there is room for lines further in. What is written there stays when the
    level comes back. -/
theorem increase_of_fits (standing : b.Standing i n)
    (fits : ∀ u, b.unit? = some u → ∃ indent, (Level.count (n + 1)).indent u = .ok indent) :
    ∃ b', increase b = .ok () b' ∧ b'.Standing i (n + 1) ∧ b'.unit = b.unit ∧
      ∀ pieces, decrease (b'.appendTo i pieces) = .ok () (b.appendTo i pieces) := by
  cases enabled : b.unit? with
  | none =>
    have still (inward : Bool) (b' : Buffer) (same : b'.unit? = none) : shift inward b' = .ok () b' := by
      rw [shift_eq, same]
      rfl
    refine ⟨b, still true b enabled, ⟨standing.active, standing.known, fun given => ?_, standing.inStep⟩, rfl, ?_⟩
    · rw [enabled] at given
      cases given
    · exact fun pieces => still false _ enabled
  | some u =>
    obtain ⟨indent, fits⟩ := fits u enabled
    have stands : b.levelOf i = .count n := standing.level (by rw [enabled]; rfl)
    have inward : (b.levelOf i).step true = .ok (.count (n + 1)) := by rw [stands]; rfl
    exact ⟨_, shift_of_fits standing.known enabled standing.active inward fits, standing.moved enabled fits, rfl,
      standing.decrease_eq enabled indent⟩

end Standing

structure Writing (b : Buffer) (i level : Nat) : Prop where
  active : b.active = some i
  known : i < b.blocks.length
  level : b.unit?.isSome → b.levelOf i = .count level
  inStep : b.InStep

theorem Writing.standing (writing : b.Writing i level) : b.Standing i level :=
  ⟨writing.active, writing.known, writing.level, writing.inStep⟩

theorem Standing.writing (standing : b.Standing i level) : b.Writing i level :=
  ⟨standing.active, standing.known, standing.level, standing.inStep⟩

theorem Writing.appendTo (writing : b.Writing i level) (pieces : List Value) : (b.appendTo i pieces).Writing i level :=
  (writing.standing.appendTo pieces).writing

theorem Writing.writeLine_eq (writing : b.Writing i level) (parts : List String) :
    ∃ pieces, writeLine (texts parts) b = .ok () (b.appendTo i (texts pieces)) ∧
      String.join pieces = Line.render b.unit ⟨level, String.join parts⟩ := writing.standing.writeLine_eq parts

theorem Writing.increase_cases (writing : b.Writing i level) (shallow : level < deepest) :
    (∃ b', increase b = .ok () b' ∧ b'.Writing i (level + 1) ∧ b'.unit = b.unit ∧
      ∀ pieces, decrease (b'.appendTo i pieces) = .ok () (b.appendTo i pieces)) ∨
    ∃ fault b', increase b = .error fault b' ∧ TooLong b.unit := by
  by_cases fits : ∀ u, b.unit? = some u → ∃ indent, (Level.count (level + 1 : Nat)).indent u = .ok indent
  · obtain ⟨b', ran, standing, unit, back⟩ := writing.standing.increase_of_fits fits
    exact .inl ⟨b', ran, standing.writing, unit, back⟩
  · simp only [Classical.not_forall] at fits
    obtain ⟨u, enabled, unfit⟩ := fits
    have stands : b.levelOf i = .count level := writing.level (by rw [enabled]; rfl)
    have inward : (b.levelOf i).step true = .ok (.count (level + 1 : Nat)) := by rw [stands]; rfl
    cases fails : (Level.count (level + 1 : Nat)).indent u with
    | ok indent => exact absurd ⟨indent, fails⟩ unfit
    | error fault =>
      have long : TooLong b.unit := tooLong_of_unfit (unit_of_enabled enabled).1 shallow fails
      exact .inr ⟨fault, _, shift_of_unfit writing.known enabled writing.active inward fails, long⟩

def withBlock (b : Buffer) (name : String) (level : Level) (pieces : List Value) (indent : String) : Buffer :=
  { b with
    blocks := b.blocks ++ [({ level, pieces } : Block)]
    names := Ordered.put b.names name b.blocks.length
    indent }

theorem appendTo_addBlock (b : Buffer) (name : String) (level : Level) (pieces : List Value) :
    (b.addBlock name level).appendTo b.blocks.length pieces = b.withBlock name level pieces b.indent := by
  have grown : (b.blocks ++ [({ level } : Block)]).modify b.blocks.length
      (fun block => { block with pieces := block.pieces ++ pieces }) = b.blocks ++ [({ level, pieces } : Block)] := by
    rw [List.modify_eq_take_cons_drop (by simp)]
    simp
  simp only [addBlock, appendTo, withBlock, grown]

theorem find?_addBlock (b : Buffer) (name : String) (level : Level) :
    (b.addBlock name level).find? name = some b.blocks.length := by
  simp only [find?, addBlock, Ordered.lookup_put, ↓reduceIte]

/-- A new block can be entered where none is active, or the unit is too long. What is written to it stays when it is
    left. -/
theorem enter_cases (idle : b.active = none) (name : String) (shallow : level ≤ deepest) :
    (∃ b', enter name (b.addBlock name (.count level)) = .ok () b' ∧ b'.Writing b.blocks.length level ∧
      b'.unit = b.unit ∧ ∀ pieces, ∃ indent,
        leave (b'.appendTo b.blocks.length pieces) = .ok () (b.withBlock name (.count level) pieces indent)) ∨
    ∃ fault b', enter name (b.addBlock name (.count level)) = .error fault b' ∧ TooLong b.unit := by
  let opened := (b.addBlock name (.count level)).push name
  have current : opened.active = some b.blocks.length := find?_addBlock b name _
  have known : b.blocks.length < opened.blocks.length := by
    simp [opened, push, addBlock]
  have stands : opened.levelOf b.blocks.length = .count level := by
    simp [opened, push, addBlock, levelOf]
  have left (indent : String) (pieces : List Value) :
      leave (({ opened with indent } : Buffer).appendTo b.blocks.length pieces) =
        .ok () (b.withBlock name (.count level) pieces indent) := by
    have back : (({ opened with indent } : Buffer).appendTo b.blocks.length pieces).pop =
        b.withBlock name (.count level) pieces indent := by
      have grown := congrArg Buffer.blocks (appendTo_addBlock b name (.count level) pieces)
      simp only [appendTo, addBlock, withBlock] at grown
      simp only [opened, push, pop, appendTo, addBlock, withBlock, idle, grown]
    have idle' : (b.withBlock name (.count level) pieces indent).active = none := idle
    rw [leave_eq, back, renewIndent_eq, renewal_of_idle idle']
  rw [enter_eq]
  cases renewal : opened.renewal with
  | error fault =>
    cases enabled : opened.unit? with
    | none =>
      simp only [Buffer.renewal, enabled] at renewal
      cases renewal
    | some u =>
      have given : b.unit = some u := (unit_of_enabled enabled).1
      have fails := renewal
      rw [renewal_of_active enabled current, stands] at fails
      have long : TooLong b.unit := tooLong_of_unfit given shallow fails
      exact .inr ⟨fault, _, by rw [renewIndent_eq, renewal], long⟩
  | ok indent =>
    have done : renewIndent opened = .ok () { opened with indent } := by rw [renewIndent_eq, renewal]
    refine .inl ⟨_, done, ⟨current, known, fun _ => stands, ?_⟩, rfl, ?_⟩
    · exact renewal_with opened renewal
    · intro pieces
      exact ⟨indent, left indent pieces⟩

theorem find?_withBlock (b : Buffer) (name other : String) (level : Level) (pieces : List Value) (indent : String) :
    (b.withBlock name level pieces indent).find? other = if other = name then some b.blocks.length else b.find? other :=
  Ordered.lookup_put b.names name other b.blocks.length

theorem content_withBlock (b : Buffer) (name : String) (level : Level) (parts : List String) (indent : String) :
    (b.withBlock name level (texts parts) indent).content name = .ok (String.join parts) := by
  have stored : (b.withBlock name level (texts parts) indent).contentOf b.blocks.length =
      (Block.content { level, pieces := texts parts }) := by
    simp [contentOf, withBlock]
  rw [content, find?_withBlock, if_pos rfl]
  simp only [stored]
  rw [Block.content_of_texts (texts_spelled parts), Block.text, texts_join]

theorem content_withBlock_other {other name : String} (different : other ≠ name)
    (known : ∀ i, b.find? other = some i → i < b.blocks.length) (level : Level) (pieces : List Value)
    (indent : String) : (b.withBlock name level pieces indent).content other = b.content other := by
  rw [content, content, find?_withBlock, if_neg different]
  cases found : b.find? other with
  | none => rfl
  | some i =>
    have stored : (b.blocks ++ [({ level, pieces } : Block)])[i]? = b.blocks[i]? :=
      List.getElem?_append_left (known i found)
    simp only [contentOf, withBlock, stored]

end Buffer

end TemplateCompiler
