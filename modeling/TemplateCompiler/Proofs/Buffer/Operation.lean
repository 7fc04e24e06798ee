import TemplateCompiler.Proofs.Buffer.Renewal

namespace TemplateCompiler.Buffer

variable {b : Buffer} {i : Nat}

inductive Operation where
  | startBlock (name : String) (level : Level)
  | enter (name : String)
  | leave
  | write (parts : List String)
  | writeLine (parts : List String)
  | shift (inward : Bool)
  | setUnit (unit : Option String)
  deriving Repr

def texts (parts : List String) : List Value := parts.map .text

def Operation.act : Operation → Act Unit
  | .startBlock name level => Buffer.startBlock name level
  | .enter name => Buffer.enter name
  | .leave => Buffer.leave
  | .write parts => Buffer.write (texts parts)
  | .writeLine parts => Buffer.writeLine (texts parts)
  | .shift inward => Buffer.shift inward
  | .setUnit unit => modify (·.setUnit unit)

/-- The buffer after an operation, whether or not it fails. -/
def next (b : Buffer) (op : Operation) : Buffer := Act.final op.act b

def answer (b : Buffer) (op : Operation) : Except Fault Unit := Act.outcome op.act b

def run (b : Buffer) (ops : List Operation) : Buffer := ops.foldl next b

def answers (b : Buffer) : List Operation → List (Except Fault Unit)
  | [] => []
  | op :: rest => b.answer op :: (b.next op).answers rest

theorem pop_names (b : Buffer) : b.pop.names = b.names := by
  unfold pop
  cases b.stack <;> rfl

theorem pop_blocks (b : Buffer) : b.pop.blocks = b.blocks := by
  unfold pop
  cases b.stack <;> rfl

def written (b : Buffer) (pieces : List Value) : Buffer :=
  match b.active with
  | some i => b.appendTo i pieces
  | none => b

def shifted (b : Buffer) (inward : Bool) : Buffer :=
  if b.unit?.isSome then
    match b.active with
    | none => b
    | some i => match (b.levelOf i).step inward with
      | .error _ => b
      | .ok level => (b.setLevel i level).renewed
  else b

theorem next_of_ok {op : Operation} {b' : Buffer} (ran : op.act b = .ok () b') : b.next op = b' := by
  rw [next, Act.final, ran]

theorem next_startBlock (b : Buffer) (name : String) (level : Level) :
    b.next (.startBlock name level) = b.addBlock name level := rfl

theorem next_enter (b : Buffer) (name : String) : b.next (.enter name) = (b.push name).renewed :=
  final_renewIndent _

theorem next_leave (b : Buffer) : b.next .leave = b.pop.renewed := final_renewIndent _

theorem final_write (b : Buffer) (pieces : List Value) : Act.final (Buffer.write pieces) b = b.written pieces := by
  simp only [Act.final, write_eq, written]
  cases b.active <;> rfl

theorem final_writeLine (b : Buffer) (pieces : List Value) :
    Act.final (Buffer.writeLine pieces) b = b.written (b.lineStart ++ pieces ++ [.text "\n"]) := by
  simp only [Act.final, writeLine_eq, written]
  cases b.active <;> rfl

theorem final_shift (b : Buffer) (inward : Bool) : Act.final (Buffer.shift inward) b = b.shifted inward := by
  simp only [Act.final, shift_eq, shifted]
  cases b.unit?.isSome with
  | false => rfl
  | true =>
    cases b.active with
    | none => rfl
    | some i =>
      simp only [↓reduceIte]
      cases (b.levelOf i).step inward with
      | error fault => rfl
      | ok level => exact final_renewIndent (b.setLevel i level)

theorem next_write (b : Buffer) (parts : List String) : b.next (.write parts) = b.written (texts parts) :=
  final_write b (texts parts)

theorem next_writeLine (b : Buffer) (parts : List String) :
    b.next (.writeLine parts) = b.written (b.lineStart ++ texts parts ++ [.text "\n"]) :=
  final_writeLine b (texts parts)

theorem next_shift (b : Buffer) (inward : Bool) : b.next (.shift inward) = b.shifted inward := final_shift b inward

theorem next_setUnit (b : Buffer) (unit : Option String) : b.next (.setUnit unit) = b.setUnit unit := rfl

theorem run_append (b : Buffer) (ops more : List Operation) : b.run (ops ++ more) = (b.run ops).run more :=
  List.foldl_append

theorem run_concat (b : Buffer) (ops : List Operation) (op : Operation) :
    b.run (ops ++ [op]) = (b.run ops).next op := run_append b ops [op]

/-! Renewing the indent, writing and shifting touch one part of the buffer each. -/

theorem renewed_eq (b : Buffer) : ∃ indent, b.renewed = { b with indent } := by
  unfold renewed
  cases b.renewal with
  | ok indent => exact ⟨indent, rfl⟩
  | error fault => exact ⟨b.indent, rfl⟩

theorem textOf_setLevel (b : Buffer) (i : Nat) (level : Level) (j : Nat) :
    (b.setLevel i level).textOf j = b.textOf j := by
  by_cases here : i = j
  · subst here
    cases found : b.blocks[i]? <;> simp [setLevel, textOf, found, Block.text]
  · simp [setLevel, textOf, here]

theorem textOf_renewed (b : Buffer) (i : Nat) : b.renewed.textOf i = b.textOf i := by
  obtain ⟨indent, same⟩ := renewed_eq b
  rw [same]
  rfl

theorem shifted_cases (b : Buffer) (inward : Bool) :
    b.shifted inward = b ∨ ∃ i level, b.shifted inward = (b.setLevel i level).renewed := by
  unfold shifted
  split
  · split
    · exact .inl rfl
    · split
      · exact .inl rfl
      · exact .inr ⟨_, _, rfl⟩
  · exact .inl rfl

theorem textOf_shifted (b : Buffer) (inward : Bool) (i : Nat) : (b.shifted inward).textOf i = b.textOf i := by
  rcases shifted_cases b inward with same | ⟨j, level, same⟩ <;> rw [same]
  rw [textOf_renewed, textOf_setLevel]

/-- The blocks, their names and the active ones among them are the same, whatever the blocks hold. -/
structure SamePlaces (b b' : Buffer) : Prop where
  names : b'.names = b.names
  active : b'.active = b.active
  stack : b'.stack = b.stack
  length : b'.blocks.length = b.blocks.length

theorem SamePlaces.refl (b : Buffer) : SamePlaces b b := ⟨rfl, rfl, rfl, rfl⟩

theorem SamePlaces.trans {b' b'' : Buffer} (first : SamePlaces b b') (second : SamePlaces b' b'') : SamePlaces b b'' :=
  ⟨second.names.trans first.names, second.active.trans first.active, second.stack.trans first.stack,
    second.length.trans first.length⟩

theorem SamePlaces.renewed (b : Buffer) : SamePlaces b b.renewed := by
  obtain ⟨indent, same⟩ := renewed_eq b
  rw [same]
  exact ⟨rfl, rfl, rfl, rfl⟩

theorem SamePlaces.shifted (b : Buffer) (inward : Bool) : SamePlaces b (b.shifted inward) := by
  rcases shifted_cases b inward with same | ⟨i, level, same⟩ <;> rw [same]
  · exact ⟨rfl, rfl, rfl, rfl⟩
  · have renewed := SamePlaces.renewed (b.setLevel i level)
    exact ⟨renewed.names, renewed.active, renewed.stack, renewed.length.trans (List.length_modify _ _ _)⟩

theorem SamePlaces.written (b : Buffer) (pieces : List Value) : SamePlaces b (b.written pieces) := by
  unfold Buffer.written
  split
  · exact ⟨rfl, rfl, rfl, List.length_modify _ _ _⟩
  · exact ⟨rfl, rfl, rfl, rfl⟩

/-! What is true of every buffer that operations lead to. -/

structure Valid (b : Buffer) : Prop where
  names : ∀ name i, b.find? name = some i → i < b.blocks.length
  active : ∀ i, b.active = some i → i < b.blocks.length
  stack : ∀ i, some i ∈ b.stack → i < b.blocks.length
  texts : ∀ block ∈ b.blocks, ∀ piece ∈ block.pieces, piece.text?.isSome

theorem Valid.empty (unit : Option String) : Valid { unit } :=
  ⟨by simp [find?], by simp, by simp, by simp⟩

theorem Valid.addBlock (valid : b.Valid) (name : String) (level : Level) : (b.addBlock name level).Valid where
  names other i found := by
    simp only [Buffer.addBlock, find?, Ordered.lookup_put] at found
    simp only [Buffer.addBlock, List.length_append, List.length_singleton]
    split at found
    · cases found
      omega
    · have known := valid.names other i found
      omega
  active i found := by
    have known := valid.active i found
    simp only [Buffer.addBlock, List.length_append, List.length_singleton]
    omega
  stack i member := by
    have known := valid.stack i member
    simp only [Buffer.addBlock, List.length_append, List.length_singleton]
    omega
  texts block member := by
    rcases List.mem_append.mp member with member | member
    · exact valid.texts block member
    · rw [List.mem_singleton.mp member]
      simp

theorem Valid.push (valid : b.Valid) (name : String) : (b.push name).Valid where
  names := valid.names
  active i found := valid.names name i found
  stack i member := by
    rcases List.mem_cons.mp member with here | member
    · exact valid.active i here.symm
    · exact valid.stack i member
  texts := valid.texts

theorem Valid.pop (valid : b.Valid) : b.pop.Valid := by
  unfold Buffer.pop
  cases stored : b.stack with
  | nil => exact ⟨valid.names, by simp, by simp, valid.texts⟩
  | cons before rest =>
    refine ⟨valid.names, fun i found => valid.stack i ?_, fun i member => valid.stack i ?_, valid.texts⟩
    · rw [stored, ← found]
      exact List.mem_cons_self
    · rw [stored]
      exact List.mem_cons_of_mem _ member

theorem Valid.appendTo (valid : b.Valid) (i : Nat) {pieces : List Value}
    (spelled : ∀ piece ∈ pieces, piece.text?.isSome) : (b.appendTo i pieces).Valid where
  names name j found := by simpa [Buffer.appendTo] using valid.names name j found
  active j found := by simpa [Buffer.appendTo] using valid.active j found
  stack j member := by simpa [Buffer.appendTo] using valid.stack j member
  texts block member := by
    obtain ⟨j, place⟩ := List.mem_iff_getElem?.mp member
    simp only [Buffer.appendTo, List.getElem?_modify] at place
    obtain ⟨old, stored, same⟩ := Option.map_eq_some_iff.mp place
    have kept := valid.texts old (List.mem_of_getElem? stored)
    split at same
    · subst same
      intro piece inside
      rcases List.mem_append.mp inside with inside | inside
      · exact kept piece inside
      · exact spelled piece inside
    · rw [← same]
      exact kept

theorem Valid.setLevel (valid : b.Valid) (i : Nat) (level : Level) : (b.setLevel i level).Valid where
  names name j found := by simpa [Buffer.setLevel] using valid.names name j found
  active j found := by simpa [Buffer.setLevel] using valid.active j found
  stack j member := by simpa [Buffer.setLevel] using valid.stack j member
  texts block member := by
    obtain ⟨j, place⟩ := List.mem_iff_getElem?.mp member
    simp only [Buffer.setLevel, List.getElem?_modify] at place
    obtain ⟨old, stored, same⟩ := Option.map_eq_some_iff.mp place
    have kept := valid.texts old (List.mem_of_getElem? stored)
    split at same
    · subst same
      exact kept
    · rw [← same]
      exact kept

theorem Valid.renewed (valid : b.Valid) : b.renewed.Valid := by
  obtain ⟨indent, same⟩ := renewed_eq b
  rw [same]
  exact ⟨valid.names, valid.active, valid.stack, valid.texts⟩

theorem texts_spelled (parts : List String) : ∀ piece ∈ texts parts, piece.text?.isSome := by
  intro piece member
  obtain ⟨part, -, rfl⟩ := List.mem_map.mp member
  rfl

theorem lineStart_spelled (b : Buffer) : ∀ piece ∈ b.lineStart, piece.text?.isSome := by
  intro piece member
  unfold lineStart at member
  split at member
  · rw [List.mem_singleton.mp member]
    rfl
  · cases member

theorem line_spelled (b : Buffer) (parts : List String) :
    ∀ piece ∈ b.lineStart ++ texts parts ++ [.text "\n"], piece.text?.isSome := by
  intro piece member
  rcases List.mem_append.mp member with member | member
  · rcases List.mem_append.mp member with member | member
    · exact lineStart_spelled b piece member
    · exact texts_spelled parts piece member
  · rw [List.mem_singleton.mp member]
    rfl

theorem texts_join (parts : List String) : (texts parts).filterMap Value.text? = parts := by
  induction parts with
  | nil => rfl
  | cons part rest ih => simpa [texts, Value.text?] using ih

theorem line_join (b : Buffer) (parts : List String) :
    String.join ((b.lineStart ++ texts parts ++ [Value.text "\n"]).filterMap Value.text?) =
      (if b.unit?.isSome then b.indent else "") ++ String.join parts ++ "\n" := by
  have start : String.join (b.lineStart.filterMap Value.text?) = if b.unit?.isSome then b.indent else "" := by
    unfold lineStart
    cases b.unit?.isSome with
    | false => rfl
    | true =>
      by_cases empty : b.indent = ""
      · simp [empty]
      · simp [empty, Value.text?]
  rw [List.filterMap_append, List.filterMap_append, String.join_append, String.join_append, start, texts_join]
  rfl

theorem Valid.written (valid : b.Valid) {pieces : List Value} (spelled : ∀ piece ∈ pieces, piece.text?.isSome) :
    (b.written pieces).Valid := by
  unfold Buffer.written
  cases b.active with
  | none => exact valid
  | some i => exact valid.appendTo i spelled

theorem Valid.next (valid : b.Valid) (op : Operation) : (b.next op).Valid := by
  cases op with
  | startBlock name level => exact valid.addBlock name level
  | enter name => rw [next_enter]; exact (valid.push name).renewed
  | leave => rw [next_leave]; exact valid.pop.renewed
  | write parts => rw [next_write]; exact valid.written (texts_spelled parts)
  | writeLine parts => rw [next_writeLine]; exact valid.written (line_spelled b parts)
  | shift inward =>
    rw [next_shift]
    rcases shifted_cases b inward with same | ⟨i, level, same⟩ <;> rw [same]
    · exact valid
    · exact (valid.setLevel i level).renewed
  | setUnit unit => exact ⟨valid.names, valid.active, valid.stack, valid.texts⟩

theorem Valid.run (valid : b.Valid) (ops : List Operation) : (b.run ops).Valid := by
  induction ops generalizing b with
  | nil => exact valid
  | cons op rest ih => exact ih (valid.next op)

theorem Valid.content_eq (valid : b.Valid) (name : String) :
    b.content name = match b.find? name with
      | some i => .ok (b.textOf i)
      | none => .error (.unknownBlock name) := by
  unfold content
  cases found : b.find? name with
  | none => rfl
  | some i =>
    have known := valid.names name i found
    have stored := List.getElem?_eq_getElem known
    simp only [contentOf, textOf, stored, Option.map_some, Option.getD_some]
    exact Block.content_of_texts (valid.texts _ (List.getElem_mem known))

end TemplateCompiler.Buffer
