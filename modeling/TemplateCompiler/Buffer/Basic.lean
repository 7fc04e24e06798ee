import TemplateCompiler.Act
import TemplateCompiler.Buffer.Level
import TemplateCompiler.Ordered

namespace TemplateCompiler

structure Block where
  level : Level
  pieces : List Value := []
  deriving Repr, Inhabited

def pieceFault? (pieces : List Value) : Option Fault :=
  let i := pieces.findIdx (·.text?.isNone)
  pieces[i]?.map fun piece => .pieceNotText i piece.kind

namespace Block

def text (block : Block) : String := String.join (block.pieces.filterMap Value.text?)

def content (block : Block) : Except Fault String :=
  match pieceFault? block.pieces with
  | some fault => .error fault
  | none => .ok block.text

theorem content_of_texts {block : Block} (texts : ∀ piece ∈ block.pieces, piece.text?.isSome) :
    block.content = .ok block.text := by
  have none_other : block.pieces.findIdx (·.text?.isNone) = block.pieces.length := by
    rw [List.findIdx_eq_length]
    intro piece member
    simpa using texts piece member
  simp [content, pieceFault?, none_other]

end Block

/-- Every block ever made is in `blocks`, and `names` has the number of the latest of each name, in the order in which
    the names were first given. The `stack` holds what was active before each enter, innermost first. -/
structure Buffer where
  unit : Option String
  blocks : List Block := []
  names : List (String × Nat) := []
  active : Option Nat := none
  stack : List (Option Nat) := []
  indent : String := ""
  deriving Repr

namespace Buffer

abbrev Act := EStateM Fault Buffer

def unit? (b : Buffer) : Option String := b.unit.filter (· != "")

def depth (b : Buffer) : Nat := b.stack.length

def isReady (b : Buffer) : Bool := b.active.isSome

def find? (b : Buffer) (name : String) : Option Nat := b.names.lookup name

def has (b : Buffer) (name : String) : Bool := (b.find? name).isSome

def textOf (b : Buffer) (i : Nat) : String := (b.blocks[i]?.map Block.text).getD ""

def levelOf (b : Buffer) (i : Nat) : Level := (b.blocks[i]?.map Block.level).getD (.count 0)

def contentOf (b : Buffer) (i : Nat) : Except Fault String := (b.blocks[i]?.map Block.content).getD (.ok "")

def contents (b : Buffer) : Except Fault (List (String × String)) :=
  b.names.mapM fun n => do return (n.1, ← b.contentOf n.2)

def content (b : Buffer) (name : String) : Except Fault String :=
  match b.find? name with
  | some i => b.contentOf i
  | none => .error (.unknownBlock name)

def addBlock (b : Buffer) (name : String) (level : Level) : Buffer :=
  { b with blocks := b.blocks ++ [{ level }], names := Ordered.put b.names name b.blocks.length }

def setUnit (b : Buffer) (unit : Option String) : Buffer := { b with unit }

def appendTo (b : Buffer) (i : Nat) (pieces : List Value) : Buffer :=
  { b with blocks := b.blocks.modify i fun block => { block with pieces := block.pieces ++ pieces } }

def setLevel (b : Buffer) (i : Nat) (level : Level) : Buffer :=
  { b with blocks := b.blocks.modify i fun block => { block with level } }

theorem textOf_appendTo {b : Buffer} {i : Nat} (known : i < b.blocks.length) (pieces : List Value) (j : Nat) :
    (b.appendTo i pieces).textOf j =
      if i = j then b.textOf j ++ String.join (pieces.filterMap Value.text?) else b.textOf j := by
  by_cases here : i = j
  · subst here
    simp [appendTo, textOf, Block.text, List.getElem?_eq_getElem known]
  · simp [appendTo, textOf, here]

theorem levelOf_appendTo (b : Buffer) (i : Nat) (pieces : List Value) (j : Nat) :
    (b.appendTo i pieces).levelOf j = b.levelOf j := by
  by_cases here : i = j
  · subst here
    cases found : b.blocks[i]? <;> simp [appendTo, levelOf, found]
  · simp [appendTo, levelOf, here]

def push (b : Buffer) (name : String) : Buffer := { b with stack := b.active :: b.stack, active := b.find? name }

def pop (b : Buffer) : Buffer :=
  match b.stack with
  | [] => { b with active := none }
  | before :: rest => { b with active := before, stack := rest }

def renewIndent : Act Unit := do
  let b ← get
  match b.unit?, b.active with
  | some unit, some i =>
    let indent ← Act.ofExcept ((b.levelOf i).indent unit)
    set { b with indent }
  | _, _ => pure ()

def activeBlock : Act Nat := do
  match (← get).active with
  | some i => pure i
  | none => throw .noActiveBlock

def startBlock (name : String) (level : Level) : Act Unit := modify (·.addBlock name level)

def enter (name : String) : Act Unit := do
  modify (·.push name)
  renewIndent

def leave : Act Unit := do
  modify pop
  renewIndent

def write (pieces : List Value) : Act Unit := do
  let i ← activeBlock
  modify (·.appendTo i pieces)

def lineStart (b : Buffer) : List Value := if b.unit?.isSome && b.indent ≠ "" then [.text b.indent] else []

def writeLine (pieces : List Value) : Act Unit := do
  let i ← activeBlock
  modify fun b => b.appendTo i (b.lineStart ++ pieces ++ [.text "\n"])

def shift (inward : Bool) : Act Unit := do
  if (← get).unit?.isSome then
    let i ← activeBlock
    let level ← Act.ofExcept (((← get).levelOf i).step inward)
    modify (·.setLevel i level)
    renewIndent

def increase : Act Unit := shift true

def decrease : Act Unit := shift false

def within {α : Type} (name : String) (body : Act α) : Act α := Act.between (enter name) body leave

def indented {α : Type} (body : Act α) : Act α := Act.between increase body decrease

end Buffer

end TemplateCompiler
