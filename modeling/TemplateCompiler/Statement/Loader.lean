import TemplateCompiler.Statement.Basic
import TemplateCompiler.Value.Integer

namespace TemplateCompiler

def field? (fields : List (String × Value)) (name : String) : Option Value := fields.lookup name

def Value.parts? : Value → Option (List Value)
  | .list items => some items
  | .record fields => some (fields.map fun f => .text f.1)
  | .text s => some (s.toList.map fun c => .text (String.ofList [c]))
  | _ => none

def Value.elements (v : Value) : Except Fault (List Value) :=
  match v.parts? with
  | some items => .ok items
  | none => .error (.notIterable v.kind)

def addPair (properties : List (Key × Value)) (index : Nat) (element : Value) : Except Fault (List (Key × Value)) :=
  match element.parts? with
  | none => .error (.elementWithoutParts index)
  | some [k, v] =>
    match Key.ofValue? k with
    | some key => .ok (putProperty properties key v)
    | none => .error (.unhashable k.kind)
  | some parts => .error (.elementNotPair index parts.length)

def pairsToProperties (properties : List (Key × Value)) (index : Nat) :
    List Value → Except Fault (List (Key × Value))
  | [] => .ok properties
  | element :: rest => do pairsToProperties (← addPair properties index element) (index + 1) rest

def Value.toProperties : Value → Except Fault (List (Key × Value))
  | .record fields => .ok (fields.map fun f => (.text f.1, f.2))
  | v => do pairsToProperties [] 0 (← v.elements)

def Value.fieldFault (v : Value) : Fault :=
  match v with
  | .list _ => .listIndexedByText
  | .text _ => .textIndexedByText
  | v => .notIndexable v.kind

namespace Statement

mutual

def ofValue : Value → Except Fault Statement
  | .record fields => do
    let some name := field? fields "name" | throw (.missingField "name")
    let line ← ((field? fields "line_number").getD (.int 0)).toInt
    let content ← contentOf fields
    let properties ← ((field? fields "properties").getD (.record [])).toProperties
    return {
      name
      line := .int line
      param := (field? fields "param_block").getD (.text "")
      content := content.map some
      properties }
  | v => .error v.fieldFault

def contentOf : List (String × Value) → Except Fault (List Statement)
  | [] => .ok []
  | (name, v) :: rest => if name = "content" then allOf v else contentOf rest

/-- The statements in a list. A record or text in its place has texts for elements, none of which is a statement. -/
def allOf : Value → Except Fault (List Statement)
  | .list items => ofItems items
  | .record fields => if fields.isEmpty then .ok [] else .error .textIndexedByText
  | .text s => if s.isEmpty then .ok [] else .error .textIndexedByText
  | v => .error (.notIterable v.kind)

def ofItems : List Value → Except Fault (List Statement)
  | [] => .ok []
  | v :: rest => do
    let statement ← ofValue v
    let others ← ofItems rest
    return statement :: others

end

end Statement

end TemplateCompiler
