import TemplateCompiler.Proofs.Compiler.Layout

namespace TemplateCompiler.Layout

open Grammar (directive)

/-- What a statement in a macro writes: a text that is not empty, or an expression with its line. -/
inductive Item where
  | text (s : String)
  | expression (line : Int) (code : String)
  deriving DecidableEq, Repr

def item? (s : Statement) : Option Item :=
  match directive s.nameText with
  | .text => if s.paramText = "" then none else some (.text s.paramText)
  | .expression => if s.title = "" then none else some (.expression (lineNumber s) s.paramText)
  | _ => none

/-- The titles of the macros at the top level, each with what its statements write. -/
def sections (statements : List Statement) : List (String × List Item) :=
  (statements.filter fun s => directive s.nameText = .macroDefinition).map fun s =>
    (s.title, s.children.filterMap item?)

namespace Item

def takesName : Item → Bool
  | .text _ => false
  | .expression _ _ => true

def statement (line : Int) (code : String) : Statement := ⟨.text "#EXPRESSION#", .int line, .text code, [], []⟩

def lines (framework : String) (names : Names) : Item → List Line
  | .text s => [⟨4, "this.__$write(" ++ Text.literal s ++ ");"⟩]
  | .expression line code => expressionLines framework (variableName names) (statement line code)

end Item

def itemLines (framework : String) (names : Names) : List Item → List Line
  | [] => []
  | item :: rest =>
    item.lines framework names ++ itemLines framework (names.skip (if item.takesName then 1 else 0)) rest

def sectionLines (framework : String) (names : Names) : List (String × List Item) → List Line
  | [] => []
  | (title, items) :: rest =>
    macroLines framework title (itemLines framework names items) ++
      sectionLines framework (names.skip (items.countP Item.takesName)) rest

variable {s : Statement}

theorem nameText_of_expression (kind : directive s.nameText = .expression) : s.nameText = "#EXPRESSION#" := by
  unfold Grammar.directive at kind
  split at kind <;> first | assumption | cases kind

theorem expressionLines_eq (numbered : ∃ n, s.line = .int n)
    (kind : directive s.nameText = .expression) (framework name : String) :
    expressionLines framework name s = expressionLines framework name (Item.statement (lineNumber s) s.paramText) := by
  obtain ⟨n, line⟩ := numbered
  have number : lineNumber s = n := by rw [lineNumber, line]; rfl
  have named : s.name = .text "#EXPRESSION#" := by
    rw [Statement.name_of_directive (by simp [kind]), nameText_of_expression kind]
  have same : lineNumber (Item.statement n s.paramText) = n := rfl
  have param : (Item.statement n s.paramText).paramText = s.paramText := rfl
  rw [number, expressionLines, expressionLines, number, same, param, guardedLines, guardedLines, line, named]
  rfl

variable (framework : String) (names : Names)

theorem childLines_eq (numbered : ∃ n, s.line = .int n) :
    childLines framework names s = itemLines framework names (item? s).toList ∧
      (if takesName s then 1 else 0) = (item? s).toList.countP Item.takesName := by
  unfold childLines item? takesName
  cases kind : directive s.nameText with
  | text =>
    by_cases empty : s.paramText = ""
    · simp [empty, itemLines]
    · simp [empty, itemLines, Item.lines, Item.takesName]
  | expression =>
    by_cases blank : s.title = ""
    · simp [blank, itemLines]
    · simp [blank, itemLines, Item.lines, Item.takesName, expressionLines_eq numbered kind framework]
  | macroDefinition => simp [itemLines]
  | dependency => simp [itemLines]
  | unknown => simp [itemLines]

theorem itemLines_append (items more : List Item) :
    itemLines framework names (items ++ more) =
      itemLines framework names items ++ itemLines framework (names.skip (items.countP Item.takesName)) more := by
  induction items generalizing names with
  | nil => rfl
  | cons item rest ih =>
    rw [List.cons_append, itemLines, itemLines, ih, Names.skip_skip, List.countP_cons, List.append_assoc,
      Nat.add_comm (rest.countP Item.takesName)]

theorem filterMap_cons_toList {α β : Type} (f : α → Option β) (a : α) (rest : List α) :
    (a :: rest).filterMap f = (f a).toList ++ rest.filterMap f := by
  cases found : f a <;> simp [found]

theorem bodyLines_eq {body : List Statement} (numbered : ∀ c ∈ body, ∃ n, c.line = .int n) :
    bodyLines framework names body = itemLines framework names (body.filterMap item?) ∧
      body.countP takesName = (body.filterMap item?).countP Item.takesName := by
  induction body generalizing names with
  | nil => exact ⟨rfl, rfl⟩
  | cons c rest ih =>
    have here : c ∈ c :: rest := List.mem_cons_self
    obtain ⟨lines, count⟩ := childLines_eq framework names (numbered c here)
    have later (n : Nat) := ih (names.skip n) fun d member => numbered d (List.mem_cons_of_mem c member)
    rw [filterMap_cons_toList]
    refine ⟨?_, ?_⟩
    · rw [bodyLines, lines, count, (later _).1, itemLines_append]
    · rw [List.countP_cons, (later 0).2, count, List.countP_append, Nat.add_comm]

theorem prototypeLines_eq {statements : List Statement}
    (numbered : ∀ c ∈ statements, ∀ d ∈ c.children, ∃ n, d.line = .int n) :
    prototypeLines framework names statements = sectionLines framework names (sections statements) := by
  induction statements generalizing names with
  | nil => rfl
  | cons c rest ih =>
    have later (n : Nat) := ih (names.skip n) fun d member => numbered d (List.mem_cons_of_mem c member)
    rw [prototypeLines, sections]
    by_cases kind : directive c.nameText = .macroDefinition
    · obtain ⟨lines, count⟩ := bodyLines_eq framework names (numbered c List.mem_cons_self)
      rw [if_pos kind, List.filter_cons_of_pos (by simpa using kind), List.map_cons, sectionLines, lines, count, later]
      rfl
    · rw [if_neg kind, List.filter_cons_of_neg (by simpa using kind)]
      exact later 0

end TemplateCompiler.Layout
