import TemplateCompiler.Compiler.ClassText
import TemplateCompiler.Proofs.Text.Blank

namespace TemplateCompiler

namespace Statement

def isSpelled (s : Statement) : Bool := s.name.text?.isSome && s.param.text?.isSome

/-- The statement and those directly in it are spelled, and none of these is missing. -/
def isLegible (s : Statement) : Bool := s.isSpelled && s.content.all (·.any isSpelled)

def nameText (s : Statement) : String := s.name.text?.getD ""

def paramText (s : Statement) : String := s.param.text?.getD ""

def children (s : Statement) : List Statement := s.content.filterMap id

def title (s : Statement) : String := Text.trim s.paramText

variable {s : Statement}

theorem places_of_all {p : Statement → Bool} {places : List (Option Statement)} (all : places.all (·.any p)) :
    places = (places.filterMap id).map some ∧ ∀ c ∈ places.filterMap id, p c := by
  induction places with
  | nil => exact ⟨rfl, by simp⟩
  | cons place rest ih =>
    simp only [List.all_cons, Bool.and_eq_true] at all
    obtain ⟨same, others⟩ := ih all.2
    cases place with
    | none => cases all.1
    | some c =>
      refine ⟨congrArg (some c :: ·) same, ?_⟩
      intro d member
      rcases List.mem_cons.mp member with rfl | member
      · exact all.1
      · exact others d member

end Statement

namespace Grammar

open Compiler (Directive)

def directive : String → Directive
  | "#TEXT#" | "#CDATA#" => .text
  | "#EXPRESSION#" => .expression
  | "macro" => .macroDefinition
  | "dependency" => .dependency
  | _ => .unknown

theorem directive?_text (name : String) : Compiler.directive? (.text name) = .ok (directive name) := by
  fun_cases directive name
  case case6 text cdata expression macroName dependency =>
    have noText : ¬ (decide (name = Statement.textName) || decide (name = Statement.cdataName)) = true := by
      rw [Bool.or_eq_true, decide_eq_true_eq, decide_eq_true_eq]
      exact not_or.mpr ⟨text, cdata⟩
    rw [Compiler.directive?, if_neg noText, Statement.expressionName, if_neg expression, Statement.macroName,
      if_neg macroName, Statement.dependencyName, if_neg dependency]
  all_goals rfl

end Grammar

theorem Value.eq_text {v : Value} (given : v.text?.isSome) : v = .text (v.text?.getD "") := by
  cases v <;> simp [Value.text?] at given ⊢

namespace Statement

/-- The name tells what the statement is, and the parameter is a text where it is looked at. -/
def isTextual (s : Statement) : Bool :=
  (Compiler.directive? s.name).toBool && (Grammar.directive s.nameText = .unknown || s.param.text?.isSome)

/-- So it is for the statement and, in a macro, for those directly in it, of which none is missing. -/
def isAdmissible (s : Statement) : Bool :=
  s.isTextual && (Grammar.directive s.nameText ≠ .macroDefinition || s.content.all (·.any isTextual))

variable {s : Statement}

theorem name_of_directive (known : Grammar.directive s.nameText ≠ .unknown) : s.name = .text s.nameText := by
  cases named : s.name with
  | text name => rw [nameText, named]; rfl
  | _ =>
    refine absurd ?_ known
    rw [nameText, named]
    rfl

theorem directive_of_ok {kind : Compiler.Directive} (found : Compiler.directive? s.name = .ok kind) :
    Grammar.directive s.nameText = kind := by
  rw [nameText]
  cases named : s.name with
  | text name =>
    rw [named, Grammar.directive?_text] at found
    exact Except.ok.inj found
  | list items | record fields =>
    rw [named] at found
    cases found
  | null | bool _ | int _ | real _ =>
    rw [named] at found
    cases found
    rfl

theorem directive?_of_isTextual (textual : s.isTextual) :
    Compiler.directive? s.name = .ok (Grammar.directive s.nameText) := by
  simp only [isTextual, Bool.and_eq_true] at textual
  have hashable := textual.1
  cases found : Compiler.directive? s.name with
  | ok kind => rw [directive_of_ok found]
  | error fault =>
    rw [found] at hashable
    cases hashable

theorem param_of_isTextual (textual : s.isTextual) (known : Grammar.directive s.nameText ≠ .unknown) :
    s.param = .text s.paramText := by
  simp only [isTextual, Bool.and_eq_true, Bool.or_eq_true, decide_eq_true_eq] at textual
  exact Value.eq_text (textual.2.resolve_left known)

theorem isTextual_of_isSpelled (spelled : s.isSpelled) : s.isTextual := by
  simp only [isSpelled, Bool.and_eq_true] at spelled
  have named := Value.eq_text spelled.1
  simp only [isTextual, Bool.and_eq_true, Bool.or_eq_true]
  refine ⟨?_, .inr spelled.2⟩
  rw [named, Grammar.directive?_text]
  rfl

theorem isAdmissible_of_isLegible (legible : s.isLegible) : s.isAdmissible := by
  simp only [isLegible, Bool.and_eq_true, List.all_eq_true] at legible
  simp only [isAdmissible, Bool.and_eq_true, Bool.or_eq_true, List.all_eq_true]
  refine ⟨isTextual_of_isSpelled legible.1, .inr fun place member => ?_⟩
  have spelled := legible.2 place member
  cases place with
  | none => cases spelled
  | some c => exact isTextual_of_isSpelled spelled

theorem isTextual_of_isAdmissible (admissible : s.isAdmissible) : s.isTextual := by
  simp only [isAdmissible, Bool.and_eq_true] at admissible
  exact admissible.1

theorem children_of_isAdmissible (admissible : s.isAdmissible)
    (kind : Grammar.directive s.nameText = .macroDefinition) :
    s.content = s.children.map some ∧ ∀ c ∈ s.children, c.isTextual := by
  simp only [isAdmissible, Bool.and_eq_true, Bool.or_eq_true, decide_eq_true_eq] at admissible
  exact places_of_all (admissible.2.resolve_left (not_not_intro kind))

end Statement

namespace Grammar

def complaint (s : Statement) (id : String) : Report := ⟨some s, id, .list [s.name], .null⟩

/-- A parameter of commas and blanks names no dependency. -/
def namesNothing (param : String) : Bool := param.toList.all fun c => c = ',' || Text.isBlank c

theorem referencesOf_eq_nil {param : String} : Compiler.referencesOf param = [] ↔ namesNothing param := by
  have blank (piece : List Char) : ¬ (Text.trim (String.ofList piece) ≠ "") ↔ ∀ c ∈ piece, Text.isBlank c := by
    rw [not_not, Text.trim_eq_empty, Text.Blank, String.toList_ofList]
  rw [Compiler.referencesOf, List.filter_eq_nil_iff, List.forall_mem_map]
  simp only [decide_eq_true_eq, blank, Text.forall_mem_pieces, namesNothing, List.all_eq_true, Bool.or_eq_true]

def dependencyReports (s : Statement) : List Report :=
  if namesNothing s.paramText then [complaint s "MISSING_PARAMETER"] else []

def childReports (s : Statement) : List Report :=
  match directive s.nameText with
  | .text => []
  | .expression => if s.title = "" then [complaint s "MISSING_PARAMETER"] else []
  | .macroDefinition => [complaint s "STATEMENT_NOT_ALLOWED"]
  | .dependency => dependencyReports s
  | .unknown => [complaint s "UNKNOWN_STATEMENT"]

abbrev Accepted := List (String × Value)

/-- Whether a statement is a macro that is accepted after others. -/
def accepts (accepted : Accepted) (s : Statement) : Bool :=
  directive s.nameText = .macroDefinition && s.title ≠ "" && (accepted.lookup s.title).isNone

def topReports (accepted : Accepted) (s : Statement) : List Report :=
  match directive s.nameText with
  | .text | .expression => [complaint s "STATEMENT_NOT_ALLOWED"]
  | .macroDefinition =>
    if s.title = "" then [complaint s "MISSING_PARAMETER"]
    else match accepted.lookup s.title with
      | some line => [⟨some s, "MACRO_ALREADY_DEFINED", .list [.text s.title, line], .null⟩]
      | none => s.children.flatMap childReports
  | .dependency => dependencyReports s
  | .unknown => [complaint s "UNKNOWN_STATEMENT"]

def Accepted.and (accepted : Accepted) (s : Statement) : Accepted :=
  if accepts accepted s then accepted ++ [(s.title, s.line)] else accepted

/-- The reports for the statements that follow accepted macros, in order. -/
def reportsAfter (accepted : Accepted) : List Statement → List Report
  | [] => []
  | s :: rest => topReports accepted s ++ reportsAfter (accepted.and s) rest

def acceptedFrom (statements : List Statement) : Accepted := statements.foldl Accepted.and []

def endReports (accepted : Accepted) : List Report :=
  if (accepted.lookup "main").isNone then [⟨none, "MISSING_MAIN_MACRO", .list [.text "main"], .null⟩] else []

/-- The reports that are due for a template, told from its statements alone. -/
def walk (statements : List Statement) : List Report :=
  reportsAfter [] statements ++ endReports (acceptedFrom statements)

end Grammar

end TemplateCompiler
