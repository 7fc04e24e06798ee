import TemplateCompiler.Proofs.Compiler.Sections
import TemplateCompiler.Proofs.Compiler.Success
import TemplateCompiler.Proofs.Number.Notation
import TemplateCompiler.Proofs.Text.Outline

namespace TemplateCompiler

open Layout Text

namespace Text

theorem literal_append_injective {s t rest rest' : String} (same : literal s ++ rest = literal t ++ rest') :
    s = t ∧ rest = rest' := by
  have spelled (s rest : String) :
      (literal s ++ rest).toList = '"' :: (literalBody s.toList ++ '"' :: rest.toList) := by
    simp [literal]
  have chars := congrArg String.toList same
  rw [spelled, spelled] at chars
  obtain ⟨body, more⟩ := literalBody_injective (List.cons.inj chars).2
  exact ⟨String.toList_injective body, String.toList_injective more⟩

theorem literal_injective {s t : String} (same : literal s = literal t) : s = t := by
  have closed : literal s ++ "" = literal t ++ "" := by rw [same]
  exact (literal_append_injective closed).1

theorem escaped_injective {s t : String} (same : escaped s = escaped t) : s = t := by
  have body : literalBody s.toList = literalBody t.toList := String.ofList_inj.mp same
  have closed : literalBody s.toList ++ ['"'] = literalBody t.toList ++ ['"'] := by rw [body]
  exact String.toList_injective (literalBody_injective closed).1

theorem newline_escaped (s : String) : '\n' ∉ (escaped s).toList := by
  rw [escaped, String.toList_ofList]
  exact fun member => absurd (plain_literalBody s.toList '\n' member) (by decide)

theorem newline_literal (s : String) : '\n' ∉ (literal s).toList := by
  have inside := newline_escaped s
  rw [escaped, String.toList_ofList] at inside
  simpa [literal] using inside

end Text

namespace Line

def shown (unit : Option String) (line : Line) : String := margin unit line.level ++ line.text

def IsFlush (line : Line) : Prop := '\n' ∉ line.text.toList ∧ line.text.toList.head? ≠ some ' '

theorem toList_shown (line : Line) :
    (line.shown (some " ")).toList = List.replicate line.level ' ' ++ line.text.toList := by
  have blanks : (margin (some " ") line.level).toList = List.replicate line.level ' ' := by
    rw [margin, String.toList_join, List.flatMap_replicate]
    simp
  rw [shown, String.toList_append, blanks]

theorem newline_shown {line : Line} (single : '\n' ∉ line.text.toList) : '\n' ∉ (line.shown (some " ")).toList := by
  rw [toList_shown, List.mem_append, List.mem_replicate]
  rintro (⟨-, blank⟩ | inside)
  · cases blank
  · exact single inside

theorem blanks_injective {n m : Nat} {cs cs' : List Char} (start : cs.head? ≠ some ' ') (start' : cs'.head? ≠ some ' ')
    (same : List.replicate n ' ' ++ cs = List.replicate m ' ' ++ cs') : n = m ∧ cs = cs' := by
  induction n generalizing m with
  | zero =>
    cases m with
    | zero => exact ⟨rfl, same⟩
    | succ m =>
      have blank : cs = ' ' :: (List.replicate m ' ' ++ cs') := same
      exact absurd (by rw [blank]; rfl) start
  | succ n ih =>
    cases m with
    | zero =>
      have blank : ' ' :: (List.replicate n ' ' ++ cs) = cs' := same
      exact absurd (by rw [← blank]; rfl) start'
    | succ m =>
      obtain ⟨level, rest⟩ := ih (List.cons.inj same).2
      exact ⟨congrArg Nat.succ level, rest⟩

theorem shown_injective {line line' : Line} (flush : line.IsFlush) (flush' : line'.IsFlush)
    (same : line.shown (some " ") = line'.shown (some " ")) : line = line' := by
  have chars := congrArg String.toList same
  rw [toList_shown, toList_shown] at chars
  obtain ⟨level, text⟩ := blanks_injective flush.2 flush'.2 chars
  obtain ⟨n, s⟩ := line
  obtain ⟨m, t⟩ := line'
  rw [show n = m from level, show s = t from String.toList_injective text]

end Line

theorem render_eq (unit : Option String) (line : Line) : line.render unit = line.shown unit ++ "\n" := rfl

theorem rendered_cut (line : Line) (rest : List Line) :
    (rendered (some " ") (line :: rest)).toList =
      (line.shown (some " ")).toList ++ '\n' :: (rendered (some " ") rest).toList := by
  rw [rendered_cons, render_eq]
  simp

theorem shown_of_rendered {lines lines' : List Line} (single : ∀ line ∈ lines, '\n' ∉ line.text.toList)
    (single' : ∀ line ∈ lines', '\n' ∉ line.text.toList)
    (same : (rendered (some " ") lines).toList = (rendered (some " ") lines').toList) :
    lines.map (Line.shown (some " ")) = lines'.map (Line.shown (some " ")) := by
  induction lines generalizing lines' with
  | nil =>
    cases lines' with
    | nil => rfl
    | cons line' rest' =>
      rw [rendered_cut, rendered_nil] at same
      simp at same
  | cons line rest ih =>
    cases lines' with
    | nil =>
      rw [rendered_cut, rendered_nil] at same
      simp at same
    | cons line' rest' =>
      rw [rendered_cut, rendered_cut] at same
      obtain ⟨here, later⟩ := List.forall_mem_cons.mp single
      obtain ⟨here', later'⟩ := List.forall_mem_cons.mp single'
      obtain ⟨first, more⟩ := cut_unique (Line.newline_shown here) (Line.newline_shown here') same
      rw [List.map_cons, List.map_cons, String.toList_injective first, ih later later' more]

theorem lines_of_shown {lines lines' : List Line} (flush : ∀ line ∈ lines, line.IsFlush)
    (flush' : ∀ line ∈ lines', line.IsFlush)
    (same : lines.map (Line.shown (some " ")) = lines'.map (Line.shown (some " "))) : lines = lines' := by
  induction lines generalizing lines' with
  | nil => exact (List.map_eq_nil_iff.mp same.symm).symm
  | cons line rest ih =>
    obtain ⟨line', rest', rfl, first, more⟩ := List.map_eq_cons_iff.mp same.symm
    obtain ⟨here, later⟩ := List.forall_mem_cons.mp flush
    obtain ⟨here', later'⟩ := List.forall_mem_cons.mp flush'
    rw [Line.shown_injective here here' first.symm, ih later later' more.symm]

namespace Layout

variable {framework : String} {names : Names}

theorem newline_integerText (n : Int) : '\n' ∉ (integerText n).toList := by
  intro member
  rcases mem_integerText member with sign | digit
  · cases sign
  · cases digit

theorem newline_name (stem : '\n' ∉ names.stem.toList) (k : Nat) : '\n' ∉ (names.name k).toList := by
  have number := newline_integerText k
  have digit := newline_integerText (names.digits (k - 1))
  have same : integerText k = naturalText k := rfl
  rw [same] at number
  simp [Names.name, stem, number, digit]

theorem expressionLines_spelled (framework name : String) (n : Int) (code : String) :
    expressionLines framework name (Item.statement n code) =
      [⟨4, "this['" ++ framework ++ "currentLineNumber'] = " ++ integerText n ++ ";"⟩,
        ⟨4, "var " ++ name ++ " = null;"⟩,
        ⟨4, "try \x7b"⟩,
        ⟨5, "eval( \"" ++ name ++ "=(" ++ escaped code ++ ")\" );"⟩,
        ⟨4, "\x7d catch (e) \x7b"⟩,
        ⟨5, "this.$logError(this.EXCEPTION_IN_EXPRESSION,[\"" ++ escaped code ++ "\"," ++ integerText n ++ "," ++
          literal "#EXPRESSION#" ++ "], e);"⟩,
        ⟨4, "\x7d"⟩,
        ⟨4, "this.__$write(" ++ name ++ ");"⟩] := rfl

theorem flush_lines (single : '\n' ∉ framework.toList) (stem : '\n' ∉ names.stem.toList) (item : Item) :
    ∀ line ∈ item.lines framework names, line.IsFlush ∧ 4 ≤ line.level := by
  cases item with
  | text s =>
    have written := newline_literal s
    simp [Item.lines, Line.IsFlush, written]
  | expression n code =>
    have number := newline_integerText n
    have name : '\n' ∉ (variableName names).toList := newline_name stem (names.count + 1)
    have body := newline_escaped code
    have kind := newline_literal "#EXPRESSION#"
    rw [Item.lines, expressionLines_spelled]
    simp [Line.IsFlush, single, number, name, body, kind]

theorem flush_itemLines (single : '\n' ∉ framework.toList) (stem : '\n' ∉ names.stem.toList) (items : List Item) :
    ∀ line ∈ itemLines framework names items, line.IsFlush ∧ 4 ≤ line.level := by
  induction items generalizing names with
  | nil => simp [itemLines]
  | cons item rest ih =>
    have later := @ih (names.skip (if item.takesName then 1 else 0)) stem
    rw [itemLines, List.forall_mem_append]
    exact ⟨flush_lines single stem item, later⟩

theorem flush_sectionLines (single : '\n' ∉ framework.toList) (stem : '\n' ∉ names.stem.toList)
    {sections : List (String × List Item)} (titles : ∀ entry ∈ sections, '\n' ∉ entry.1.toList) :
    ∀ line ∈ sectionLines framework names sections, line.IsFlush := by
  induction sections generalizing names with
  | nil => simp [sectionLines]
  | cons entry rest ih =>
    obtain ⟨title, items⟩ := entry
    obtain ⟨here, titles⟩ := List.forall_mem_cons.mp titles
    have body line member := (@flush_itemLines framework names single stem items line member).1
    have later := @ih (names.skip (items.countP Item.takesName)) stem titles
    have named := newline_literal title
    simp only [sectionLines, macroLines, guardLines, handlerLine, List.forall_mem_append]
    refine ⟨⟨⟨?_, ⟨?_, body⟩, ?_⟩, ?_⟩, later⟩
    · simp [Line.IsFlush, here]
    · simp [Line.IsFlush]
    · simp [Line.IsFlush, single, named]
    · simp [Line.IsFlush]

theorem item_kinds (s framework : String) (n : Int) :
    "this.__$write(" ++ literal s ++ ");" ≠
      "this['" ++ framework ++ "currentLineNumber'] = " ++ integerText n ++ ";" := by
  intro same
  have fifth := congrArg (fun line : String => line.toList[4]?) same
  simp at fifth

theorem expressionLines_injective {name : String} {n n' : Int} {code code' : String} {more more' : List Line}
    (same : expressionLines framework name (Item.statement n code) ++ more =
      expressionLines framework name (Item.statement n' code') ++ more') :
    n = n' ∧ code = code' ∧ more = more' := by
  rw [expressionLines_spelled, expressionLines_spelled] at same
  simp only [List.cons_append, List.nil_append, List.cons.injEq, Line.mk.injEq, true_and] at same
  obtain ⟨track, evaluation, -, later⟩ := same
  have number := (String.append_right_inj _).mp ((String.append_left_inj _).mp track)
  have body := (String.append_right_inj _).mp ((String.append_left_inj _).mp evaluation)
  exact ⟨integerText_injective number, escaped_injective body, later⟩

theorem itemLines_injective {items items' : List Item}
    (same : itemLines framework names items = itemLines framework names items') : items = items' := by
  induction items generalizing names items' with
  | nil =>
    cases items' with
    | nil => rfl
    | cons item' _ => cases item' <;> cases same
  | cons item rest ih =>
    cases items' with
    | nil => cases item <;> cases same
    | cons item' rest' =>
      rw [itemLines, itemLines] at same
      cases item with
      | text s =>
        cases item' with
        | text t =>
          obtain ⟨line, later⟩ := List.cons.inj same
          have written := (Line.mk.inj line).2
          have quoted := (String.append_right_inj _).mp ((String.append_left_inj _).mp written)
          rw [literal_injective quoted, ih later]
        | expression n code => exact absurd (Line.mk.inj (List.cons.inj same).1).2 (item_kinds s framework n)
      | expression n code =>
        cases item' with
        | text t => exact absurd (Line.mk.inj (List.cons.inj same).1).2.symm (item_kinds t framework n)
        | expression n' code' =>
          obtain ⟨number, body, later⟩ := expressionLines_injective same
          rw [number, body, ih later]

/-- The lines of a macro's body are deeper than the one that closes the guard around it. -/
theorem closing_unseen (single : '\n' ∉ framework.toList) (stem : '\n' ∉ names.stem.toList) (items : List Item)
    (text : String) : ⟨3, text⟩ ∉ itemLines framework names items := by
  intro member
  have deep := (flush_itemLines single stem items _ member).2
  simp at deep

theorem sectionLines_injective (single : '\n' ∉ framework.toList) (stem : '\n' ∉ names.stem.toList)
    {sections sections' : List (String × List Item)}
    (same : sectionLines framework names sections = sectionLines framework names sections') : sections = sections' := by
  induction sections generalizing names sections' with
  | nil =>
    cases sections' with
    | nil => rfl
    | cons _ _ => cases same
  | cons entry rest ih =>
    cases sections' with
    | nil => cases same
    | cons entry' rest' =>
      obtain ⟨title, items⟩ := entry
      obtain ⟨title', items'⟩ := entry'
      simp only [sectionLines, macroLines, guardLines, List.append_assoc, List.cons_append, List.nil_append] at same
      obtain ⟨opening, guarded⟩ := List.cons.inj same
      have named := (String.append_right_inj _).mp ((String.append_left_inj _).mp (Line.mk.inj opening).2)
      -- both bodies end at the first line of level 3
      obtain ⟨body, closing⟩ := cut_unique (closing_unseen single stem items _) (closing_unseen single stem items' _)
        (List.cons.inj guarded).2
      have equal := itemLines_injective body
      subst named equal
      have later := (List.cons.inj (List.cons.inj (List.cons.inj closing).2).2).2
      rw [@ih (names.skip (items.countP Item.takesName)) stem rest' later]

theorem listing_join {refs : List String} (some : refs ≠ []) :
    "," ++ String.intercalate "," (refs.map literal) = String.join (refs.map fun ref => "," ++ literal ref) := by
  induction refs with
  | nil => exact absurd rfl some
  | cons ref rest ih =>
    by_cases last : rest = []
    · subst last
      simp
    · rw [List.map_cons, List.map_cons, String.intercalate_cons_of_ne_nil (by simpa using last), String.join_cons,
        ← ih last]
      simp only [String.append_assoc]

theorem join_literals_injective {refs refs' : List String}
    (same : String.join (refs.map fun ref => "," ++ literal ref) =
      String.join (refs'.map fun ref => "," ++ literal ref)) : refs = refs' := by
  induction refs generalizing refs' with
  | nil =>
    cases refs' with
    | nil => rfl
    | cons ref' rest' => simp at same
  | cons ref rest ih =>
    cases refs' with
    | nil => simp at same
    | cons ref' rest' =>
      simp only [List.map_cons, String.join_cons, String.append_assoc] at same
      obtain ⟨first, more⟩ := literal_append_injective ((String.append_right_inj _).mp same)
      rw [first, ih more]

theorem listing_injective {refs refs' : List String} (some : refs ≠ []) (some' : refs' ≠ [])
    (same : String.intercalate "," (refs.map literal) = String.intercalate "," (refs'.map literal)) : refs = refs' := by
  -- with a comma in front of the first literal too, each is cut off in the same way
  apply join_literals_injective
  rw [← listing_join some, ← listing_join some', same]

theorem newline_listing (refs : List String) : '\n' ∉ (String.intercalate "," (refs.map literal)).toList := by
  induction refs with
  | nil => simp
  | cons ref rest ih =>
    have here := newline_literal ref
    by_cases last : rest = []
    · subst last
      simpa using here
    · rw [List.map_cons, String.intercalate_cons_of_ne_nil (by simpa using last)]
      simpa [here] using ih

theorem declaration_ne_prototype (listed : String) : " $dependencies: [" ++ listed ++ "]," ≠ " $prototype: \x7b" := by
  intro same
  have third := congrArg (fun line : String => line.toList[2]?) same
  simp at third

theorem classLines_injective {classpath classpath' : String} {refs refs' : List String}
    {prototype prototype' : List Line}
    (same : (Layout.classLines "$dependencies" classpath refs prototype).map (Line.shown (some " ")) =
      (Layout.classLines "$dependencies" classpath' refs' prototype').map (Line.shown (some " "))) :
    classpath = classpath' ∧ refs = refs' ∧
      prototype.map (Line.shown (some " ")) = prototype'.map (Line.shown (some " ")) := by
  have top (text : String) : Line.shown (some " ") ⟨0, text⟩ = text := by simp [Line.shown, margin]
  have keyword : " " ++ "$dependencies" ++ ": [" = " $dependencies: [" := by decide
  simp only [Layout.classLines, declarationLines, keyword, List.map_append, List.map_cons, List.map_nil, top,
    List.cons_append, List.nil_append, List.cons.injEq, List.append_assoc, true_and] at same
  obtain ⟨path, rest⟩ := same
  have path := literal_injective ((String.append_right_inj _).mp ((String.append_left_inj _).mp path))
  refine ⟨path, ?_⟩
  by_cases none : refs = []
  · by_cases none' : refs' = []
    · simp only [if_pos none, if_pos none', List.map_nil, List.nil_append] at rest
      exact ⟨by rw [none, none'], List.append_cancel_right (List.cons.inj rest).2⟩
    · simp only [if_pos none, if_neg none', List.map_cons, List.map_nil, List.nil_append, List.cons_append, top] at rest
      exact absurd (List.cons.inj rest).1.symm (declaration_ne_prototype _)
  · by_cases none' : refs' = []
    · simp only [if_neg none, if_pos none', List.map_cons, List.map_nil, List.nil_append, List.cons_append, top] at rest
      exact absurd (List.cons.inj rest).1 (declaration_ne_prototype _)
    · simp only [if_neg none, if_neg none', List.map_cons, List.map_nil, List.nil_append, List.cons_append, top] at rest
      obtain ⟨declaration, rest⟩ := List.cons.inj rest
      have listed := (String.append_right_inj _).mp ((String.append_left_inj _).mp declaration)
      exact ⟨listing_injective none none' listed, List.append_cancel_right (List.cons.inj rest).2⟩

theorem single_classLines (classpath : String) (refs : List String) {prototype : List Line}
    (single : ∀ line ∈ prototype, '\n' ∉ line.text.toList) :
    ∀ line ∈ Layout.classLines "$dependencies" classpath refs prototype, '\n' ∉ line.text.toList := by
  have path := newline_literal classpath
  have listed := newline_listing refs
  simp only [Layout.classLines, List.forall_mem_append]
  refine ⟨⟨⟨⟨?_, ?_⟩, ?_⟩, single⟩, ?_⟩
  · simp [path]
  · unfold declarationLines
    split
    · simp
    · simpa using listed
  · simp
  · simp

/-- The lines of a class in the default configuration, by all that they depend on. -/
def defaultLines (digits : Digits) (classpath : String) (refs : List String) (sections : List (String × List Item)) :
    List Line :=
  Layout.classLines "$dependencies" classpath refs (sectionLines "aria:" ⟨"__v_", digits, 0⟩ sections)

theorem defaultLines_injective {digits : Digits} {classpath classpath' : String} {refs refs' : List String}
    {sections sections' : List (String × List Item)} (titles : ∀ entry ∈ sections, '\n' ∉ entry.1.toList)
    (titles' : ∀ entry ∈ sections', '\n' ∉ entry.1.toList)
    (same : rendered (some " ") (defaultLines digits classpath refs sections) =
      rendered (some " ") (defaultLines digits classpath' refs' sections')) :
    classpath = classpath' ∧ refs = refs' ∧ sections = sections' := by
  have single : '\n' ∉ "aria:".toList := by decide
  have stem : '\n' ∉ (Names.mk "__v_" digits 0).stem.toList := (by decide : '\n' ∉ "__v_".toList)
  have flush := flush_sectionLines single stem titles
  have flush' := flush_sectionLines single stem titles'
  have lines := shown_of_rendered (single_classLines classpath refs fun line member => (flush line member).1)
    (single_classLines classpath' refs' fun line member => (flush' line member).1) (congrArg String.toList same)
  obtain ⟨path, references, prototype⟩ := classLines_injective lines
  exact ⟨path, references, sectionLines_injective single stem (lines_of_shown flush flush' prototype)⟩

end Layout

namespace Compiler

theorem titles_of_statements {statements : List Statement}
    (titles : ∀ c ∈ statements, Grammar.directive c.nameText = .macroDefinition → '\n' ∉ c.title.toList) :
    ∀ entry ∈ sections statements, '\n' ∉ entry.1.toList := by
  intro entry member
  obtain ⟨c, listed, rfl⟩ := List.mem_map.mp member
  obtain ⟨inside, kind⟩ := List.mem_filter.mp listed
  exact titles c inside (of_decide_eq_true kind)

theorem classText_default (digits : Digits) (classpath : String) {statements : List Statement}
    (numbered : ∀ c ∈ statements, ∀ d ∈ c.children, ∃ n, d.line = .int n) :
    Layout.classText {} digits classpath statements =
      rendered (some " ") (defaultLines digits classpath (templateReferences statements).eraseDups
        (sections statements)) := by
  rw [Layout.classText, prototypeLines_eq _ _ numbered]
  rfl

/-- Under the default configuration a class determines its classpath, its references in their order and its macros in
    theirs, each with its texts and expressions. -/
theorem compileTemplate_injective {digits : Digits} {sink sink' : Sink} {statements statements' : List Statement}
    (admissible : ∀ c ∈ statements, c.isAdmissible) (admissible' : ∀ c ∈ statements', c.isAdmissible)
    (numbered : ∀ c ∈ statements, ∀ d ∈ c.children, ∃ n, d.line = .int n)
    (numbered' : ∀ c ∈ statements', ∀ d ∈ c.children, ∃ n, d.line = .int n)
    (titles : ∀ c ∈ statements, Grammar.directive c.nameText = .macroDefinition → '\n' ∉ c.title.toList)
    (titles' : ∀ c ∈ statements', Grammar.directive c.nameText = .macroDefinition → '\n' ∉ c.title.toList)
    {classpath classpath' text : String} {s s' : Session}
    (ran : compileTemplate statements (.text classpath) (Session.fresh {} digits sink) = .ok (some text) s)
    (ran' : compileTemplate statements' (.text classpath') (Session.fresh {} digits sink') = .ok (some text) s') :
    classpath = classpath' ∧ s.references.toList = s'.references.toList ∧
      sections statements = sections statements' := by
  have success := success_of_run admissible ran
  have success' := success_of_run admissible' ran'
  have texts := success.text.symm.trans success'.text
  rw [classText_default digits classpath numbered, classText_default digits classpath' numbered'] at texts
  obtain ⟨path, references, same⟩ :=
    defaultLines_injective (titles_of_statements titles) (titles_of_statements titles') texts
  refine ⟨path, ?_, same⟩
  rw [success.references, success'.references, references]

def page (kind : String) (again : List Statement) : List Statement :=
  [⟨.text "dependency", .int 1, .text " a.B, ", [], []⟩,
    ⟨.text "macro", .int 2, .text "main ", [some ⟨.text kind, .int 3, .text "\x7d);", [], []⟩,
      some ⟨.text "#EXPRESSION#", .int 4, .text "x", [], []⟩], []⟩] ++ again

theorem compileTemplate_injective_page :
    ∃ text s s',
      compileTemplate (page "#TEXT#" []) (.text "app.A") (Session.fresh {} (fun _ => 3) .collect) = .ok (some text) s ∧
      compileTemplate (page "#CDATA#" [⟨.text "dependency", .int 5, .text "a.B", [], []⟩]) (.text "app.A")
        (Session.fresh {} (fun _ => 3) .collect) = .ok (some text) s' ∧
      s.references.toList = s'.references.toList := by
  let plain := page "#TEXT#" []
  let varied := page "#CDATA#" [⟨.text "dependency", .int 5, .text "a.B", [], []⟩]
  have numbered : ∀ statements ∈ [plain, varied], ∀ c ∈ statements, ∀ d ∈ c.children, ∃ n, d.line = .int n := by
    simp [plain, varied, page, Statement.children]
  have free : ∀ statements ∈ [plain, varied], ¬ Hindered ({} : Config).indentUnit .collect statements := by
    intro statements member
    refine not_hindered short_default id fun c inside d child => ?_
    obtain ⟨n, line⟩ := numbered statements member c inside d child
    rw [line]
    rfl
  have first : plain ∈ [plain, varied] := List.mem_cons_self
  have second : varied ∈ [plain, varied] := List.mem_cons_of_mem plain List.mem_cons_self
  have admissible : ∀ c ∈ plain, c.isAdmissible := by decide
  have admissible' : ∀ c ∈ varied, c.isAdmissible := by decide
  obtain ⟨text, s, ran⟩ := run_of_clean {} (fun _ => 3) .collect "app.A" admissible (free plain first) (by decide)
  obtain ⟨text', s', ran'⟩ :=
    run_of_clean {} (fun _ => 3) .collect "app.A" admissible' (free varied second) (by decide)
  have same : text = text' := by
    rw [(success_of_run admissible ran).text, (success_of_run admissible' ran').text]
    decide +kernel
  subst same
  have recovered := compileTemplate_injective admissible admissible' (numbered plain first) (numbered varied second)
    (by decide) (by decide) ran ran'
  exact ⟨text, s, s', ran, ran', recovered.2.1⟩

end Compiler

end TemplateCompiler
