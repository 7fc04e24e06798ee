import TemplateCompiler.Proofs.Compiler.TopLevel

namespace TemplateCompiler.Compiler

open Session Layout

variable {hindered : Prop} {s s' : Session} {made : Made}

theorem intercalate_newline (lines : List String) (filled : lines ≠ []) :
    String.intercalate "\n" lines ++ "\n" = String.join (lines.map (· ++ "\n")) := by
  induction lines with
  | nil => exact absurd rfl filled
  | cons line rest ih =>
    cases rest with
    | nil => simp
    | cons next more =>
      rw [String.intercalate_cons_of_ne_nil (by simp), List.map_cons, String.join_cons, ← ih (by simp)]
      simp only [String.append_assoc]

theorem dropEndNewlines_append (text : String) : Text.dropEndNewlines (text ++ "\x7d,\n") = text ++ "\x7d," := by
  have chars : (text ++ "\x7d,\n").toList = (text ++ "\x7d,").toList ++ ['\n'] := by
    simp
  have last : (text ++ "\x7d,").toList = text.toList ++ ['\x7d'] ++ [','] := by
    simp
  rw [Text.dropEndNewlines, chars, Text.dropEnd, List.reverse_append, List.reverse_singleton, List.singleton_append,
    List.dropWhile_cons_of_pos (by decide), last, List.reverse_append, List.reverse_singleton, List.singleton_append,
    List.dropWhile_cons_of_neg (by decide), ← List.singleton_append, ← List.reverse_singleton, ← List.reverse_append,
    List.reverse_reverse, ← last, String.ofList_toList]

theorem render_flush (unit : Option String) (text : String) : (⟨0, text⟩ : Line).render unit = text ++ "\n" := by
  simp [Line.render, margin]

/-- What a line adds to the class, where empty lines are left out. -/
def ended (line : String) : String := if line = "" then "" else line ++ "\n"

theorem ended_of_filled {line : String} (filled : line ≠ "") : ended line = line ++ "\n" := if_neg filled

theorem join_filled (lines : List String) :
    String.join ((lines.filter (· ≠ "")).map (· ++ "\n")) = String.join (lines.map ended) := by
  induction lines with
  | nil => rfl
  | cons line rest ih =>
    by_cases empty : line = ""
    · have nothing : ended line = "" := if_pos empty
      rw [List.filter_cons_of_neg (by simpa using empty), List.map_cons, String.join_cons, nothing, String.empty_append]
      exact ih
    · rw [List.filter_cons_of_pos (by simpa using empty), List.map_cons, List.map_cons, String.join_cons,
        String.join_cons, ended_of_filled empty, ih]

theorem ended_declaration (unit : Option String) (refs : References) (keyword : String) :
    ended (if refs.declaration keyword = "" then "" else " " ++ refs.declaration keyword) =
      rendered unit (declarationLines keyword refs.toList) := by
  rw [References.declaration, References.listing, declarationLines]
  by_cases none : refs.toList = []
  · have unlisted : refs.toList.isEmpty = true := by rw [none]; rfl
    rw [if_pos unlisted, if_pos none]
    rfl
  · have listed : ¬ refs.toList.isEmpty = true := by simpa using none
    have opening : ": [" = ": " ++ "[" := by decide
    have closing : "]," = "]" ++ "," := by decide
    rw [if_neg listed, if_neg none, if_neg (by simp), ended_of_filled (by simp), rendered_singleton, render_flush,
      opening, closing]
    simp only [String.append_assoc]

/-- Macros end in a line of their own, which no trimming reaches into. -/
def Closed (prototype : List Line) : Prop := ∃ front, prototype = front ++ [⟨2, "\x7d,"⟩]

theorem ended_prototype {prototype : List Line} (closed : prototype = [] ∨ Closed prototype) (unit : Option String) :
    ended (Text.dropEndNewlines (rendered unit prototype)) = rendered unit prototype := by
  rcases closed with rfl | ⟨front, rfl⟩
  · rw [rendered_nil]
    decide
  · let start := rendered unit front ++ margin unit 2
    have whole : rendered unit (front ++ [⟨2, "\x7d,"⟩]) = start ++ "\x7d,\n" := by
      rw [rendered_append, rendered_singleton, Line.render]
      simp [start, String.append_assoc]
    have filled : start ++ "\x7d," ≠ "" := by simp
    rw [whole, dropEndNewlines_append, ended_of_filled filled, String.append_assoc]
    rfl

theorem join_classLines (keyword : String) (classpath : Value) (refs : References) (body : String) :
    String.intercalate "\n" (Compiler.classLines classpath (refs.declaration keyword) body) ++ "\n" =
      "Aria.classDefinition(\x7b\n $classpath: " ++ classpath.json ++ ",\n" ++
        rendered none (declarationLines keyword refs.toList) ++ " $prototype: \x7b\n" ++
        ended (Text.dropEndNewlines body) ++ " \x7d\n\x7d);\n" := by
  rw [intercalate_newline _ (by simp [Compiler.classLines]), Compiler.classLines, join_filled]
  simp only [List.map_cons, List.map_nil, String.join_cons, ended_declaration none refs]
  apply String.toList_injective
  simp [ended]

theorem joined_classLines (unit : Option String) (keyword classpath : String) (refs : References)
    {prototype : List Line} (closed : prototype = [] ∨ Closed prototype) :
    String.intercalate "\n" (Compiler.classLines (.text classpath) (refs.declaration keyword) (rendered unit prototype))
        ++ "\n" =
      rendered unit (Layout.classLines keyword classpath refs.toList prototype) := by
  have declared : rendered none (declarationLines keyword refs.toList) =
      rendered unit (declarationLines keyword refs.toList) := by
    rw [← ended_declaration none refs, ended_declaration unit refs]
  rw [join_classLines, declared, ended_prototype closed]
  simp only [Layout.classLines, rendered_append, rendered_cons, rendered_nil, render_flush]
  apply String.toList_injective
  simp [Value.json]

theorem mapM_contents {b : Buffer} {unit : Option String} (made : Made)
    (contents : ∀ m ∈ made, b.content (blockOf m.1.title) = .ok (rendered unit m.2)) :
    (made.map fun m => blockOf m.1.title).mapM b.content = .ok (made.map fun m => rendered unit m.2) := by
  induction made with
  | nil => rfl
  | cons m rest ih =>
    rw [List.map_cons, List.mapM_cons, contents m List.mem_cons_self,
      ih fun other member => contents other (List.mem_cons_of_mem m member)]
    rfl

theorem mapM_contents_of_valid {b : Buffer} (valid : b.Valid) (names : List String) :
    (names.filter b.has).mapM b.content = .ok ((names.filterMap b.find?).map b.textOf) := by
  induction names with
  | nil => rfl
  | cons name rest ih =>
    cases found : b.find? name with
    | none =>
      have missing : ¬ b.has name = true := by simp [Buffer.has, found]
      rw [List.filter_cons_of_neg missing, List.filterMap_cons_none found, ih]
    | some i =>
      have known : b.has name = true := by simp [Buffer.has, found]
      have text : b.content name = .ok (b.textOf i) := by rw [valid.content_eq, found]
      rw [List.filter_cons_of_pos known, List.filterMap_cons_some found, List.mapM_cons, text, ih]
      rfl

theorem macroBodies_of_valid {b : Buffer} (valid : b.Valid) (macros : Slots MacroSlot) :
    macroBodies b macros =
      .ok (String.join (((macros.names.map blockOf).filterMap b.find?).map b.textOf)) := by
  rw [macroBodies, mapM_contents_of_valid valid]
  rfl

theorem rendered_flatMap (unit : Option String) (made : Made) :
    rendered unit (made.flatMap Prod.snd) = String.join (made.map fun m => rendered unit m.2) := by
  induction made with
  | nil => rfl
  | cons m rest ih => rw [List.flatMap_cons, rendered_append, ih, List.map_cons, String.join_cons]

theorem macroBodies_of_idle (idle : Idle hindered s made) :
    macroBodies s.buffer s.macros = .ok (rendered s.buffer.unit (made.flatMap Prod.snd)) := by
  have blocks : s.macros.names.map blockOf = made.map fun m => blockOf m.1.title := by
    rw [Slots.names, idle.macros]
    simp
  have known : (made.map fun m => blockOf m.1.title).filter s.buffer.has = made.map fun m => blockOf m.1.title := by
    rw [List.filter_eq_self]
    intro block member
    obtain ⟨m, inside, rfl⟩ := List.mem_map.mp member
    have content := idle.contents m inside
    rw [Buffer.content] at content
    rw [Buffer.has]
    cases found : s.buffer.find? (blockOf m.1.title) with
    | some i => rfl
    | none =>
      rw [found] at content
      cases content
  rw [macroBodies, blocks, known, mapM_contents made idle.contents, rendered_flatMap]
  rfl

theorem classText_of_idle (idle : Idle hindered s made) (classpath : Value) :
    classText classpath s = .ok
      (String.intercalate "\n" (Compiler.classLines classpath (s.references.declaration s.config.dependenciesKeyword)
        (rendered s.buffer.unit (made.flatMap Prod.snd))) ++ "\n") s := by
  rw [classText, Act.get_bind, macroBodies_of_idle idle]
  rfl

end TemplateCompiler.Compiler
