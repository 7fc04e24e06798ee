import TemplateCompiler.Statement.Loader

namespace TemplateCompiler

abbrev Fields := List (String × Value)

inductive Tree (α : Type) where
  | node (a : α) (children : List (Tree α))

namespace Tree

variable {α β : Type}

mutual

def fold (build : α → List β → β) : Tree α → β
  | node a children => build a (foldAll build children)

def foldAll (build : α → List β → β) : List (Tree α) → List β
  | [] => []
  | t :: rest => t.fold build :: foldAll build rest

end

theorem foldAll_eq (build : α → List β → β) (ts : List (Tree α)) : foldAll build ts = ts.map (fold build) := by
  induction ts with
  | nil => rfl
  | cons t rest ih => rw [foldAll, ih, List.map_cons]

theorem fold_node (build : α → List β → β) (a : α) (children : List (Tree α)) :
    (node a children).fold build = build a (children.map (fold build)) := by
  rw [fold, foldAll_eq]

def preorder : Tree α → List α := fold fun a inner => a :: inner.flatten

theorem preorder_node (a : α) (children : List (Tree α)) :
    (node a children).preorder = a :: children.flatMap preorder := fold_node _ a children

end Tree

namespace Statement

def hasRecordProperties (fields : Fields) : Prop :=
  ∀ v, field? fields "properties" = some v → ∃ properties, v = .record properties

mutual

/-- The value is a record with nothing but such records in its content. -/
inductive Shapes : Value → Tree Fields → Prop where
  | bare {fields : Fields} (absent : field? fields "content" = none) (plain : hasRecordProperties fields) :
    Shapes (.record fields) (.node fields [])
  | filled {fields : Fields} {items : List Value} {children : List (Tree Fields)}
    (present : field? fields "content" = some (.list items)) (plain : hasRecordProperties fields)
    (inside : ShapesAll items children) : Shapes (.record fields) (.node fields children)

inductive ShapesAll : List Value → List (Tree Fields) → Prop where
  | nil : ShapesAll [] []
  | cons {v : Value} {t : Tree Fields} {items : List Value} {others : List (Tree Fields)} (first : Shapes v t)
    (rest : ShapesAll items others) : ShapesAll (v :: items) (t :: others)

end

def lineOf (fields : Fields) : Except Fault Int :=
  match field? fields "line_number" with
  | some v => v.toInt
  | none => .ok 0

/-- Why a record is no statement, whatever is inside it. -/
def defect (fields : Fields) : Option Fault :=
  match field? fields "name", lineOf fields with
  | none, _ => some (.missingField "name")
  | some _, .error fault => some fault
  | some _, .ok _ => none

def assemble (fields : Fields) (content : List Statement) : Statement where
  name := (field? fields "name").getD .null
  line := .int ((lineOf fields).toOption.getD 0)
  param := (field? fields "param_block").getD (.text "")
  content := content.map some
  properties := match field? fields "properties" with
    | some (.record properties) => properties.map fun p => (.text p.1, p.2)
    | _ => []

/-- The first defect among records, or else what they are read as. -/
def verdict {α : Type} (records : List Fields) (a : α) : Except Fault α :=
  match records.findSome? defect with
  | some fault => .error fault
  | none => .ok a

section

variable {α β γ : Type} {records others : List Fields}

theorem verdict_append (f : α → β → γ) (a : α) (b : β) :
    verdict (records ++ others) (f a b) = do return f (← verdict records a) (← verdict others b) := by
  rw [verdict, verdict, verdict, List.findSome?_append]
  cases records.findSome? defect with
  | some fault => rfl
  | none => cases others.findSome? defect <;> rfl

theorem verdict_cons (fields : Fields) (a : α) :
    verdict (fields :: others) a = match defect fields with
      | some fault => .error fault
      | none => verdict others a := by
  rw [verdict, List.findSome?_cons]
  cases defect fields <;> rfl

end

theorem contentOf_eq (fields : Fields) :
    contentOf fields = match field? fields "content" with
      | some v => allOf v
      | none => .ok [] := by
  induction fields with
  | nil => rfl
  | cons field rest ih =>
    obtain ⟨name, v⟩ := field
    rw [contentOf, field?, List.lookup_cons]
    by_cases here : name = "content"
    · subst here
      rfl
    · have other : ("content" == name) = false := beq_false_of_ne (Ne.symm here)
      rw [if_neg here, ih, other]
      rfl

theorem properties_eq {fields : Fields} (plain : hasRecordProperties fields) (content : List Statement) :
    ((field? fields "properties").getD (.record [])).toProperties = .ok (assemble fields content).properties := by
  rw [assemble]
  cases found : field? fields "properties" with
  | none => rfl
  | some v =>
    obtain ⟨properties, rfl⟩ := plain v found
    rfl

theorem ofValue_record {fields : Fields} {records : List Fields} {content : List Statement}
    (plain : hasRecordProperties fields) (inside : contentOf fields = verdict records content) :
    ofValue (.record fields) = verdict (fields :: records) (assemble fields content) := by
  have line : ((field? fields "line_number").getD (.int 0)).toInt = lineOf fields := by
    rw [lineOf]
    cases field? fields "line_number" <;> rfl
  rw [ofValue, line, inside, properties_eq plain content, verdict_cons, defect, verdict, verdict]
  cases named : field? fields "name" with
  | none => rfl
  | some name =>
    cases read : lineOf fields with
    | error fault => rfl
    | ok n =>
      cases records.findSome? defect with
      | some fault => rfl
      | none =>
        have assembled : assemble fields content = ⟨name, .int n, (field? fields "param_block").getD (.text ""),
            content.map some, (assemble fields content).properties⟩ := by
          simp only [assemble, named, read, Option.getD_some, Except.toOption]
        exact congrArg Except.ok assembled.symm

mutual

theorem ofValue_of_shapes {v : Value} {t : Tree Fields} (shapes : Shapes v t) :
    ofValue v = verdict t.preorder (t.fold assemble) := by
  cases shapes with
  | bare absent plain =>
    rename_i fields
    have inside : contentOf fields = verdict [] [] := by
      rw [contentOf_eq, absent]
      rfl
    rw [Tree.preorder_node, Tree.fold_node]
    exact ofValue_record plain inside
  | filled present plain inside =>
    rename_i fields items children
    have read := ofItems_of_shapes inside
    have content : contentOf fields = ofItems items := by
      rw [contentOf_eq, present]
      rfl
    rw [Tree.preorder_node, Tree.fold_node]
    exact ofValue_record plain (content.trans read)

theorem ofItems_of_shapes {items : List Value} {forest : List (Tree Fields)} (shapes : ShapesAll items forest) :
    ofItems items = verdict (forest.flatMap Tree.preorder) (forest.map (Tree.fold assemble)) := by
  cases shapes with
  | nil => rfl
  | cons first rest =>
    rw [ofItems, ofValue_of_shapes first, ofItems_of_shapes rest, List.flatMap_cons, List.map_cons, verdict_append]

end

/-! Writing statements as records -/

def spelling : Key → String
  | .text s => s
  | _ => ""

mutual

/-- Lines are integers, keys are texts and no place is empty, in the statement and in those inside it. -/
def isWritable : Statement → Prop
  | ⟨_, line, _, content, properties⟩ =>
    (∃ n, line = .int n) ∧ (∀ p ∈ properties, p.1 = .text (spelling p.1)) ∧ areWritable content

def isWritablePlace : Option Statement → Prop
  | none => False
  | some s => isWritable s

def areWritable : List (Option Statement) → Prop
  | [] => True
  | place :: rest => isWritablePlace place ∧ areWritable rest

end

mutual

def toValue : Statement → Value
  | ⟨name, line, param, content, properties⟩ => .record [("name", name), ("line_number", line),
    ("param_block", param), ("content", .list (placesToValues content)),
    ("properties", .record (properties.map fun p => (spelling p.1, p.2)))]

def placeToValue : Option Statement → Value
  | none => .null
  | some s => toValue s

def placesToValues : List (Option Statement) → List Value
  | [] => []
  | place :: rest => placeToValue place :: placesToValues rest

end

theorem toProperties_spelled {properties : List (Key × Value)} (spelled : ∀ p ∈ properties, p.1 = .text (spelling p.1)) :
    (Value.record (properties.map fun p => (spelling p.1, p.2))).toProperties = .ok properties := by
  have same : ∀ p ∈ properties, (Key.text (spelling p.1), p.2) = p := fun p member => by rw [← spelled p member]
  rw [Value.toProperties, List.map_map]
  exact congrArg Except.ok ((List.map_congr_left same).trans (List.map_id properties))

mutual

theorem ofValue_toValue {s : Statement} (writable : s.isWritable) : ofValue s.toValue = .ok s := by
  obtain ⟨name, line, param, content, properties⟩ := s
  rw [isWritable] at writable
  obtain ⟨⟨n, rfl⟩, spelled, filled⟩ := writable
  obtain ⟨statements, same, read⟩ := ofItems_placesToValues filled
  rw [toValue, ofValue, contentOf_eq]
  show (do
    let content ← ofItems (placesToValues content)
    let properties ← (Value.record (properties.map fun p => (spelling p.1, p.2))).toProperties
    return ⟨name, .int n, param, content.map some, properties⟩ : Except Fault Statement) = _
  rw [read, toProperties_spelled spelled, same]
  rfl

theorem ofItems_placesToValues {places : List (Option Statement)} (writable : areWritable places) :
    ∃ statements, places = statements.map some ∧ ofItems (placesToValues places) = .ok statements := by
  cases places with
  | nil => exact ⟨[], rfl, rfl⟩
  | cons place rest =>
    rw [areWritable] at writable
    obtain ⟨others, same, read⟩ := ofItems_placesToValues writable.2
    cases place with
    | none => exact writable.1.elim
    | some s =>
      have first : ofValue (placeToValue (some s)) = .ok s := ofValue_toValue writable.1
      refine ⟨s :: others, congrArg (some s :: ·) same, ?_⟩
      rw [placesToValues, ofItems, first, read]
      rfl

end

theorem isOk_verdict {α : Type} (records : List Fields) (a : α) :
    (∃ b, verdict records a = .ok b) ↔
      ∀ fields ∈ records, (field? fields "name").isSome ∧ ∃ n, lineOf fields = .ok n := by
  have sound (fields : Fields) : defect fields = none ↔ (field? fields "name").isSome ∧ ∃ n, lineOf fields = .ok n := by
    rw [defect]
    cases field? fields "name" with
    | none => simp
    | some name => cases lineOf fields <;> simp
  rw [verdict]
  cases found : records.findSome? defect with
  | none => simpa [sound] using found
  | some fault =>
    obtain ⟨fields, member, faulty⟩ := List.exists_of_findSome?_eq_some found
    apply iff_of_false
    · simp
    · intro all
      rw [(sound fields).mpr (all fields member)] at faulty
      cases faulty

/-- Records are read as the statements that are nested as they are, if each of them has a name and a line that is a
    number. Else the first defect is reported, from the outside in and from left to right. What is written as records is
    read back. -/
theorem reading_preserves_shape :
    (∀ items forest, ShapesAll items forest →
      allOf (.list items) = verdict (forest.flatMap Tree.preorder) (forest.map (Tree.fold assemble)) ∧
      ((∃ statements, allOf (.list items) = .ok statements) ↔
        ∀ fields ∈ forest.flatMap Tree.preorder,
          (field? fields "name").isSome ∧ ∃ n, lineOf fields = .ok n)) ∧
    ∀ statements : List Statement, (∀ s ∈ statements, s.isWritable) →
      allOf (.list (statements.map toValue)) = .ok statements := by
  refine ⟨fun items forest shapes => ?_, fun statements writable => ?_⟩
  · have read : allOf (.list items) = _ := ofItems_of_shapes shapes
    rw [read]
    exact ⟨rfl, isOk_verdict _ _⟩
  · show ofItems (statements.map toValue) = _
    induction statements with
    | nil => rfl
    | cons s rest ih =>
      have others := ih fun c member => writable c (List.mem_cons_of_mem s member)
      rw [List.map_cons, ofItems, ofValue_toValue (writable s List.mem_cons_self), others]
      rfl

theorem reading_preserves_shape_nested :
    let first : Fields := [("name", .text "b"), ("line_number", .text " 12")]
    let outer (second : Fields) : Fields :=
      [("name", .text "a"), ("content", .list [.record first, .record second]), ("properties", .record [("k", .null)])]
    let read : Statement := ⟨.text "a", .int 0, .text "", [some ⟨.text "b", .int 12, .text "", [], []⟩,
      some ⟨.text "c", .int 0, .text "", [], []⟩], [(.text "k", .null)]⟩
    allOf (.list [.record (outer [("line_number", .null)])]) = .error (.missingField "name") ∧
      allOf (.list [.record (outer [("name", .text "c")])]) = .ok [read] ∧
      allOf (.list [read.toValue]) = .ok [read] := by
  intro first outer read
  have shaped (second : Fields) (bare : field? second "content" = none) (plain : field? second "properties" = none) :
      ShapesAll [.record (outer second)] [.node (outer second) [.node first [], .node second []]] := by
    have whole : hasRecordProperties (outer second) := by
      intro v found
      cases found
      exact ⟨_, rfl⟩
    have none_first : hasRecordProperties first := by
      intro v found
      cases found
    have none_second : hasRecordProperties second := by
      intro v found
      rw [plain] at found
      cases found
    exact .cons (.filled rfl whole (.cons (.bare rfl none_first) (.cons (.bare bare none_second) .nil))) .nil
  obtain ⟨decodes, returns⟩ := reading_preserves_shape
  have writable : read.isWritable := by simp [read, isWritable, areWritable, isWritablePlace, spelling]
  refine ⟨?_, ?_, returns [read] ?_⟩
  · rw [(decodes _ _ (shaped [("line_number", .null)] rfl rfl)).1]
    rfl
  · rw [(decodes _ _ (shaped [("name", .text "c")] rfl rfl)).1]
    rfl
  · intro s member
    rw [List.mem_singleton.mp member]
    exact writable

end Statement

end TemplateCompiler
