import Mathlib.Data.List.Forall2
import TemplateCompiler.Proofs.Text.Literal

namespace TemplateCompiler.Text

/-- Where a reader stands: in code, in a literal, or in a literal behind a backslash. -/
inductive Mode where
  | code | literal | guarded
  deriving DecidableEq, Repr

namespace Mode

def next : Mode → Char → Mode
  | .code, c => if c = '"' then .literal else .code
  | .literal, c => if c = '"' then .code else if c = '\\' then .guarded else .literal
  | .guarded, _ => .literal

def after (m : Mode) (cs : List Char) : Mode := cs.foldl next m

def hides : Mode → Char → Bool
  | .code, _ => false
  | .literal, c => c ≠ '"'
  | .guarded, _ => true

def outline (m : Mode) : List Char → List Char
  | [] => []
  | c :: rest => if m.hides c then (m.next c).outline rest else c :: (m.next c).outline rest

def interior (m : Mode) : List Char → List Char
  | [] => []
  | c :: rest => if m.hides c then c :: (m.next c).interior rest else (m.next c).interior rest

theorem after_append (m : Mode) (cs more : List Char) : m.after (cs ++ more) = (m.after cs).after more :=
  List.foldl_append

theorem outline_append (m : Mode) (cs more : List Char) :
    m.outline (cs ++ more) = m.outline cs ++ (m.after cs).outline more := by
  induction cs generalizing m with
  | nil => rfl
  | cons c rest ih =>
    simp only [List.cons_append, outline, ih]
    split <;> rfl

theorem interior_append (m : Mode) (cs more : List Char) :
    m.interior (cs ++ more) = m.interior cs ++ (m.after cs).interior more := by
  induction cs generalizing m with
  | nil => rfl
  | cons c rest ih =>
    simp only [List.cons_append, interior, ih]
    split <;> rfl

theorem interior_of_outline {m : Mode} {cs : List Char} (hidden : m.outline cs = []) : m.interior cs = cs := by
  induction cs generalizing m with
  | nil => rfl
  | cons c rest ih =>
    rw [outline] at hidden
    split at hidden
    · rename_i hides
      rw [interior, if_pos hides, ih hidden]
    · cases hidden

end Mode

/-- What stays inside a literal: it does not end it, has no part in the outline and is plain. -/
structure Inert (cs : List Char) : Prop where
  after : Mode.literal.after cs = .literal
  outline : Mode.literal.outline cs = []
  plain : ∀ c ∈ Mode.literal.interior cs, IsPlain c

theorem Inert.empty : Inert [] := ⟨rfl, rfl, by simp [Mode.interior]⟩

theorem Inert.append {cs more : List Char} (first : Inert cs) (second : Inert more) : Inert (cs ++ more) where
  after := by rw [Mode.after_append, first.after, second.after]
  outline := by rw [Mode.outline_append, first.after, first.outline, second.outline, List.nil_append]
  plain c member := by
    rw [Mode.interior_append, first.after] at member
    exact (List.mem_append.mp member).elim (first.plain c) (second.plain c)

def IsBare (c : Char) : Prop := IsPlain c ∧ c ≠ '"' ∧ c ≠ '\\'

instance (c : Char) : Decidable (IsBare c) := inferInstanceAs (Decidable (_ ∧ _))

def Bare (s : String) : Prop := ∀ c ∈ s.toList, IsBare c

instance (s : String) : Decidable (Bare s) := List.decidableBAll IsBare s.toList

theorem Bare.append {s t : String} (first : Bare s) (second : Bare t) : Bare (s ++ t) := by
  intro c member
  rw [String.toList_append] at member
  exact (List.mem_append.mp member).elim (first c) (second c)

theorem Bare.code {s : String} (bare : Bare s) : '"' ∉ s.toList := fun member => (bare '"' member).2.1 rfl

theorem inert_char {c : Char} (bare : IsBare c) : Inert [c] := by
  obtain ⟨plain, noQuote, noBackslash⟩ := bare
  constructor
  · simp [Mode.after, Mode.next, noQuote, noBackslash]
  · simp [Mode.outline, Mode.hides, noQuote]
  · simpa [Mode.interior, Mode.hides, noQuote] using plain

theorem inert_of_bare {cs : List Char} (bare : ∀ c ∈ cs, IsBare c) : Inert cs := by
  induction cs with
  | nil => exact .empty
  | cons c rest ih =>
    have first := inert_char (bare c List.mem_cons_self)
    exact first.append (ih fun d member => bare d (List.mem_cons_of_mem c member))

theorem inert_protected {c : Char} (plain : IsPlain c) : Inert ['\\', c] := by
  constructor
  · rfl
  · rfl
  · have backslash : IsPlain '\\' := by decide
    simpa [Mode.interior, Mode.hides, Mode.next] using ⟨backslash, plain⟩

theorem inert_unitEscape {unit : Nat} (small : unit < 0x10000) : Inert (unitEscape unit) :=
  (inert_protected (by decide : IsPlain 'u')).append (inert_of_bare (hex_plain small))

theorem inert_units {units : List Nat} (small : ∀ unit ∈ units, unit < 0x10000) :
    Inert (units.flatMap unitEscape) := by
  induction units with
  | nil => exact .empty
  | cons unit rest ih =>
    rw [List.flatMap_cons]
    have others := ih fun other member => small other (List.mem_cons_of_mem unit member)
    exact (inert_unitEscape (small unit List.mem_cons_self)).append others

theorem inert_escapeLiteral (c : Char) : Inert (escapeLiteral c) := by
  unfold escapeLiteral
  cases short : shortEscape? c with
  | some letter => exact inert_protected (Json.shortEscape?_cases short).2.2
  | none =>
    obtain ⟨noQuote, noBackslash⟩ := Json.shortEscape?_none short
    by_cases plain : (decide (' ' ≤ c) && decide (c ≤ '~')) = true
    · rw [if_pos plain]
      simp only [Bool.and_eq_true, decide_eq_true_eq] at plain
      exact inert_char ⟨plain, noQuote, noBackslash⟩
    · rw [if_neg plain]
      exact inert_units (utf16Units_small c)

theorem inert_literalBody (cs : List Char) : Inert (literalBody cs) := by
  induction cs with
  | nil => exact .empty
  | cons c rest ih => exact (inert_escapeLiteral c).append ih

theorem plain_literalBody (cs : List Char) : ∀ c ∈ literalBody cs, IsPlain c := by
  have inert := inert_literalBody cs
  have plain := inert.plain
  rwa [Mode.interior_of_outline inert.outline] at plain

/-- The reader is back in code at the end, and met only plain characters in literals. -/
structure Tidy (s : String) : Prop where
  after : Mode.code.after s.toList = .code
  plain : ∀ c ∈ Mode.code.interior s.toList, IsPlain c

/-- Two texts that differ at most inside their literals. -/
structure Alike (s t : String) : Prop where
  left : Tidy s
  right : Tidy t
  outline : Mode.code.outline s.toList = Mode.code.outline t.toList

variable {s s' t t' : String}

theorem Tidy.append (first : Tidy s) (second : Tidy t) : Tidy (s ++ t) where
  after := by rw [String.toList_append, Mode.after_append, first.after, second.after]
  plain c member := by
    rw [String.toList_append, Mode.interior_append, first.after] at member
    exact (List.mem_append.mp member).elim (first.plain c) (second.plain c)

theorem Alike.append (first : Alike s t) (second : Alike s' t') : Alike (s ++ s') (t ++ t') where
  left := first.left.append second.left
  right := first.right.append second.right
  outline := by
    rw [String.toList_append, String.toList_append, Mode.outline_append, Mode.outline_append, first.left.after,
      first.right.after, first.outline, second.outline]

theorem tidy_code {cs : List Char} (code : '"' ∉ cs) :
    Mode.code.after cs = .code ∧ Mode.code.interior cs = [] := by
  induction cs with
  | nil => exact ⟨rfl, rfl⟩
  | cons c rest ih =>
    obtain ⟨other, later⟩ := not_or.mp (mt List.mem_cons.mpr code)
    have stays : Mode.code.next c = .code := if_neg (Ne.symm other)
    obtain ⟨after, interior⟩ := ih later
    refine ⟨?_, ?_⟩
    · rw [Mode.after, List.foldl_cons, stays]
      exact after
    · rw [Mode.interior, stays, interior]
      rfl

theorem alike_code (code : '"' ∉ s.toList) : Alike s s :=
  have tidy : Tidy s := by
    obtain ⟨after, interior⟩ := tidy_code code
    refine ⟨after, ?_⟩
    rw [interior]
    simp
  ⟨tidy, tidy, rfl⟩

theorem literal_parts {cs : List Char} (inert : Inert cs) :
    Mode.code.after ('"' :: cs ++ ['"']) = .code ∧ Mode.code.outline ('"' :: cs ++ ['"']) = ['"', '"'] ∧
      Mode.code.interior ('"' :: cs ++ ['"']) = Mode.literal.interior cs := by
  -- behind the first quote a reader goes through `cs` without leaving the literal
  have inside : Mode.code.after ('"' :: cs) = .literal := inert.after
  have shown : Mode.code.outline ('"' :: cs) = ['"'] := congrArg ('"' :: ·) inert.outline
  have hidden : Mode.code.interior ('"' :: cs) = Mode.literal.interior cs := rfl
  rw [Mode.after_append, Mode.outline_append, Mode.interior_append, inside, shown, hidden]
  exact ⟨rfl, rfl, List.append_nil _⟩

theorem alike_literals (first : Inert s.toList) (second : Inert t.toList) :
    Alike ("\"" ++ s ++ "\"") ("\"" ++ t ++ "\"") := by
  have chars (u : String) : ("\"" ++ u ++ "\"").toList = '"' :: u.toList ++ ['"'] := by simp
  have tidy {u : String} (inert : Inert u.toList) : Tidy ("\"" ++ u ++ "\"") := by
    obtain ⟨after, -, interior⟩ := literal_parts inert
    refine ⟨by rw [chars, after], ?_⟩
    rw [chars, interior]
    exact inert.plain
  refine ⟨tidy first, tidy second, ?_⟩
  rw [chars, chars, (literal_parts first).2.1, (literal_parts second).2.1]

theorem alike_literal (s t : String) : Alike (literal s) (literal t) := by
  have same (u : String) : literal u = "\"" ++ String.ofList (literalBody u.toList) ++ "\"" := by
    apply String.toList_injective
    simp [literal]
  have inert (u : String) : Inert (String.ofList (literalBody u.toList)).toList := by
    rw [String.toList_ofList]
    exact inert_literalBody u.toList
  rw [same s, same t]
  exact alike_literals (inert s) (inert t)

end TemplateCompiler.Text
