import Mathlib.Data.List.TakeWhile
import TemplateCompiler.Text.Blank

namespace TemplateCompiler.Text

def Blank (s : String) : Prop := ∀ c ∈ s.toList, isBlank c

instance (s : String) : Decidable (Blank s) := List.decidableBAll (isBlank ·) s.toList

theorem dropEnd_append {p : Char → Bool} {right : List Char} (blank : ∀ c ∈ right, p c) (cs : List Char) :
    dropEnd p (cs ++ right) = dropEnd p cs := by
  have reversed : ∀ c ∈ right.reverse, p c := fun c member => blank c (List.mem_reverse.mp member)
  rw [dropEnd, List.reverse_append, List.dropWhile_append_of_pos reversed]
  rfl

theorem trimChars_surrounded {p : Char → Bool} {left right : List Char} (before : ∀ c ∈ left, p c)
    (after : ∀ c ∈ right, p c) (cs : List Char) : trimChars p (left ++ cs ++ right) = trimChars p cs := by
  rw [trimChars, List.append_assoc, List.dropWhile_append_of_pos before]
  cases rest : cs.dropWhile p with
  | nil =>
    have gone : (cs ++ right).dropWhile p = [] := by
      rw [List.dropWhile_eq_nil_iff] at rest ⊢
      intro c member
      exact (List.mem_append.mp member).elim (rest c) (after c)
    rw [gone, trimChars, rest]
  | cons c more =>
    have stays : (cs ++ right).dropWhile p = cs.dropWhile p ++ right := by
      rw [List.dropWhile_append, rest]
      rfl
    rw [stays, dropEnd_append after]
    rfl

theorem trim_surrounded {left right : String} (before : Blank left) (after : Blank right) (s : String) :
    trim (left ++ s ++ right) = trim s := by
  rw [trim, String.toList_append, String.toList_append, trimChars_surrounded before after]
  rfl

theorem trimChars_eq_nil {p : Char → Bool} {cs : List Char} : trimChars p cs = [] ↔ ∀ c ∈ cs, p c := by
  rw [trimChars, dropEnd, List.reverse_eq_nil_iff, List.dropWhile_eq_nil_iff]
  constructor
  · intro blank
    -- what is left in front would start with a character outside the class
    have gone : cs.dropWhile p = [] := by
      cases rest : cs.dropWhile p with
      | nil => rfl
      | cons c more =>
        have first := List.head?_dropWhile_not p cs
        rw [rest] at first
        have inside := blank c (by rw [rest]; simp)
        simp [inside] at first
    exact List.dropWhile_eq_nil_iff.mp gone
  · intro blank c member
    rw [List.dropWhile_eq_nil_iff.mpr blank] at member
    cases member

theorem trim_eq_empty {s : String} : trim s = "" ↔ Blank s := by
  rw [trim, Blank, ← trimChars_eq_nil, ← String.toList_inj, String.toList_ofList]
  rfl

theorem comma_not_blank : isBlank ',' = false := by decide

theorem Blank.code {s : String} (blank : Blank s) : ',' ∉ s.toList := by
  intro member
  have wrong := blank ',' member
  rw [comma_not_blank] at wrong
  cases wrong

variable {separator : Char}

theorem pieces_ne_nil (separator : Char) (cs : List Char) : pieces separator cs ≠ [] := by
  cases cs with
  | nil => simp [pieces]
  | cons c rest =>
    simp only [pieces, List.foldr_cons]
    split
    · simp
    · split <;> simp

theorem pieces_cons (separator c : Char) (cs : List Char) :
    ∃ piece more, pieces separator cs = piece :: more ∧
      pieces separator (c :: cs) = if c = separator then [] :: piece :: more else (c :: piece) :: more := by
  obtain ⟨piece, more, found⟩ := List.exists_cons_of_ne_nil (pieces_ne_nil separator cs)
  refine ⟨piece, more, found, ?_⟩
  rw [pieces] at found ⊢
  rw [List.foldr_cons, found]

theorem pieces_append_separator (separator : Char) (cs more : List Char) :
    pieces separator (cs ++ separator :: more) = pieces separator cs ++ pieces separator more := by
  induction cs with
  | nil => simp [pieces]
  | cons c rest ih =>
    obtain ⟨piece, others, found, step⟩ := pieces_cons separator c rest
    obtain ⟨piece', others', found', step'⟩ := pieces_cons separator c (rest ++ separator :: more)
    rw [ih, found, List.cons_append, List.cons.injEq] at found'
    obtain ⟨rfl, rfl⟩ := found'
    rw [List.cons_append, step', step]
    split <;> rfl

theorem pieces_alone {cs : List Char} (alone : separator ∉ cs) : pieces separator cs = [cs] := by
  induction cs with
  | nil => rfl
  | cons c rest ih =>
    rw [List.mem_cons, not_or] at alone
    obtain ⟨piece, more, found, step⟩ := pieces_cons separator c rest
    rw [ih alone.2, List.cons.injEq] at found
    obtain ⟨rfl, rfl⟩ := found
    rw [step, if_neg (Ne.symm alone.1)]

theorem forall_mem_pieces {p : Char → Prop} {cs : List Char} :
    (∀ piece ∈ pieces separator cs, ∀ c ∈ piece, p c) ↔ ∀ c ∈ cs, c = separator ∨ p c := by
  induction cs with
  | nil => simp [pieces]
  | cons c rest ih =>
    obtain ⟨piece, more, found, step⟩ := pieces_cons separator c rest
    rw [found] at ih
    rw [step, List.forall_mem_cons, ← ih]
    by_cases cut : c = separator
    · simp [cut]
    · simp [cut, and_assoc]

end TemplateCompiler.Text
