import Mathlib.Tactic.Ring
import TemplateCompiler.Number.Notation

namespace TemplateCompiler

theorem integerText_eq (n : Int) : integerText n = toString n := rfl

theorem naturalText_injective {n m : Nat} (same : naturalText n = naturalText m) : n = m := by
  have digits : Nat.toDigits 10 n = Nat.toDigits 10 m := String.ofList_inj.mp same
  have read (k : Nat) : Nat.ofDigitChars 10 (Nat.toDigits 10 k) 0 = k :=
    Nat.ofDigitChars_toDigits (by decide) (by decide)
  rw [← read n, digits, read m]

theorem isDigit_of_mem_naturalText {n : Nat} {c : Char} (member : c ∈ (naturalText n).toList) : c.isDigit = true := by
  rw [naturalText, String.toList_ofList] at member
  exact Nat.isDigit_of_mem_toDigits (by decide) (by decide) member

theorem mem_integerText {n : Int} {c : Char} (member : c ∈ (integerText n).toList) : c = '-' ∨ c.isDigit = true := by
  cases n with
  | ofNat n => exact .inr (isDigit_of_mem_naturalText member)
  | negSucc n =>
    simp only [integerText, String.toList_append, List.mem_append] at member
    rcases member with sign | digit
    · exact .inl (by simpa using sign)
    · exact .inr (isDigit_of_mem_naturalText digit)

theorem naturalText_ne_negative (n m : Nat) : naturalText n ≠ "-" ++ naturalText m := by
  intro same
  have sign : '-' ∈ (naturalText n).toList := by rw [same]; simp
  have digit := isDigit_of_mem_naturalText sign
  exact absurd digit (by decide)

theorem integerText_injective {n m : Int} (same : integerText n = integerText m) : n = m := by
  cases n with
  | ofNat n =>
    cases m with
    | ofNat m => exact congrArg Int.ofNat (naturalText_injective same)
    | negSucc m => exact absurd same (naturalText_ne_negative n (m + 1))
  | negSucc n =>
    cases m with
    | ofNat m => exact absurd same.symm (naturalText_ne_negative m (n + 1))
    | negSucc m =>
      have digits : naturalText (n + 1) = naturalText (m + 1) := (String.append_right_inj "-").mp same
      exact congrArg Int.negSucc (Nat.succ.inj (naturalText_injective digits))

theorem toList_ofNat (n : Nat) : (integerText (.ofNat n)).toList = Nat.toDigits 10 n := String.toList_ofList

theorem toList_negSucc (n : Nat) : (integerText (.negSucc n)).toList = '-' :: Nat.toDigits 10 (n + 1) := by
  simp [integerText, naturalText]

/-- A number that is read digit by digit has no more digits than were read. -/
theorem foldl_digits_lt {α : Type} {digit : α → Nat} {xs : List α} (small : ∀ x ∈ xs, digit x < 10) (start : Nat) :
    xs.foldl (fun n x => 10 * n + digit x) start < (start + 1) * 10 ^ xs.length := by
  induction xs generalizing start with
  | nil => simp
  | cons x xs ih =>
    rw [List.forall_mem_cons] at small
    calc xs.foldl (fun n x => 10 * n + digit x) (10 * start + digit x)
        < (10 * start + digit x + 1) * 10 ^ xs.length := ih small.2 _
      _ ≤ (10 * (start + 1)) * 10 ^ xs.length := Nat.mul_le_mul_right _ (by omega)
      _ = (start + 1) * 10 ^ (xs.length + 1) := by ring

/-- Two lists with the same element in front of what is left are cut there in one way, if it is not seen before. -/
theorem cut_unique {α : Type} {mark : α} {front front' rest rest' : List α} (unseen : mark ∉ front)
    (unseen' : mark ∉ front') (same : front ++ mark :: rest = front' ++ mark :: rest') :
    front = front' ∧ rest = rest' := by
  -- the longer of two different fronts would have the mark in it
  rcases List.append_eq_append_iff.mp same with ⟨between, split, more⟩ | ⟨between, split, more⟩
  · cases between with
    | nil => exact ⟨by rw [split, List.append_nil], (List.cons.inj more).2⟩
    | cons a between =>
      have first : mark = a := (List.cons.inj more).1
      exact absurd (by rw [split, first]; simp) unseen'
  · cases between with
    | nil => exact ⟨by rw [split, List.append_nil], (List.cons.inj more).2.symm⟩
    | cons a between =>
      have first : mark = a := (List.cons.inj more).1
      exact absurd (by rw [split, first]; simp) unseen

end TemplateCompiler
