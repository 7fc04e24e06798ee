import TemplateCompiler.Json.Reader
import TemplateCompiler.Text.Literal

namespace TemplateCompiler

namespace Text

def IsPlain (c : Char) : Prop := ' ' ≤ c ∧ c ≤ '~'

instance (c : Char) : Decidable (IsPlain c) := inferInstanceAs (Decidable (_ ∧ _))

theorem hex_one {n : Nat} (small : n < 16) : hex 1 n = [n.digitChar] := by
  simp [hex, Nat.toDigits_of_lt_base small]

theorem hex_succ {width : Nat} (wide : 0 < width) (n : Nat) :
    hex (width + 1) n = hex width (n / 16) ++ [(n % 16).digitChar] := by
  by_cases small : n < 16
  · have top : n / 16 = 0 := Nat.div_eq_of_lt small
    have zero : Nat.toDigits 16 0 = ['0'] := rfl
    obtain ⟨rest, rfl⟩ : ∃ rest, width = rest + 1 := ⟨width - 1, by omega⟩
    simp only [hex, top, zero, Nat.toDigits_of_lt_base small, Nat.mod_eq_of_lt small, List.length_singleton,
      Nat.add_sub_cancel, List.replicate_succ']
  · have digits : Nat.toDigits 16 n = Nat.toDigits 16 (n / 16) ++ [(n % 16).digitChar] :=
      Nat.toDigits_of_base_le (by decide) (by omega)
    have missing : width + 1 - (Nat.toDigits 16 n).length = width - (Nat.toDigits 16 (n / 16)).length := by
      rw [digits, List.length_append, List.length_singleton]
      omega
    simp only [hex, missing]
    rw [digits, List.append_assoc]

theorem hex_four {unit : Nat} (small : unit < 0x10000) :
    hex 4 unit = [(unit / 4096).digitChar, (unit / 256 % 16).digitChar, (unit / 16 % 16).digitChar,
      (unit % 16).digitChar] := by
  have top : unit / 16 / 16 / 16 < 16 := by omega
  have first : unit / 16 / 16 / 16 = unit / 4096 := by omega
  have second : unit / 16 / 16 = unit / 256 := by omega
  rw [hex_succ (by decide), hex_succ (by decide), hex_succ (by decide), hex_one top, first, second]
  rfl

theorem digitChar_plain : ∀ d < 16, IsPlain (Nat.digitChar d) ∧ Nat.digitChar d ≠ '"' ∧ Nat.digitChar d ≠ '\\' := by
  decide

end Text

namespace Json

open Text

theorem hexValue?_digitChar : ∀ d < 16, hexValue? (Nat.digitChar d) = some d := by decide

theorem unit?_hex {unit : Nat} (small : unit < 0x10000) :
    ∃ a b c d, hex 4 unit = [a, b, c, d] ∧ unit? a b c d = some unit := by
  have first := hexValue?_digitChar (unit / 4096) (by omega)
  have second := hexValue?_digitChar (unit / 256 % 16) (by omega)
  have third := hexValue?_digitChar (unit / 16 % 16) (by omega)
  have fourth := hexValue?_digitChar (unit % 16) (by omega)
  refine ⟨_, _, _, _, hex_four small, ?_⟩
  have whole : 4096 * (unit / 4096) + 256 * (unit / 256 % 16) + 16 * (unit / 16 % 16) + unit % 16 = unit := by omega
  simp only [unit?, first, second, third, fourth]
  exact congrArg some whole

variable {opening done rest : List Char}

theorem readText_quote (opening done rest : List Char) :
    readText opening done ('"' :: rest) = .ok (done.reverse, rest) := by
  rw [readText.eq_def]
  rfl

theorem readText_short {c letter : Char} (noUnit : letter ≠ 'u') (meaning : unescape? letter = some c) :
    readText opening done ('\\' :: letter :: rest) = readText opening (c :: done) rest := by
  rw [readText.eq_def]
  simp [noUnit, meaning]

theorem readText_printed {c : Char} (noQuote : c ≠ '"') (noBackslash : c ≠ '\\') (printed : ¬ c < ' ') :
    readText opening done (c :: rest) = readText opening (c :: done) rest := by
  rw [readText.eq_def]
  simp [noQuote, noBackslash, printed]

theorem readText_unit {unit : Nat} (small : unit < 0x10000) (alone : isHighSurrogate unit = false) (more : rest ≠ []) :
    readText opening done (unitEscape unit ++ rest) = readText opening (Char.ofNat unit :: done) rest := by
  obtain ⟨a, b, c, d, digits, value⟩ := unit?_hex small
  have left : rest.isEmpty = false := by simpa using more
  simp only [unitEscape, digits, List.cons_append, List.nil_append]
  rw [readText]
  simp only [value, left, alone]
  simp
  split <;> rfl

theorem surrogate_lt {unit : Nat} (half : isHighSurrogate unit = true ∨ isLowSurrogate unit = true) :
    unit < 0x10000 := by
  simp only [isHighSurrogate, isLowSurrogate, Bool.and_eq_true, decide_eq_true_eq] at half
  omega

theorem readText_pair {high low : Nat} (isHigh : isHighSurrogate high = true) (isLow : isLowSurrogate low = true)
    (more : rest ≠ []) :
    readText opening done (unitEscape high ++ (unitEscape low ++ rest)) =
      readText opening (pairChar high low :: done) rest := by
  obtain ⟨a, b, c, d, digits, value⟩ := unit?_hex (surrogate_lt (.inl isHigh))
  obtain ⟨a', b', c', d', digits', value'⟩ := unit?_hex (surrogate_lt (.inr isLow))
  have left : rest.isEmpty = false := by simpa using more
  simp only [unitEscape, digits, digits', List.cons_append, List.nil_append]
  rw [readText]
  simp [value, value', left, isHigh, isLow]

theorem shortEscape?_cases {c letter : Char} (short : shortEscape? c = some letter) :
    letter ≠ 'u' ∧ unescape? letter = some c ∧ IsPlain letter := by
  unfold shortEscape? at short
  repeat' split at short
  all_goals cases short
  all_goals subst_vars; decide

theorem shortEscape?_none {c : Char} (long : shortEscape? c = none) : c ≠ '"' ∧ c ≠ '\\' := by
  constructor <;> rintro rfl <;> cases long

theorem toNat_bounds (c : Char) : c.toNat < 0xd800 ∨ 0xdfff < c.toNat ∧ c.toNat < 0x110000 := c.valid

theorem surrogate_toNat (c : Char) : isHighSurrogate c.toNat = false ∧ isLowSurrogate c.toNat = false := by
  have bounds := toNat_bounds c
  simp only [isHighSurrogate, isLowSurrogate, Bool.and_eq_false_iff, decide_eq_false_iff_not]
  omega

theorem utf16Units_pair {c : Char} (wide : ¬ c.toNat < 0x10000) :
    ∃ high low, utf16Units c = [high, low] ∧ isHighSurrogate high = true ∧ isLowSurrogate low = true ∧
      pairChar high low = c := by
  have bounds := toNat_bounds c
  refine ⟨0xd800 + (c.toNat - 0x10000) / 0x400, 0xdc00 + (c.toNat - 0x10000) % 0x400, if_neg wide, ?_, ?_, ?_⟩
  · simp only [isHighSurrogate, Bool.and_eq_true, decide_eq_true_eq]
    omega
  · simp only [isLowSurrogate, Bool.and_eq_true, decide_eq_true_eq]
    omega
  · have whole : 0x10000 + 0x400 * (0xd800 + (c.toNat - 0x10000) / 0x400 - 0xd800) +
        (0xdc00 + (c.toNat - 0x10000) % 0x400 - 0xdc00) = c.toNat := by omega
    rw [pairChar, whole, Char.ofNat_toNat]

theorem readText_escape (c : Char) (more : rest ≠ []) :
    readText opening done (escapeLiteral c ++ rest) = readText opening (c :: done) rest := by
  unfold escapeLiteral
  cases short : shortEscape? c with
  | some letter =>
    obtain ⟨noUnit, meaning, -⟩ := shortEscape?_cases short
    exact readText_short noUnit meaning
  | none =>
    obtain ⟨noQuote, noBackslash⟩ := shortEscape?_none short
    by_cases plain : (decide (' ' ≤ c) && decide (c ≤ '~')) = true
    · have printed : ¬ c < ' ' := by
        simp only [Bool.and_eq_true, decide_eq_true_eq] at plain
        exact Char.not_lt.mpr plain.1
      rw [if_pos plain]
      exact readText_printed noQuote noBackslash printed
    · rw [if_neg plain]
      by_cases single : c.toNat < 0x10000
      · have noHigh := (surrogate_toNat c).1
        rw [utf16Units, if_pos single, List.flatMap_singleton, readText_unit single noHigh more, Char.ofNat_toNat]
      · -- the two halves of a pair give the character again
        obtain ⟨high, low, units, isHigh, isLow, same⟩ := utf16Units_pair single
        rw [units, List.flatMap_cons, List.flatMap_singleton, List.append_assoc,
          readText_pair isHigh isLow more, same]

theorem readText_escaped (more : rest ≠ []) (opening done cs : List Char) :
    readText opening done (literalBody cs ++ rest) = readText opening (cs.reverse ++ done) rest := by
  induction cs generalizing done with
  | nil => rfl
  | cons c cs ih =>
    have body : literalBody (c :: cs) = escapeLiteral c ++ literalBody cs := rfl
    rw [body, List.append_assoc, readText_escape c (List.append_ne_nil_of_right_ne_nil _ more), ih]
    simp

theorem readText_literalBody (opening done cs rest : List Char) :
    readText opening done (literalBody cs ++ '"' :: rest) = .ok (done.reverse ++ cs, rest) := by
  rw [readText_escaped (List.cons_ne_nil _ rest), readText_quote]
  simp

/-! A literal has no half of a pair in it -/

theorem half?_cons {c : Char} (other : c ≠ '\\') (rest : List Char) : half? (c :: rest) = half? rest := by
  rw [half?]
  all_goals simp [other]

theorem half?_append {cs : List Char} (clean : ∀ c ∈ cs, c ≠ '\\') (rest : List Char) :
    half? (cs ++ rest) = half? rest := by
  induction cs with
  | nil => rfl
  | cons c cs ih =>
    rw [List.forall_mem_cons] at clean
    rw [List.cons_append, half?_cons clean.1, ih clean.2]

theorem half?_unit {unit : Nat} (small : unit < 0x10000) (noHigh : isHighSurrogate unit = false)
    (noLow : isLowSurrogate unit = false) (rest : List Char) : half? (unitEscape unit ++ rest) = half? rest := by
  obtain ⟨a, b, c, d, digits, value⟩ := unit?_hex small
  simp only [unitEscape, digits, List.cons_append, List.nil_append]
  rw [half?]
  simp [value, noHigh, noLow]

theorem half?_pair {high low : Nat} (isHigh : isHighSurrogate high = true) (isLow : isLowSurrogate low = true)
    (rest : List Char) : half? (unitEscape high ++ (unitEscape low ++ rest)) = half? rest := by
  obtain ⟨a, b, c, d, digits, value⟩ := unit?_hex (surrogate_lt (.inl isHigh))
  obtain ⟨a', b', c', d', digits', value'⟩ := unit?_hex (surrogate_lt (.inr isLow))
  simp only [unitEscape, digits, digits', List.cons_append, List.nil_append]
  rw [half?]
  simp [value, value', isHigh, isLow]

theorem half?_escape (c : Char) (rest : List Char) : half? (escapeLiteral c ++ rest) = half? rest := by
  unfold escapeLiteral
  cases short : shortEscape? c with
  | some letter =>
    obtain ⟨noUnit, -, -⟩ := shortEscape?_cases short
    rw [List.cons_append, List.cons_append, List.nil_append, half?]
    all_goals simp [noUnit]
  | none =>
    by_cases plain : (decide (' ' ≤ c) && decide (c ≤ '~')) = true
    · rw [if_pos plain]
      exact half?_cons (shortEscape?_none short).2 rest
    · rw [if_neg plain]
      by_cases single : c.toNat < 0x10000
      · obtain ⟨noHigh, noLow⟩ := surrogate_toNat c
        rw [utf16Units, if_pos single, List.flatMap_singleton, half?_unit single noHigh noLow]
      · obtain ⟨high, low, units, isHigh, isLow, -⟩ := utf16Units_pair single
        rw [units, List.flatMap_cons, List.flatMap_singleton, List.append_assoc, half?_pair isHigh isLow]

theorem half?_literal (s : String) (rest : List Char) : half? ((literal s).toList ++ rest) = half? rest := by
  have body (cs : List Char) : half? (literalBody cs ++ '"' :: rest) = half? rest := by
    induction cs with
    | nil => exact half?_cons (by decide) rest
    | cons c cs ih =>
      rw [literalBody, List.flatMap_cons, List.append_assoc, half?_escape]
      exact ih
  rw [literal, String.toList_ofList, List.append_assoc, List.cons_append, half?_cons (by decide)]
  exact body s.toList

end Json

namespace Text

/-- Where two literals stand in the same place of the same text, they are of the same text and end together. -/
theorem literalBody_injective {cs cs' rest rest' : List Char}
    (same : literalBody cs ++ '"' :: rest = literalBody cs' ++ '"' :: rest') : cs = cs' ∧ rest = rest' := by
  have read := Json.readText_literalBody [] [] cs rest
  rw [same, Json.readText_literalBody] at read
  cases read
  exact ⟨rfl, rfl⟩

theorem hex_plain {unit : Nat} (small : unit < 0x10000) :
    ∀ x ∈ hex 4 unit, IsPlain x ∧ x ≠ '"' ∧ x ≠ '\\' := by
  rw [hex_four small]
  intro x member
  simp only [List.mem_cons, List.not_mem_nil, or_false] at member
  rcases member with rfl | rfl | rfl | rfl <;> exact digitChar_plain _ (by omega)

theorem utf16Units_small (c : Char) : ∀ unit ∈ utf16Units c, unit < 0x10000 := by
  have bounds := Json.toNat_bounds c
  intro unit member
  unfold utf16Units at member
  split at member <;> simp only [List.mem_cons, List.not_mem_nil, or_false] at member <;> omega

end Text

end TemplateCompiler
