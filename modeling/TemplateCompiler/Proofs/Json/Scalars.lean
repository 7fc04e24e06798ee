import TemplateCompiler.Json.Printer
import TemplateCompiler.Proofs.Number.Notation
import TemplateCompiler.Proofs.Text.Literal
import TemplateCompiler.Value.Integer

namespace TemplateCompiler.Json

variable {limited : Bool} {fuel room n : Nat} {done : List Value} {cs rest : List Char} {c : Char} {v : Value}

/-! Numbers -/

/-- A number that stands before these characters ends there. -/
def Stops (rest : List Char) : Prop := ∀ c ∈ rest.head?, isDigit c = false ∧ c ≠ '.' ∧ c ≠ 'e' ∧ c ≠ 'E'

theorem isDigit_of_mem_toDigits (member : c ∈ Nat.toDigits 10 n) : isDigit c = true := by
  have digit : c.isDigit = true := Nat.isDigit_of_mem_toDigits (by decide) (by decide) member
  simpa [isDigit, Char.isDigit, Char.le_def] using digit

theorem digitsValue_toDigits (n : Nat) : digitsValue (Nat.toDigits 10 n) = n :=
  Nat.ofDigitChars_toDigits (by decide) (by decide)

theorem digitChar_ne_zero : ∀ d < 10, d ≠ 0 → Nat.digitChar d ≠ '0' := by decide

theorem head_toDigits_ne_zero (n : Nat) (positive : n ≠ 0) : (Nat.toDigits 10 n).head? ≠ some '0' := by
  induction n using Nat.strongRecOn with
  | ind n ih =>
    by_cases small : n < 10
    · rw [Nat.toDigits_of_lt_base small, List.head?_cons]
      exact fun same => digitChar_ne_zero n small positive (Option.some.inj same)
    · have front := ih (n / 10) (by omega) (by omega)
      obtain ⟨d, more, digits⟩ := List.exists_cons_of_ne_nil (Nat.toDigits_ne_nil (n := n / 10) (b := 10))
      rw [Nat.toDigits_of_base_le (by decide) (by omega), digits]
      rwa [digits] at front

theorem span_digits (stops : Stops rest) {digits : List Char} (all : ∀ c ∈ digits, isDigit c = true) :
    (digits ++ rest).takeWhile isDigit = digits ∧ (digits ++ rest).dropWhile isDigit = rest := by
  have ends : rest.takeWhile isDigit = [] ∧ rest.dropWhile isDigit = rest := by
    cases rest with
    | nil => exact ⟨rfl, rfl⟩
    | cons c more =>
      have other := (stops c rfl).1
      simp [other]
  rw [List.takeWhile_append_of_pos all, List.dropWhile_append_of_pos all, ends.1, ends.2, List.append_nil]
  exact ⟨rfl, rfl⟩

theorem wholeDigits_toDigits (stops : Stops rest) (n : Nat) :
    wholeDigits (Nat.toDigits 10 n ++ rest) = (Nat.toDigits 10 n, rest) := by
  by_cases zero : n = 0
  · subst zero
    rfl
  · obtain ⟨first, rest'⟩ := span_digits stops fun c => isDigit_of_mem_toDigits (n := n)
    have front := head_toDigits_ne_zero n zero
    obtain ⟨d, more, digits⟩ := List.exists_cons_of_ne_nil (Nat.toDigits_ne_nil (n := n) (b := 10))
    rw [digits] at front first rest' ⊢
    have other : d ≠ '0' := fun same => front (congrArg some same)
    simp only [List.cons_append] at first rest' ⊢
    unfold wholeDigits
    split
    · rename_i same
      exact absurd (List.cons.inj same).1 other
    · rw [first, rest']

theorem fraction_of_stops (stops : Stops rest) : fraction rest = ([], rest) := by
  cases rest with
  | nil => rfl
  | cons c more =>
    have other := (stops c rfl).2.1
    unfold fraction
    split
    · rename_i same
      exact absurd (List.cons.inj same).1 other
    · rfl

theorem exponent?_of_stops (stops : Stops rest) : exponent? rest = none := by
  cases rest with
  | nil => rfl
  | cons c more =>
    obtain ⟨-, -, small, big⟩ := stops c rfl
    simp [exponent?, small, big]

theorem readNumber_toDigits (stops : Stops rest) (start : List Char) (negative : Bool) (n : Nat) :
    readNumber limited start negative (Nat.toDigits 10 n ++ rest) =
      if limited && digitLimit < (Nat.toDigits 10 n).length then .error (.tooManyDigits (Nat.toDigits 10 n).length)
      else .ok (.int (if negative then -(n : Int) else n), rest) := by
  have some_digit : (Nat.toDigits 10 n).isEmpty = false := by simp
  simp only [readNumber, wholeDigits_toDigits stops, fraction_of_stops stops, exponent?_of_stops stops, some_digit,
    digitsValue_toDigits]
  rfl

def digitCount (n : Int) : Nat := (Nat.toDigits 10 n.natAbs).length

def isTooLong (limited : Bool) (n : Int) : Bool := limited && digitLimit < digitCount n

/-! Integers that are read under the limit keep to it. Only those can be longer that were never read. -/

theorem digitCount_le {m size : Nat} {z : Int} (same : z.natAbs = m) (small : m < 10 ^ size) (few : size ≤ digitLimit) :
    digitCount z ≤ digitLimit := by
  rw [digitCount, same]
  exact (Nat.length_toDigits_le_iff (by decide) (by decide)).mpr (small.trans_le (Nat.pow_le_pow_right (by decide) few))

theorem isDigit_of_mem_wholeDigits (member : c ∈ (wholeDigits cs).1) : isDigit c = true := by
  unfold wholeDigits at member
  split at member
  · rw [List.mem_singleton.mp member]
    rfl
  · exact List.all_eq_true.mp List.all_takeWhile c member

theorem digitCount_of_readNumber {start : List Char} {negative : Bool} {z : Int}
    (read : readNumber true start negative cs = .ok (.int z, rest)) : digitCount z ≤ digitLimit := by
  have digits (c : Char) (member : c ∈ (wholeDigits cs).1) : c.toNat - 48 < 10 := by
    have digit := isDigit_of_mem_wholeDigits member
    simp only [isDigit, Bool.and_eq_true, decide_eq_true_eq, Char.le_def] at digit
    have upper : c.toNat ≤ 57 := digit.2
    omega
  have small : digitsValue (wholeDigits cs).1 < 10 ^ (wholeDigits cs).1.length := by
    simpa [digitsValue] using foldl_digits_lt digits 0
  simp only [readNumber] at read
  split at read
  · cases read
  · split at read
    · split at read
      · cases read
      · rename_i fits
        have same : z.natAbs = digitsValue (wholeDigits cs).1 := by
          cases read
          split <;> simp
        exact digitCount_le same small (by simpa using fits)
    all_goals cases read

theorem digitValue?_lt {d : Nat} (digit : Text.digitValue? c = some d) : d < 10 := by
  simp only [Text.digitValue?, Option.map_eq_some_iff] at digit
  obtain ⟨first, found, rfl⟩ := digit
  have inside := List.find?_some found
  simp only [Bool.and_eq_true, decide_eq_true_eq] at inside
  omega

theorem value_lt (run : List Char) :
    Numeral.value (run.filterMap Text.digitValue?) < 10 ^ (run.filterMap Text.digitValue?).length := by
  have digits (d : Nat) (member : d ∈ run.filterMap Text.digitValue?) : d < 10 := by
    obtain ⟨c, -, digit⟩ := List.mem_filterMap.mp member
    exact digitValue?_lt digit
  simpa [Numeral.value] using foldl_digits_lt digits 0

theorem digitCount_of_toInt {s : String} {z : Int} (read : Numeral.toInt s = .ok z) : digitCount z ≤ digitLimit := by
  simp only [Numeral.toInt] at read
  split at read
  · cases read
  · split at read
    · cases read
    · rename_i fits
      split at read
      · cases read
      · refine digitCount_le ?_ (value_lt _) (Nat.not_lt.mp fits)
        cases read
        split <;> simp

theorem toDigits_cons (n : Nat) : ∃ d more, Nat.toDigits 10 n = d :: more ∧ isDigit d = true := by
  obtain ⟨d, more, digits⟩ := List.exists_cons_of_ne_nil (Nat.toDigits_ne_nil (n := n) (b := 10))
  exact ⟨d, more, digits, isDigit_of_mem_toDigits (n := n) (by rw [digits]; exact List.mem_cons_self)⟩

theorem readAtom_digits {d : Char} (digit : isDigit d = true) (more : List Char) :
    readAtom limited (d :: more) = readNumber limited (d :: more) false (d :: more) := by
  have no_word : namedValues.find? (fun w => w.1.isPrefixOf (d :: more)) = none := by
    have letter (c : Char) (word : List Char) (other : isDigit c = false) :
        (c :: word).isPrefixOf (d :: more) = false := by
      have different : c ≠ d := by
        rintro rfl
        rw [digit] at other
        cases other
      simp [List.isPrefixOf, different]
    rw [List.find?_eq_none]
    intro w member
    rw [Bool.not_eq_true]
    simp only [namedValues, List.mem_cons, List.not_mem_nil, or_false] at member
    rcases member with rfl | rfl | rfl | rfl | rfl | rfl <;> exact letter _ _ (by decide)
  have unsigned : d ≠ '-' := by
    rintro rfl
    cases digit
  simp only [readAtom, no_word]
  split
  · rename_i same
    exact absurd (List.cons.inj same).1 unsigned
  · rfl

theorem readAtom_negative {d : Char} (digit : isDigit d = true) (more : List Char) :
    readAtom limited ('-' :: d :: more) = readNumber limited ('-' :: d :: more) true (d :: more) := by
  have no_word : namedValues.find? (fun w => w.1.isPrefixOf ('-' :: d :: more)) = none := by
    have different : 'I' ≠ d := by
      rintro rfl
      cases digit
    simp [namedValues, List.isPrefixOf, different]
  simp only [readAtom, no_word]

theorem readAtom_integer (stops : Stops rest) (n : Int) :
    readAtom limited ((integerText n).toList ++ rest) =
      if isTooLong limited n then .error (.tooManyDigits (digitCount n)) else .ok (.int n, rest) := by
  cases n with
  | ofNat n =>
    obtain ⟨d, more, digits, digit⟩ := toDigits_cons n
    rw [toList_ofNat, digits, List.cons_append, readAtom_digits digit, ← List.cons_append, ← digits,
      readNumber_toDigits stops]
    rfl
  | negSucc n =>
    obtain ⟨d, more, digits, digit⟩ := toDigits_cons (n + 1)
    rw [toList_negSucc, List.cons_append, digits, List.cons_append, readAtom_negative digit, ← List.cons_append,
      ← digits, readNumber_toDigits stops]
    rfl

theorem integerText_cons (n : Int) : ∃ c more, (integerText n).toList = c :: more ∧ c ≠ '"' ∧ c ≠ '[' ∧ c ≠ '\x7b' ∧
    isSpace c = false := by
  have plain {d : Char} (digit : isDigit d = true) : d ≠ '"' ∧ d ≠ '[' ∧ d ≠ '\x7b' ∧ isSpace d = false := by
    have other {c : Char} (wrong : isDigit c = false) : d ≠ c := by
      rintro rfl
      rw [digit] at wrong
      cases wrong
    have blank : isSpace d = false := by
      simp only [isSpace, Bool.or_eq_false_iff, decide_eq_false_iff_not]
      exact ⟨⟨⟨other (by decide), other (by decide)⟩, other (by decide)⟩, other (by decide)⟩
    exact ⟨other (by decide), other (by decide), other (by decide), blank⟩
  cases n with
  | ofNat n =>
    obtain ⟨d, more, digits, digit⟩ := toDigits_cons n
    exact ⟨d, more, (toList_ofNat n).trans digits, plain digit⟩
  | negSucc n => exact ⟨'-', Nat.toDigits 10 (n + 1), toList_negSucc n, by decide⟩

theorem literal_cons (s : String) : ∃ more, (Text.literal s).toList = '"' :: more :=
  ⟨Text.literalBody s.toList ++ ['"'], by simp [Text.literal]⟩

theorem skipSpace_cons (dense : isSpace c = false) (cs : List Char) : skipSpace (c :: cs) = c :: cs := by
  simp [skipSpace, dense]

theorem skipSpace_literal (s : String) (rest : List Char) :
    skipSpace ((Text.literal s).toList ++ rest) = (Text.literal s).toList ++ rest := by
  obtain ⟨more, spelled⟩ := literal_cons s
  rw [spelled]
  exact skipSpace_cons (by decide) _

theorem skipSpace_integer (n : Int) (rest : List Char) :
    skipSpace ((integerText n).toList ++ rest) = (integerText n).toList ++ rest := by
  obtain ⟨c, more, spelled, -, -, -, dense⟩ := integerText_cons n
  rw [spelled]
  exact skipSpace_cons dense _

/-! Values -/

theorem readValue_literal (limited : Bool) (fuel room : Nat) (s : String) (rest : List Char) :
    readValue limited (fuel + 1) room ((Text.literal s).toList ++ rest) = .ok (.text s, rest) := by
  have spelled : (Text.literal s).toList ++ rest = '"' :: (Text.literalBody s.toList ++ '"' :: rest) := by
    simp [Text.literal]
  rw [spelled, readValue, readText_literalBody]
  simp [bind, Except.bind, pure, Except.pure]

theorem readValue_atom (noText : c ≠ '"') (noList : c ≠ '[') (noRecord : c ≠ '\x7b') (cs : List Char) :
    readValue limited (fuel + 1) room (c :: cs) = readAtom limited (c :: cs) := by
  rw [readValue]
  · exact fun _ same => noText (List.cons.inj same).1
  · exact fun _ same => noList (List.cons.inj same).1
  · exact fun _ same => noRecord (List.cons.inj same).1

theorem readValue_integer (limited : Bool) (fuel room : Nat) (stops : Stops rest) (n : Int) :
    readValue limited (fuel + 1) room ((integerText n).toList ++ rest) =
      if isTooLong limited n then .error (.tooManyDigits (digitCount n)) else .ok (.int n, rest) := by
  obtain ⟨c, more, spelled, noText, noList, noRecord, -⟩ := integerText_cons n
  rw [← readAtom_integer stops, spelled, List.cons_append]
  exact readValue_atom noText noList noRecord _

theorem readItems_comma (item : readValue limited fuel room cs = .ok (v, ',' :: rest)) (dense : skipSpace rest = rest) :
    readItems limited (fuel + 1) room done cs = readItems limited fuel room (v :: done) rest := by
  have comma : skipSpace (',' :: rest) = ',' :: rest := rfl
  rw [readItems, item]
  simp only [bind, Except.bind, comma, dense]

theorem readItems_last (item : readValue limited fuel room cs = .ok (v, ']' :: rest)) :
    readItems limited (fuel + 1) room done cs = .ok (.list (v :: done).reverse, rest) := by
  have bracket : skipSpace (']' :: rest) = ']' :: rest := rfl
  rw [readItems, item]
  simp only [bind, Except.bind, bracket, pure, Except.pure]

theorem readItems_error {flaw : Flaw} (item : readValue limited fuel room cs = .error flaw) :
    readItems limited (fuel + 1) room done cs = .error flaw := by
  rw [readItems, item]
  rfl

theorem readValue_list (filled : ∀ more, cs ≠ ']' :: more) (dense : skipSpace cs = cs) :
    readValue limited (fuel + 1) (room + 1) ('[' :: cs) = readItems limited fuel room [] cs := by
  rw [readValue.eq_def]
  simp only [dense]

/-! Whole texts -/

theorem readWith_eq {s : String} (start : s.toList = c :: cs) (dense : isSpace c = false) (unmarked : c ≠ '\ufeff')
    (unbroken : half? s.toList = none) (result : Except Flaw Value)
    (value : readValue limited (2 * s.toList.length + 2) nestingLimit s.toList = result.map fun v => (v, [])) :
    readWith limited s = result.mapError (Flaw.fault s.toList) := by
  have first : s.toList.head? = some c := by rw [start, List.head?_cons]
  have noMark : ¬ s.toList.head? = some '\ufeff' := fun same => unmarked (Option.some.inj (first.symm.trans same))
  have next : skipSpace s.toList = s.toList := by
    rw [start]
    exact skipSpace_cons dense cs
  have nothing : skipSpace [] = [] := rfl
  rw [readWith, readAll, next, value, if_neg noMark, unbroken]
  cases result <;> rfl

/-- A document with half of a pair in it has no value. -/
theorem readWith_of_half (limited : Bool) {s : String} {unit : Nat} (broken : half? s.toList = some unit) :
    ∃ fault, readWith limited s = .error fault := by
  cases read : readWith limited s with
  | error fault => exact ⟨fault, rfl⟩
  | ok v =>
    rw [readWith, readAll, broken] at read
    split at read
    · cases read
    · cases value : readValue limited (2 * s.toList.length + 2) nestingLimit (skipSpace s.toList) with
      | error flaw =>
        rw [value] at read
        cases read
      | ok part =>
        rw [value] at read
        simp only [bind, Except.bind] at read
        split at read <;> cases read

theorem read_literal (s : String) : read (Text.literal s) = .ok (.text s) := by
  obtain ⟨more, start⟩ := literal_cons s
  have value := readValue_literal true (2 * (Text.literal s).toList.length + 1) nestingLimit s []
  have unbroken := half?_literal s []
  rw [List.append_nil] at value unbroken
  exact readWith_eq start (by decide) (by decide) unbroken (.ok (.text s)) value

theorem half?_integer (n : Int) (rest : List Char) : half? ((integerText n).toList ++ rest) = half? rest := by
  apply half?_append
  rintro _ member rfl
  rcases mem_integerText member with sign | digit
  · cases sign
  · cases digit

def tripleText (first : String) (n : Int) (last : String) : String :=
  "[" ++ Text.literal first ++ "," ++ integerText n ++ "," ++ Text.literal last ++ "]"

theorem readItems_triple (fuel room : Nat) (first : String) (n : Int) (last : String) :
    readItems limited (fuel + 4) room []
        ((Text.literal first).toList ++ ',' :: ((integerText n).toList ++ ',' ::
          ((Text.literal last).toList ++ [']']))) =
      if isTooLong limited n then .error (.tooManyDigits (digitCount n))
      else .ok (.list [.text first, .int n, .text last], []) := by
  have stops (cs : List Char) : Stops (',' :: cs) := by
    rintro _ ⟨⟩
    decide
  have number := readValue_integer limited (fuel + 1) room (stops ((Text.literal last).toList ++ [']'])) n
  rw [readItems_comma (readValue_literal _ _ _ first _) (skipSpace_integer n _)]
  by_cases long : isTooLong limited n
  · rw [if_pos long] at number ⊢
    exact readItems_error number
  · rw [if_neg long] at number ⊢
    rw [readItems_comma number (skipSpace_literal last _)]
    exact readItems_last (readValue_literal _ _ _ last _)

theorem readWith_triple (limited : Bool) (first : String) (n : Int) (last : String) :
    readWith limited (tripleText first n last) =
      if isTooLong limited n then .error (.tooManyDigits (digitCount n))
      else .ok (.list [.text first, .int n, .text last]) := by
  let body := (Text.literal first).toList ++ ',' :: ((integerText n).toList ++ ',' ::
    ((Text.literal last).toList ++ [']']))
  have start : (tripleText first n last).toList = '[' :: body := by simp [tripleText, body]
  have filled (more : List Char) : body ≠ ']' :: more := by
    obtain ⟨rest, begins⟩ := literal_cons first
    simp [body, begins]
  have value : readValue limited (2 * (tripleText first n last).toList.length + 2) nestingLimit
      (tripleText first n last).toList = (if isTooLong limited n then .error (.tooManyDigits (digitCount n))
        else .ok (.list [.text first, .int n, .text last]) : Except Flaw Value).map fun v => (v, []) := by
    obtain ⟨fuel, enough⟩ : ∃ fuel, 2 * ('[' :: body).length + 2 = fuel + 5 := by
      have long : 1 ≤ body.length := by
        simp only [body, List.length_append, List.length_cons]
        omega
      exact ⟨2 * body.length - 1, by rw [List.length_cons]; omega⟩
    rw [start, enough, nestingLimit, readValue_list filled (skipSpace_literal first _), readItems_triple]
    split <;> rfl
  have unbroken : half? (tripleText first n last).toList = none := by
    simp only [start, body]
    rw [half?_cons (by decide), half?_literal, half?_cons (by decide), half?_integer, half?_cons (by decide),
      half?_literal]
    rfl
  rw [readWith_eq start (by decide) (by decide) unbroken _ value]
  split <;> rfl

theorem readUnlimited_triple (first : String) (n : Int) (last : String) :
    readUnlimited (tripleText first n last) = .ok (.list [.text first, .int n, .text last]) :=
  readWith_triple false first n last

theorem read_triple {n : Int} (short : digitCount n ≤ digitLimit) (first last : String) :
    read (tripleText first n last) = .ok (.list [.text first, .int n, .text last]) := by
  have fits : isTooLong true n = false := by simp [isTooLong, short]
  rw [read, readWith_triple, fits]
  rfl

theorem texts_begin (first : String) (others : List String) :
    ∃ more, (String.intercalate "," ((first :: others).map Text.literal)).toList =
      (Text.literal first).toList ++ more := by
  cases others with
  | nil => exact ⟨[], by simp⟩
  | cons next rest =>
    rw [List.map_cons, String.intercalate_cons_of_ne_nil (by simp), String.toList_append, String.toList_append,
      List.append_assoc]
    exact ⟨_, rfl⟩

theorem length_le_of_texts (texts : List String) :
    texts.length ≤ (String.intercalate "," (texts.map Text.literal)).toList.length := by
  induction texts with
  | nil => simp
  | cons first others ih =>
    obtain ⟨inner, quote⟩ := literal_cons first
    cases others with
    | nil => simp [quote]
    | cons next rest =>
      rw [List.map_cons, String.intercalate_cons_of_ne_nil (by simp), String.toList_append, String.toList_append,
        List.length_append, List.length_append, quote]
      have comma : (",".toList).length = 1 := by decide
      simp only [List.length_cons] at ih ⊢
      omega

theorem half?_texts (texts : List String) (rest : List Char) :
    half? ((String.intercalate "," (texts.map Text.literal)).toList ++ rest) = half? rest := by
  induction texts with
  | nil => rfl
  | cons first others ih =>
    cases others with
    | nil =>
      rw [List.map_singleton, String.intercalate_singleton]
      exact half?_literal first rest
    | cons next more =>
      rw [List.map_cons, String.intercalate_cons_of_ne_nil (by simp), String.toList_append, String.toList_append,
        List.append_assoc, List.append_assoc, half?_literal]
      exact (half?_cons (by decide) _).trans ih

/-- Each text takes one part of the fuel, and one more is there for the last. -/
theorem readItems_texts (fuel room : Nat) (done : List Value) (first : String) (others : List String) :
    readItems limited (fuel + others.length + 2) room done
        ((String.intercalate "," ((first :: others).map Text.literal)).toList ++ [']']) =
      .ok (.list (done.reverse ++ (first :: others).map .text), []) := by
  induction others generalizing first done with
  | nil =>
    have last : readItems limited (fuel + 2) room done ((Text.literal first).toList ++ [']']) =
        .ok (.list (.text first :: done).reverse, []) := readItems_last (readValue_literal _ _ _ first _)
    simpa using last
  | cons next rest ih =>
    have spelled : (String.intercalate "," ((first :: next :: rest).map Text.literal)).toList ++ [']'] =
        (Text.literal first).toList ++
          ',' :: ((String.intercalate "," ((next :: rest).map Text.literal)).toList ++ [']']) := by
      rw [List.map_cons, String.intercalate_cons_of_ne_nil (by simp)]
      simp
    have dense : skipSpace ((String.intercalate "," ((next :: rest).map Text.literal)).toList ++ [']']) =
        (String.intercalate "," ((next :: rest).map Text.literal)).toList ++ [']'] := by
      obtain ⟨more, begins⟩ := texts_begin next rest
      rw [begins, List.append_assoc]
      exact skipSpace_literal next _
    rw [spelled, List.length_cons, readItems_comma (readValue_literal _ _ _ first _) dense]
    apply (ih (.text first :: done) next).trans
    simp

theorem read_texts {texts : List String} (filled : texts ≠ []) :
    read ("[" ++ String.intercalate "," (texts.map Text.literal) ++ "]") = .ok (.list (texts.map .text)) := by
  obtain ⟨first, others, rfl⟩ := List.exists_cons_of_ne_nil filled
  let body := (String.intercalate "," ((first :: others).map Text.literal)).toList ++ [']']
  have start : ("[" ++ String.intercalate "," ((first :: others).map Text.literal) ++ "]").toList = '[' :: body := by
    simp [body]
  obtain ⟨more, begins⟩ := texts_begin first others
  have item : body = (Text.literal first).toList ++ (more ++ [']']) := by simp only [body, begins, List.append_assoc]
  have filled (rest : List Char) : body ≠ ']' :: rest := by
    obtain ⟨inner, quote⟩ := literal_cons first
    simp [item, quote]
  have dense : skipSpace body = body := by
    rw [item]
    exact skipSpace_literal first _
  have value : readValue true (2 * ('[' :: body).length + 2) nestingLimit ('[' :: body) =
      .ok (.list ((first :: others).map .text), []) := by
    obtain ⟨fuel, enough⟩ : ∃ fuel, 2 * ('[' :: body).length + 2 = fuel + others.length + 2 + 1 := by
      have long := length_le_of_texts (first :: others)
      simp only [List.length_cons] at long
      refine ⟨2 * ('[' :: body).length - 1 - others.length, ?_⟩
      simp only [body, List.length_cons, List.length_append]
      omega
    rw [enough, nestingLimit, readValue_list filled dense]
    exact readItems_texts fuel 989 [] first others
  have unbroken : half? ("[" ++ String.intercalate "," ((first :: others).map Text.literal) ++ "]").toList = none := by
    rw [start, half?_cons (by decide), half?_texts]
    rfl
  exact readWith_eq start (by decide) (by decide) unbroken (.ok (.list ((first :: others).map .text)))
    (start ▸ value)

end TemplateCompiler.Json
