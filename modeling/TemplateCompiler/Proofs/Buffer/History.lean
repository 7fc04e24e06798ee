import Mathlib.Data.List.Induction
import TemplateCompiler.Proofs.Buffer.Operation

namespace TemplateCompiler.Buffer

namespace Operation

def isEnter : Operation → Bool
  | .enter _ => true
  | _ => false

def isLeave : Operation → Bool
  | .leave => true
  | _ => false

end Operation

/-- The names of the blocks that were started, in order. A block is told from others of its name by its place here. -/
def started (ops : List Operation) : List String :=
  ops.filterMap fun
    | .startBlock name _ => some name
    | _ => none

def latest (ops : List Operation) (name : String) : Option Nat := (started ops).zipIdx.reverse.lookup name

def enters (ops : List Operation) : Nat := ops.countP (·.isEnter)

def leaves (ops : List Operation) : Nat := ops.countP (·.isLeave)

/-- An enter lasts through the operations after it if at no point among them more blocks were left than entered. -/
def Lasts (later : List Operation) : Prop := ∀ n ≤ later.length, leaves (later.take n) ≤ enters (later.take n)

instance (later : List Operation) : Decidable (Lasts later) :=
  inferInstanceAs (Decidable (∀ n ≤ later.length, leaves (later.take n) ≤ enters (later.take n)))

/-- The places of the enters that were not left again, the innermost last. -/
def pending (ops : List Operation) : List Nat :=
  (List.range ops.length).filter fun k => (ops[k]?.any (·.isEnter)) && Lasts (ops.drop (k + 1))

/-- The block that the enter at a place made active: the latest of its name at that moment, if there was one. -/
def entered (ops : List Operation) (k : Nat) : Option Nat :=
  match ops[k]? with
  | some (.enter name) => latest (ops.take k) name
  | _ => none

def target (ops : List Operation) : Option Nat := (pending ops).getLast?.bind (entered ops)

/-- The text of a write, and of a line: the indent, the parts and the end of the line. -/
def emitted (b : Buffer) : Operation → Option String
  | .write parts => some (String.join parts)
  | .writeLine parts => some ((if b.unit?.isSome then b.indent else "") ++ String.join parts ++ "\n")
  | _ => none

def textsInto (b : Buffer) (ops : List Operation) (i : Nat) : List String :=
  (List.range ops.length).filterMap fun k =>
    if target (ops.take k) = some i then ops[k]?.bind (b.run (ops.take k)).emitted else none

variable {ops : List Operation} {op : Operation}

/-! Which enters are pending after one more operation. -/

/-- How many leaves have no enter before them to match. -/
def surplus : List Operation → Nat
  | [] => 0
  | op :: rest => if op.isEnter then surplus rest - 1 else if op.isLeave then surplus rest + 1 else surplus rest

theorem surplus_le_iff (ops : List Operation) (m : Nat) :
    surplus ops ≤ m ↔ ∀ n ≤ ops.length, leaves (ops.take n) ≤ enters (ops.take n) + m := by
  induction ops generalizing m with
  | nil => simp [surplus, leaves, enters]
  | cons op rest ih =>
    have split : (∀ n ≤ (op :: rest).length, leaves ((op :: rest).take n) ≤ enters ((op :: rest).take n) + m) ↔
        ∀ n ≤ rest.length, leaves (op :: rest.take n) ≤ enters (op :: rest.take n) + m := by
      constructor
      · intro all n bound
        simpa using all (n + 1) (by simpa using bound)
      · intro all n bound
        cases n with
        | zero => simp [leaves]
        | succ n => simpa using all n (by simpa using bound)
    rw [split]
    cases op with
    | enter name =>
      have stepped : surplus rest - 1 ≤ m ↔ surplus rest ≤ m + 1 := by omega
      simp only [surplus, Operation.isEnter, ↓reduceIte, stepped, ih]
      simp only [leaves, enters, List.countP_cons, Operation.isEnter, Operation.isLeave, ↓reduceIte]
      constructor <;> intro all n bound <;> have here := all n bound <;> simp at here ⊢ <;> omega
    | leave =>
      simp only [surplus, Operation.isEnter, Operation.isLeave, ↓reduceIte]
      cases m with
      | zero =>
        constructor
        · intro impossible
          simp at impossible
        · intro all
          have first := all 0 (Nat.zero_le _)
          simp [leaves, enters, Operation.isEnter, Operation.isLeave] at first
      | succ m =>
        simp only [Bool.false_eq_true, ↓reduceIte, Nat.add_le_add_iff_right, ih]
        simp only [leaves, enters, List.countP_cons, Operation.isEnter, Operation.isLeave, ↓reduceIte]
        constructor <;> intro all n bound <;> have here := all n bound <;> simp at here ⊢ <;> omega
    | _ =>
      simp [surplus, Operation.isEnter, Operation.isLeave, ih, leaves, enters]

theorem lasts_iff_surplus (ops : List Operation) : Lasts ops ↔ surplus ops = 0 := by
  have bound := surplus_le_iff ops 0
  simp only [Nat.le_zero, Nat.add_zero] at bound
  exact bound.symm

theorem pending_cons (op : Operation) (rest : List Operation) :
    pending (op :: rest) = (if op.isEnter ∧ Lasts rest then [0] else []) ++ (pending rest).map (· + 1) := by
  simp only [pending, List.length_cons, List.range_succ_eq_map, List.filter_cons, List.getElem?_cons_zero,
    Option.any_some, List.drop_succ_cons, List.drop_zero, List.filter_map]
  by_cases lasting : op.isEnter = true ∧ Lasts rest
  · simp [lasting, Function.comp_def]
  · have out : ¬ (op.isEnter && decide (Lasts rest)) = true := by simpa using lasting
    simp only [if_neg lasting, if_neg out, List.nil_append]
    simp [Function.comp_def]

theorem enters_add_surplus (ops : List Operation) : enters ops + surplus ops = leaves ops + (pending ops).length := by
  induction ops with
  | nil => rfl
  | cons op rest ih =>
    rw [pending_cons]
    have lasting := lasts_iff_surplus rest
    by_cases none : surplus rest = 0
    all_goals
      cases op <;> simp [enters, leaves, surplus, Operation.isEnter, Operation.isLeave, lasting, none] at ih ⊢ <;> omega

theorem lasts_concat (ops : List Operation) (op : Operation) :
    Lasts (ops ++ [op]) ↔ Lasts ops ∧ leaves (ops ++ [op]) ≤ enters (ops ++ [op]) := by
  constructor
  · intro lasting
    refine ⟨fun n bound => ?_, ?_⟩
    · have here := lasting n (by simp; omega)
      rwa [List.take_append_of_le_length bound] at here
    · have whole := lasting (ops ++ [op]).length (Nat.le_refl _)
      rwa [List.take_length] at whole
  · rintro ⟨before, whole⟩ n bound
    by_cases inside : n ≤ ops.length
    · rw [List.take_append_of_le_length inside]
      exact before n inside
    · have last : (ops ++ [op]).length ≤ n := by simp; omega
      rw [List.take_of_length_le last]
      exact whole

theorem Lasts.balance (lasting : Lasts ops) : leaves ops ≤ enters ops := by
  have whole := lasting ops.length (Nat.le_refl _)
  rwa [List.take_length] at whole

theorem lasts_concat_leave (ops : List Operation) : Lasts (ops ++ [.leave]) ↔ Lasts ops ∧ pending ops ≠ [] := by
  rw [lasts_concat]
  refine and_congr_right fun lasting => ?_
  have count := enters_add_surplus ops
  rw [(lasts_iff_surplus ops).mp lasting] at count
  rw [← List.length_pos_iff]
  simp only [leaves, enters, List.countP_append, List.countP_singleton, Operation.isLeave, Operation.isEnter] at count ⊢
  simp
  omega

theorem lasts_concat_other (ops : List Operation) (stays : op.isLeave = false) : Lasts (ops ++ [op]) ↔ Lasts ops := by
  rw [lasts_concat]
  refine and_iff_left_of_imp fun lasting => ?_
  have balance := lasting.balance
  simp only [leaves, enters, List.countP_append, List.countP_singleton, stays] at balance ⊢
  simp
  omega

theorem pending_concat_leave (ops : List Operation) : pending (ops ++ [.leave]) = (pending ops).dropLast := by
  induction ops with
  | nil => rfl
  | cons op rest ih =>
    rw [List.cons_append, pending_cons, pending_cons, ih]
    simp only [lasts_concat_leave]
    by_cases inner : pending rest = []
    · simp [inner]
      split <;> rfl
    · rw [List.dropLast_append_of_ne_nil (by simpa using inner)]
      simp [inner, List.map_dropLast]

theorem pending_concat_other (ops : List Operation) (stays : op.isLeave = false) :
    pending (ops ++ [op]) = pending ops ++ if op.isEnter then [ops.length] else [] := by
  induction ops with
  | nil => cases op <;> rfl
  | cons first rest ih =>
    rw [List.cons_append, pending_cons, pending_cons, ih]
    simp only [lasts_concat_other rest stays]
    cases op.isEnter <;> simp

theorem pending_concat_quiet (ops : List Operation) (still : op.isEnter = false) (stays : op.isLeave = false) :
    pending (ops ++ [op]) = pending ops := by
  simp [pending_concat_other ops stays, still]

theorem mem_pending {k : Nat} (member : k ∈ pending ops) : k < ops.length :=
  List.mem_range.mp (List.mem_filter.mp member).1

end TemplateCompiler.Buffer
