import Mathlib.Data.List.Nodup
import TemplateCompiler.Proofs.Number.Notation
import TemplateCompiler.Proofs.Session.Performance

namespace TemplateCompiler

namespace Names

theorem name_injective (names : Names) {j k : Nat} (same : names.name j = names.name k) : j = k := by
  have spelled (k : Nat) : (names.name k).toList =
      names.stem.toList ++ ((naturalText k).toList ++ '_' :: (integerText (names.digits (k - 1))).toList) := by
    simp [name]
  -- digits hold no underscore, so the first one behind the stem ends the number
  have unseen (k : Nat) : '_' ∉ (naturalText k).toList := by
    intro member
    exact absurd (isDigit_of_mem_naturalText member) (by decide)
  have chars := congrArg String.toList same
  rw [spelled, spelled] at chars
  obtain ⟨number, -⟩ := cut_unique (unseen j) (unseen k) (List.append_cancel_left chars)
  exact naturalText_injective (String.toList_injective number)

def following (names : Names) (n : Nat) : List String :=
  (List.range n).map fun k => names.name (names.count + (k + 1))

theorem following_fresh (stem : String) (digits : Digits) (n : Nat) :
    (⟨stem, digits, 0⟩ : Names).following n =
      (List.range n).map fun k => stem ++ naturalText (k + 1) ++ "_" ++ integerText (digits k) := by
  apply List.map_congr_left
  intro k _
  rw [Nat.zero_add]
  rfl

theorem length_following (names : Names) (n : Nat) : (names.following n).length = n := by
  rw [following, List.length_map, List.length_range]

theorem following_add (names : Names) (n m : Nat) :
    names.following (n + m) = names.following n ++ (names.skip n).following m := by
  rw [following, List.range_add, List.map_append, List.map_map]
  congr 1
  apply List.map_congr_left
  intro k _
  change names.name (names.count + (n + k + 1)) = names.name (names.count + n + (k + 1))
  congr 1
  omega

theorem nodup_following (names : Names) (n : Nat) : (names.following n).Nodup := by
  apply List.Nodup.map _ List.nodup_range
  intro j k same
  have number := names.name_injective same
  omega

end Names

namespace Session

variable {s s' : Session}

theorem given_named (s : Session) : s.named.given = s.given ++ [s.nextName] := by
  rw [given, named, List.filterMap_append]
  rfl

/-- The session has given the next names, and no others. -/
def Continues (s s' : Session) : Prop := ∃ n, s'.names = s.names.skip n ∧ s'.given = s.given ++ s.names.following n

theorem upheld_continues : Upheld Continues where
  trans := by
    rintro s s' s'' ⟨n, names, given⟩ ⟨m, names', given'⟩
    refine ⟨n + m, ?_, ?_⟩
    · rw [names', names, Names.skip_skip]
    · rw [given', given, names, Names.following_add, List.append_assoc]
  quiet same := ⟨0, same.names, by rw [same.given]; simp [Names.following]⟩
  name s := ⟨1, rfl, given_named s⟩
  buffer s _ := ⟨0, rfl, by simp [Names.following, given]⟩

theorem Continues.given_eq (continues : Continues s s') (new : s.given = []) (uncounted : s.names.count = 0) :
    s'.given = s.names.following s'.names.count := by
  obtain ⟨n, names, given⟩ := continues
  have counted : s'.names.count = n := by
    rw [names]
    change s.names.count + n = n
    omega
  rw [new, List.nil_append] at given
  rw [counted, given]

theorem kept_given : Kept fun s s' => s'.given = s.given where
  trans first second := second.trans first
  quiet same := same.given
  buffer _ _ := rfl

/-- A guarded evaluation takes one name, even where it fails. -/
theorem given_emitGuarded (expr : Value) (statement : Option Statement) (errorName : Value) (s : Session) :
    (Act.final (emitGuarded expr statement errorName) s).given = s.given ++ [s.nextName] := by
  rw [emitGuarded_eq_bind, Act.final_bind_of_ok (takeName_eq s), ← given_named]
  exact kept_given.guard expr statement errorName s.nextName s.named

def Answers {α : Type} (act : Act α) (a : α) : Prop := ∀ s b s', act s = .ok b s' → b = a

theorem Answers.after {α β : Type} {act : Act β} {f : β → Act α} {a : α} (rest : ∀ b, Answers (f b) a) :
    Answers (act >>= f) a := by
  intro s c s' ran
  cases first : act s with
  | ok b s₁ =>
    rw [Act.bind_of_ok first] at ran
    exact rest b s₁ c s' ran
  | error fault s₁ =>
    rw [Act.bind_of_error first] at ran
    cases ran

theorem answers_guard (expr : Value) (statement : Option Statement) (errorName : Value) (name : String) :
    Answers (guard expr statement errorName name) name := by
  unfold guard
  iterate 6 refine Answers.after fun _ => ?_
  intro s b s' ran
  cases ran
  rfl

theorem emitGuarded_answer {expr : Value} {statement : Option Statement} {errorName : Value} {name : String}
    (ran : emitGuarded expr statement errorName s = .ok name s') : name = s.nextName := by
  rw [emitGuarded_eq_bind, Act.bind_of_ok (takeName_eq s)] at ran
  exact answers_guard expr statement errorName s.nextName s.named name s' ran

end Session

end TemplateCompiler
