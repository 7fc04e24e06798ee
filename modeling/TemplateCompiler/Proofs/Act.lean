import TemplateCompiler.Act

namespace TemplateCompiler.Act

variable {ε σ α β : Type} {s s' : σ} {a : α} {e : ε}

@[simp] theorem get_bind (f : σ → EStateM ε σ β) (s : σ) : (get >>= f) s = f s s := rfl

@[simp] theorem get_apply (s : σ) : (get : EStateM ε σ σ) s = .ok s s := rfl

@[simp] theorem ofExcept_ok (a : α) (s : σ) : (ofExcept (.ok a) : EStateM ε σ α) s = .ok a s := rfl

@[simp] theorem ofExcept_error (e : ε) (s : σ) : (ofExcept (.error e) : EStateM ε σ α) s = .error e s := rfl

@[simp] theorem modify_apply (f : σ → σ) (s : σ) : (modify f : EStateM ε σ PUnit) s = .ok ⟨⟩ (f s) := rfl

theorem bind_of_ok {x : EStateM ε σ α} (ran : x s = .ok a s') (f : α → EStateM ε σ β) : (x >>= f) s = f a s' := by
  simp only [bind, EStateM.bind, ran]

theorem bind_of_error {x : EStateM ε σ α} (failed : x s = .error e s') (f : α → EStateM ε σ β) :
    (x >>= f) s = .error e s' := by
  simp only [bind, EStateM.bind, failed]

theorem between_of_two_errors {enter exit : EStateM ε σ Unit} {body : EStateM ε σ α} {s₁ s₂ : σ} {e' : ε}
    (entered : enter s = .ok () s₁) (failed : body s₁ = .error e s₂) (failed' : exit s₂ = .error e' s') :
    between enter body exit s = .error e' s' := by
  simp only [between, bind, EStateM.bind, entered, failed, failed']

/-- The state in which a run ends, whether or not it fails. -/
def final (act : EStateM ε σ α) (s : σ) : σ :=
  match act s with
  | .ok _ s' => s'
  | .error _ s' => s'

def outcome (act : EStateM ε σ α) (s : σ) : Except ε α :=
  match act s with
  | .ok a _ => .ok a
  | .error e _ => .error e

theorem final_bind_of_ok {x : EStateM ε σ α} (ran : x s = .ok a s') (f : α → EStateM ε σ β) :
    final (x >>= f) s = final (f a) s' := by
  rw [final, final, bind_of_ok ran]

theorem final_bind_of_error {x : EStateM ε σ α} (failed : x s = .error e s') (f : α → EStateM ε σ β) :
    final (x >>= f) s = s' := by
  rw [final, bind_of_error failed]

theorem final_bind_rel (R : σ → σ → Prop) (trans : ∀ {s s' s''}, R s s' → R s' s'' → R s s'') {x : EStateM ε σ α}
    {f : α → EStateM ε σ β} (first : R s (final x s)) (rest : ∀ a s', x s = .ok a s' → R s s' → R s' (final (f a) s')) :
    R s (final (x >>= f) s) := by
  cases ran : x s with
  | ok a s' =>
    rw [final, ran] at first
    rw [final_bind_of_ok ran]
    exact trans first (rest a s' ran first)
  | error e s' =>
    rw [final, ran] at first
    rwa [final_bind_of_error ran]

theorem final_of_entry_error {enter exit : EStateM ε σ Unit} {body : EStateM ε σ α} (failed : enter s = .error e s') :
    final (between enter body exit) s = s' := by
  rw [final, between_of_entry_error failed]

theorem final_between {enter exit : EStateM ε σ Unit} {body : EStateM ε σ α} (entered : enter s = .ok () s') :
    final (between enter body exit) s = final exit (final body s') := by
  cases ran : body s' with
  | ok a s₂ =>
    cases left : exit s₂ with
    | ok _ s₃ => simp only [final, between_of_ok entered ran left, ran, left]
    | error e s₃ => simp only [final, between_of_exit_error entered ran left, ran, left]
  | error e s₂ =>
    cases left : exit s₂ with
    | ok _ s₃ => simp only [final, between_of_error entered ran left, ran, left]
    | error e' s₃ => simp only [final, between_of_two_errors entered ran left, ran, left]

theorem final_between_rel (R : σ → σ → Prop) (trans : ∀ {s s' s''}, R s s' → R s' s'' → R s s'')
    {enter exit : EStateM ε σ Unit} {body : EStateM ε σ α} (entry : R s (final enter s))
    (inside : ∀ s', enter s = .ok () s' → R s s' → R s' (final body s'))
    (out : ∀ s', enter s = .ok () s' → R s (final body s') → R (final body s') (final exit (final body s'))) :
    R s (final (between enter body exit) s) := by
  cases entered : enter s with
  | ok _ s' =>
    rw [final, entered] at entry
    rw [final_between entered]
    have done := trans entry (inside s' entered entry)
    exact trans done (out s' entered done)
  | error e s' =>
    rw [final, entered] at entry
    rwa [final_of_entry_error entered]

/-- What holds where a run ends: `ok` of its answer and last state, or `failed` of the state that a failure leaves. -/
structure Ends (act : EStateM ε σ α) (s : σ) (ok : α → σ → Prop) (failed : σ → Prop) : Prop where
  of_ok : ∀ {a s'}, act s = .ok a s' → ok a s'
  of_error : ∀ {e s'}, act s = .error e s' → failed s'

variable {act : EStateM ε σ α} {ok mid : α → σ → Prop} {failed : σ → Prop}

theorem ends_of_ok (ran : act s = .ok a s') (holds : ok a s') : Ends act s ok failed where
  of_ok same := by
    rw [ran] at same
    cases same
    exact holds
  of_error same := by
    rw [ran] at same
    cases same

theorem ends_of_error (fails : act s = .error e s') (holds : failed s') : Ends act s ok failed where
  of_ok same := by
    rw [fails] at same
    cases same
  of_error same := by
    rw [fails] at same
    cases same
    exact holds

theorem Ends.mono {ok' : α → σ → Prop} {failed' : σ → Prop} (ends : Ends act s ok failed)
    (onOk : ∀ a s', ok a s' → ok' a s') (onError : ∀ s', failed s' → failed' s') : Ends act s ok' failed' :=
  ⟨fun ran => onOk _ _ (ends.of_ok ran), fun fails => onError _ (ends.of_error fails)⟩

theorem ends_of_step {f : α → EStateM ε σ β} {ok : β → σ → Prop} (ran : act s = .ok a s')
    (rest : Ends (f a) s' ok failed) : Ends (act >>= f) s ok failed :=
  have same := bind_of_ok ran f
  ⟨fun ended => rest.of_ok (same.symm.trans ended), fun ended => rest.of_error (same.symm.trans ended)⟩

theorem Ends.bind {f : α → EStateM ε σ β} {ok : β → σ → Prop} (first : Ends act s mid failed)
    (rest : ∀ a s', mid a s' → Ends (f a) s' ok failed) : Ends (act >>= f) s ok failed := by
  cases ran : act s with
  | ok a s' =>
    exact ends_of_step ran (rest a s' (first.of_ok ran))
  | error e s' => exact ends_of_error (bind_of_error ran f) (first.of_error ran)

theorem Ends.between {enter exit : EStateM ε σ Unit} {s₁ : σ} (entered : enter s = .ok () s₁)
    (body : Ends act s₁ mid failed) (left : ∀ a s₂, mid a s₂ → Ends exit s₂ (fun _ s₃ => ok a s₃) failed)
    (dropped : ∀ s₂, failed s₂ → Ends exit s₂ (fun _ s₃ => failed s₃) failed) :
    Ends (between enter act exit) s ok failed := by
  cases ran : act s₁ with
  | ok a s₂ =>
    have last := left a s₂ (body.of_ok ran)
    cases ended : exit s₂ with
    | ok _ s₃ => exact ends_of_ok (between_of_ok entered ran ended) (last.of_ok ended)
    | error e s₃ => exact ends_of_error (between_of_exit_error entered ran ended) (last.of_error ended)
  | error e s₂ =>
    have last := dropped s₂ (body.of_error ran)
    cases ended : exit s₂ with
    | ok _ s₃ => exact ends_of_error (between_of_error entered ran ended) (last.of_ok ended)
    | error e' s₃ => exact ends_of_error (between_of_two_errors entered ran ended) (last.of_error ended)

/-- Two runs that give the same answer, or fail in the same way. Their last states are related by `ok` or by `failed`. -/
inductive Together (ok failed : σ → σ → Prop) : EStateM.Result ε σ α → EStateM.Result ε σ α → Prop where
  | ok {a : α} {s t : σ} (related : ok s t) : Together ok failed (.ok a s) (.ok a t)
  | error {e : ε} {s t : σ} (related : failed s t) : Together ok failed (.error e s) (.error e t)

namespace Together

variable {ok ok' failed failed' : σ → σ → Prop} {t : σ}

theorem mono {result result' : EStateM.Result ε σ α} (together : Together ok failed result result')
    (onOk : ∀ s t, ok s t → ok' s t) (onError : ∀ s t, failed s t → failed' s t) :
    Together ok' failed' result result' := by
  cases together with
  | ok related => exact .ok (onOk _ _ related)
  | error related => exact .error (onError _ _ related)

theorem bind {x x' : EStateM ε σ α} {f f' : α → EStateM ε σ β} (first : Together ok failed (x s) (x' t))
    (rest : ∀ a s' t', ok s' t' → Together ok' failed (f a s') (f' a t')) :
    Together ok' failed ((x >>= f) s) ((x' >>= f') t) := by
  cases ran : x s with
  | ok a s' =>
    cases ran' : x' t with
    | ok b t' =>
      rw [ran, ran'] at first
      rw [Act.bind_of_ok ran, Act.bind_of_ok ran']
      cases first with
      | ok related => exact rest a s' t' related
    | error e t' =>
      rw [ran, ran'] at first
      cases first
  | error e s' =>
    cases ran' : x' t with
    | ok b t' =>
      rw [ran, ran'] at first
      cases first
    | error e' t' =>
      rw [ran, ran'] at first
      rw [Act.bind_of_error ran, Act.bind_of_error ran']
      cases first with
      | error related => exact .error related

end Together

end TemplateCompiler.Act
