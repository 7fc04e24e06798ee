namespace TemplateCompiler.Act

variable {ε σ α : Type}

def ofExcept : Except ε α → EStateM ε σ α
  | .ok a => pure a
  | .error e => throw e

/-- Runs `body` between `enter` and `exit`. Once entered, the exit always runs; if it fails, its failure is the one that
    counts. -/
def between (enter : EStateM ε σ Unit) (body : EStateM ε σ α) (exit : EStateM ε σ Unit) : EStateM ε σ α := do
  enter
  fun s => match body s with
    | .ok a s => (do exit; pure a : EStateM ε σ α) s
    | .error e s => (do exit; throw e : EStateM ε σ α) s

variable {enter exit : EStateM ε σ Unit} {body : EStateM ε σ α} {s s₁ s₂ s₃ : σ}

theorem between_of_entry_error {e : ε} (failed : enter s = .error e s₁) :
    between enter body exit s = .error e s₁ := by
  simp only [between, bind, EStateM.bind, failed]

theorem between_of_ok {a : α} (entered : enter s = .ok () s₁) (ran : body s₁ = .ok a s₂)
    (left : exit s₂ = .ok () s₃) : between enter body exit s = .ok a s₃ := by
  simp only [between, bind, EStateM.bind, entered, ran, left, pure, EStateM.pure]

theorem between_of_error {e : ε} (entered : enter s = .ok () s₁) (failed : body s₁ = .error e s₂)
    (left : exit s₂ = .ok () s₃) : between enter body exit s = .error e s₃ := by
  simp only [between, bind, EStateM.bind, entered, failed, left]
  rfl

theorem between_of_exit_error {a : α} {e : ε} (entered : enter s = .ok () s₁) (ran : body s₁ = .ok a s₂)
    (failed : exit s₂ = .error e s₃) : between enter body exit s = .error e s₃ := by
  simp only [between, bind, EStateM.bind, entered, ran, failed]

end TemplateCompiler.Act
