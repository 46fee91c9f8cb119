/-! Programs on a state that return or end in a fault. The state after them counts in both cases,
so that what a program did before its fault is not undone. -/
namespace Preflight
variable {ε σ τ α β : Type}

/-- What a program comes to, and the state after it. -/
def outcome (act : EStateM ε σ α) (s : σ) : Except ε α × σ :=
  match act s with
  | .ok a s => (.ok a, s)
  | .error e s => (.error e, s)

/-- A program on a part of a state. -/
def onPart (part : τ → σ) (put : σ → τ → τ) (act : EStateM ε σ α) : EStateM ε τ α := fun t =>
  match act (part t) with
  | .ok a s => .ok a (put s t)
  | .error e s => .error e (put s t)

theorem bind_of_ok {act : EStateM ε σ α} {next : α → EStateM ε σ β} {s t : σ} {a : α}
    (h : act s = .ok a t) : (act >>= next) s = next a t := by
  simp [bind, EStateM.bind, h]

theorem bind_of_error {act : EStateM ε σ α} {next : α → EStateM ε σ β} {s t : σ} {e : ε}
    (h : act s = .error e t) : (act >>= next) s = .error e t := by
  simp [bind, EStateM.bind, h]

theorem outcome_of_ok {act : EStateM ε σ α} {s t : σ} {a : α} (h : act s = .ok a t) :
    outcome act s = (.ok a, t) := by
  simp [outcome, h]

theorem outcome_of_error {act : EStateM ε σ α} {s t : σ} {e : ε} (h : act s = .error e t) :
    outcome act s = (.error e, t) := by
  simp [outcome, h]

theorem outcome_eq_ok {act : EStateM ε σ α} {s t : σ} {a : α} (h : outcome act s = (.ok a, t)) :
    act s = .ok a t := by
  cases hact : act s <;> simp [outcome, hact] at h
  obtain ⟨rfl, rfl⟩ := h
  rfl

theorem outcome_eq_error {act : EStateM ε σ α} {s t : σ} {e : ε}
    (h : outcome act s = (.error e, t)) : act s = .error e t := by
  cases hact : act s <;> simp [outcome, hact] at h
  obtain ⟨rfl, rfl⟩ := h
  rfl

theorem onPart_of_ok {part : τ → σ} {put : σ → τ → τ} {act : EStateM ε σ α} {t : τ} {s : σ} {a : α}
    (h : act (part t) = .ok a s) : onPart part put act t = .ok a (put s t) := by
  simp [onPart, h]

theorem onPart_of_error {part : τ → σ} {put : σ → τ → τ} {act : EStateM ε σ α} {t : τ} {s : σ}
    {e : ε} (h : act (part t) = .error e s) : onPart part put act t = .error e (put s t) := by
  simp [onPart, h]

end Preflight
