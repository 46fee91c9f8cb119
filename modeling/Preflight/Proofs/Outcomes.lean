import Preflight.Outcome

/-! Runs of acts on a state in which faults are caught: a fault ends its own act and no other. What
every act keeps, whatever it comes to, the whole run keeps. -/
namespace Preflight
variable {ε σ α β : Type}

theorem outcome_bind_of_ok {act : EStateM ε σ α} {next : α → EStateM ε σ β} {s t : σ} {a : α}
    (h : outcome act s = (.ok a, t)) : outcome (act >>= next) s = outcome (next a) t := by
  simp only [outcome, bind_of_ok (outcome_eq_ok h)]

theorem outcome_bind_of_error {act : EStateM ε σ α} {next : α → EStateM ε σ β} {s t : σ} {e : ε}
    (h : outcome act s = (.error e, t)) : outcome (act >>= next) s = (.error e, t) :=
  outcome_of_error (bind_of_error (outcome_eq_error h))

theorem exists_of_bind_ok {act : EStateM ε σ α} {next : α → EStateM ε σ β} {s u : σ} {b : β}
    (h : (act >>= next) s = .ok b u) : ∃ a t, act s = .ok a t ∧ next a t = .ok b u := by
  cases hact : act s with
  | ok a t => exact ⟨a, t, rfl, (bind_of_ok hact).symm.trans h⟩
  | error e t => cases (bind_of_error hact).symm.trans h

theorem outcome_map (f : α → β) (act : EStateM ε σ α) (s : σ) :
    outcome (f <$> act) s = ((outcome act s).1.map f, (outcome act s).2) := by
  rw [map_eq_pure_bind]
  cases h : act s with
  | ok a t =>
    rw [outcome_bind_of_ok (outcome_of_ok h), outcome_of_ok h]
    rfl
  | error e t =>
    rw [outcome_bind_of_error (outcome_of_error h), outcome_of_error h]
    rfl

theorem returns_iff {act : EStateM ε σ α} {s t : σ} {r : Except ε α} (h : outcome act s = (r, t)) :
    (∃ a u, act s = .ok a u) ↔ ∃ a, r = .ok a := by
  cases r with
  | ok a => simp [outcome_eq_ok h]
  | error e => simp [outcome_eq_error h]

/-- An act of which some part of the result is known has returned. -/
theorem exists_of_toOption {act : EStateM ε σ α} {s : σ} {f : α → β} {b : β}
    (h : (outcome act s).1.toOption.map f = some b) : ∃ a t, act s = .ok a t ∧ f a = b := by
  cases hact : act s with
  | ok a t =>
    rw [outcome_of_ok hact] at h
    exact ⟨a, t, rfl, Option.some.inj h⟩
  | error e t =>
    rw [outcome_of_error hact] at h
    cases h

/-- A statement on what was returned. -/
def WhenOk (r : Except ε α) (P : α → Prop) : Prop :=
  match r with
  | .ok a => P a
  | .error _ => True

/-- The acts with what they came to, and the state after the last one. -/
def outcomes (act : α → EStateM ε σ β) : List α → σ → List (α × Except ε β) × σ
  | [], s => ([], s)
  | a :: rest, s =>
    let (answer, t) := outcome (act a) s
    let (log, u) := outcomes act rest t
    ((a, answer) :: log, u)

/-- The acts that succeeded, with their answers. -/
def granted (log : List (α × Except ε β)) : List (α × β) :=
  log.filterMap fun e => e.2.toOption.map (e.1, ·)

theorem granted_append_ok (log : List (α × Except ε β)) (a : α) (b : β) :
    granted (log ++ [(a, .ok b)]) = granted log ++ [(a, b)] := by
  simp [granted, Except.toOption]

theorem granted_append_error (log : List (α × Except ε β)) (a : α) (e : ε) :
    granted (log ++ [(a, .error e)]) = granted log := by
  simp [granted, Except.toOption]

theorem map_fst_outcomes (act : α → EStateM ε σ β) (acts : List α) (s : σ) :
    (outcomes act acts s).1.map (·.1) = acts := by
  induction acts generalizing s with
  | nil => rfl
  | cons a rest ih => exact congrArg (a :: ·) (ih _)

theorem mem_acts_of_granted {act : α → EStateM ε σ β} {acts : List α} {s : σ} {g : α × β}
    (h : g ∈ granted (outcomes act acts s).1) : g.1 ∈ acts := by
  obtain ⟨e, he, hg⟩ := List.mem_filterMap.mp h
  obtain ⟨b, -, rfl⟩ := Option.map_eq_some_iff.mp hg
  rw [← map_fst_outcomes act acts s]
  exact List.mem_map_of_mem he

theorem outcomes_preserve {act : α → EStateM ε σ β} {P : List (α × Except ε β) → σ → Prop}
    (step : ∀ log s a, P log s → P (log ++ [(a, (outcome (act a) s).1)]) (outcome (act a) s).2)
    (acts : List α) {log : List (α × Except ε β)} {s : σ} (h : P log s) :
    P (log ++ (outcomes act acts s).1) (outcomes act acts s).2 := by
  induction acts generalizing log s with
  | nil => simpa [outcomes] using h
  | cons a rest ih => simpa [outcomes] using ih (step log s a h)

/-- What is preserved by each further act is true of the whole run. The statement may speak of
what all acts so far came to. -/
theorem outcomes_induction {act : α → EStateM ε σ β} (P : List (α × Except ε β) → σ → Prop)
    (step : ∀ log s a, P log s → P (log ++ [(a, (outcome (act a) s).1)]) (outcome (act a) s).2)
    {s : σ} (h : P [] s) (acts : List α) : P (outcomes act acts s).1 (outcomes act acts s).2 := by
  simpa using outcomes_preserve step acts h

theorem outcomes_append (act : α → EStateM ε σ β) (as bs : List α) (s : σ) :
    (outcomes act (as ++ bs) s).2 = (outcomes act bs (outcomes act as s).2).2 := by
  induction as generalizing s with
  | nil => rfl
  | cons a rest ih => exact ih _

/-- Whatever an act comes to, it leads from a state to one that `R` relates to it. -/
def Leads (R : σ → σ → Prop) (act : EStateM ε σ α) : Prop := ∀ s, R s (outcome act s).2

namespace Leads
variable {R : σ → σ → Prop} {act : EStateM ε σ α}

theorem pure (refl : ∀ s, R s s) (a : α) : Leads R (Pure.pure a : EStateM ε σ α) := refl

theorem throw (refl : ∀ s, R s s) (e : ε) : Leads R (throw e : EStateM ε σ α) := refl

theorem modify {f : σ → σ} (h : ∀ s, R s (f s)) : Leads R (modify f : EStateM ε σ PUnit) := h

theorem bind (trans : ∀ s t u, R s t → R t u → R s u) {next : α → EStateM ε σ β}
    (h : Leads R act) (hnext : ∀ a, Leads R (next a)) : Leads R (act >>= next) := by
  intro s
  have hs := h s
  cases hact : act s with
  | ok a t =>
    rw [outcome_of_ok hact] at hs
    rw [outcome_bind_of_ok (outcome_of_ok hact)]
    exact trans _ _ _ hs (hnext a t)
  | error e t =>
    rw [outcome_of_error hact] at hs
    rw [outcome_bind_of_error (outcome_of_error hact)]
    exact hs

theorem get_bind {next : σ → EStateM ε σ β} (h : ∀ s, R s (outcome (next s) s).2) :
    Leads R (get >>= next) := h

theorem forM (refl : ∀ s, R s s) (trans : ∀ s t u, R s t → R t u → R s u)
    {f : β → EStateM ε σ PUnit} (h : ∀ b, Leads R (f b)) (bs : List β) :
    Leads R (bs.forM f) := by
  induction bs with
  | nil => exact pure refl _
  | cons b rest ih => exact bind trans (h b) fun _ => ih

end Leads
end Preflight
