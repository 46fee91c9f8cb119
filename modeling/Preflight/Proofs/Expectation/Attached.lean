import Preflight.Expectation.Listening
import Preflight.Proofs.Expectation.Met

/-! Expectations attached to a builder. Sets that are attached one after the other are called in the
reverse order, each at every checkpoint, and check what they did before they were attached. -/
namespace Preflight.Expectations
variable {π γ σ : Type} {c : Checkpoint}

/-- The expectations as their builder has them. -/
def closed (e : Expectations) : Expectations := { e with attached := true }

/-- Attaches sets one after the other. -/
def attachAll (wrap : Expectations → γ) : List Expectations → Audience γ →
    Except Fault (Audience γ)
  | [], a => .ok a
  | e :: rest, a =>
    match e.attachTo wrap a with
    | .ok (_, b) => attachAll wrap rest b
    | .error f => .error f

variable {wrap : Expectations → γ} {a b : Audience γ}

theorem handlers_attachTo {e e' : Expectations} (h : e.attachTo wrap a = .ok (e', b))
    (c : Checkpoint) :
    b.handlers c = a.handlers c ++ [{ checkpoint := c, listener := wrap e.closed }] := by
  cases he : e.attached with
  | true =>
    simp [attachTo, attach, open?, he, bind, Except.bind] at h
  | false =>
    simp [attachTo, attach, open?, he, bind, Except.bind, pure, Except.pure] at h
    obtain ⟨-, rfl⟩ := h
    cases c <;> simp [Audience.handlers_listen_self, Audience.handlers_listen_of_ne, closed]

theorem handlers_attachAll {sets : List Expectations} (h : attachAll wrap sets a = .ok b)
    (c : Checkpoint) : b.handlers c =
      a.handlers c ++ sets.map fun e => { checkpoint := c, listener := wrap e.closed } := by
  induction sets generalizing a with
  | nil =>
    cases h
    simp
  | cons e rest ih =>
    rw [attachAll] at h
    split at h
    · rename_i e' a' he
      rw [ih h, handlers_attachTo he c, List.append_assoc]
      rfl
    · cases h

/-- The set that was attached last is checked first. -/
theorem callOrder_attachAll {sets : List Expectations} (h : attachAll wrap sets {} = .ok b)
    (c : Checkpoint) : b.callOrder c = (sets.reverse.map closed).map wrap := by
  have hhandlers := handlers_attachAll h c
  have hempty : ({} : Audience γ).handlers c = [] := rfl
  rw [hempty, List.nil_append] at hhandlers
  have hnormal : ∀ x ∈ b.handlers c, x.priority = .normal := by
    intro x hx
    rw [hhandlers] at hx
    obtain ⟨e, -, rfl⟩ := List.mem_map.mp hx
    rfl
  rw [Audience.callOrder_of_normal hnormal, hhandlers]
  simp

/-- What is checked does not depend on whether more can be declared. -/
theorem verdicts_map_closed (sets : List Expectations) (loaded : List String) (registered : Host) :
    verdicts (sets.map closed) loaded registered = verdicts sets loaded registered := by
  simp only [verdicts, List.forM_eq_forM, List.forM_map]
  rfl

theorem outcome_check (name : π → String) (log : Log.Event → σ → σ) (e : Expectations)
    (view : View π c) (s : σ) : outcome (e.check name log view) s =
      match e.judge name view with
      | .ok _ => (.ok view, log (.expectationsChecked e c) s)
      | .error v => (.error (.unmet v), s) := by
  unfold check conclude
  cases e.judge name view <;> rfl

end Preflight.Expectations
