import Preflight.Bootstrap.Launch
import Preflight.Proofs.Outcomes

/-! The journal of an agent's life: every call of a plugin or a listener with what it came to, and
every event that was logged. Any lifecycle can be given a journal, which changes nothing else. -/
namespace Preflight
variable {β π γ σ ε α δ : Type} {c : Checkpoint}

/-- A call with what it came to, or an event with the state in which it was logged. -/
inductive Entry (β π γ σ : Type) where
  | constructed (b : β) (r : Except Fault π)
  | started (p : π) (r : Except Fault Unit)
  | notified (l : γ) {c : Checkpoint} (view : View π c) (r : Except Fault (View π c))
  | stopped (p : π) (r : Except Fault Unit)
  | logged (e : Log.Event) (s : σ)

/-- What a bootstrap is made of. Stopping is not part of it. -/
inductive Deed (β π γ : Type) where
  | construct (b : β)
  | start (p : π)
  | notify (c : Checkpoint) (l : γ)

abbrev Journal (β π γ σ : Type) := List (Entry β π γ σ)

namespace Entry

def deed? : Entry β π γ σ → Option (Deed β π γ)
  | constructed b _ => some (.construct b)
  | started p _ => some (.start p)
  | @notified _ _ _ _ l c _ _ => some (.notify c l)
  | _ => none

def fault? : Entry β π γ σ → Option Fault
  | constructed _ (.error f) | started _ (.error f) | notified _ _ (.error f)
  | stopped _ (.error f) => some f
  | _ => none

/-- The plugin that was constructed. -/
def made? : Entry β π γ σ → Option π
  | constructed _ (.ok p) => some p
  | _ => none

/-- The plugin that has started. -/
def running? : Entry β π γ σ → Option π
  | started p (.ok _) => some p
  | _ => none

/-- The plugin that was asked to stop. -/
def stopped? : Entry β π γ σ → Option π
  | stopped p _ => some p
  | _ => none

theorem running?_of_fault {e : Entry β π γ σ} {f : Fault} (h : e.fault? = some f) :
    e.running? = none := by
  cases e with
  | started p r =>
    cases r with
    | ok u => cases h
    | error g => rfl
  | _ => rfl

end Entry

namespace Journal

def deeds (j : Journal β π γ σ) : List (Deed β π γ) := j.filterMap (·.deed?)

def faults (j : Journal β π γ σ) : List Fault := j.filterMap (·.fault?)

def made (j : Journal β π γ σ) : List π := j.filterMap (·.made?)

def running (j : Journal β π γ σ) : List π := j.filterMap (·.running?)

def stops (j : Journal β π γ σ) : List π := j.filterMap (·.stopped?)

@[simp] theorem deeds_append (i j : Journal β π γ σ) : deeds (i ++ j) = deeds i ++ deeds j :=
  List.filterMap_append

@[simp] theorem faults_append (i j : Journal β π γ σ) : faults (i ++ j) = faults i ++ faults j :=
  List.filterMap_append

@[simp] theorem made_append (i j : Journal β π γ σ) : made (i ++ j) = made i ++ made j :=
  List.filterMap_append

@[simp] theorem running_append (i j : Journal β π γ σ) :
    running (i ++ j) = running i ++ running j := List.filterMap_append

@[simp] theorem stops_append (i j : Journal β π γ σ) : stops (i ++ j) = stops i ++ stops j :=
  List.filterMap_append

end Journal

/-- Writes down what a call came to. -/
def journaling (entry : Except Fault α → Entry β π γ σ) (act : EStateM Fault σ α) :
    EStateM Fault (σ × Journal β π γ σ) α := fun s =>
  match act s.1 with
  | .ok a t => .ok a (t, s.2 ++ [entry (.ok a)])
  | .error f t => .error f (t, s.2 ++ [entry (.error f)])

namespace Lifecycle

/-- The lifecycle with a journal of all it does. -/
def journaled (L : Lifecycle β π γ σ) : Lifecycle β π γ (σ × Journal β π γ σ) where
  name := L.name
  construct b := journaling (.constructed b) (L.construct b)
  start p := journaling (.started p) (L.start p)
  stop p := journaling (.stopped p) (L.stop p)
  listeners c s := L.listeners c s.1
  notify l view := journaling (.notified l view) (L.notify l view)
  host s := L.host s.1
  log e s := (L.log e s.1, s.2 ++ [.logged e s.1])

/-- What happens when an agent is launched, from the first call to the last. -/
def journal (L : Lifecycle β π γ σ) (plan : List β) (s : σ) : Journal β π γ σ :=
  (outcome (L.journaled.launch plan) (s, [])).2.2

end Lifecycle

/-- Run from `s`, the act `x` with a journal does what `y` does without one. It adds entries to
the journal, whatever is in it already, and `Q` holds of the result, the state and the entries. -/
def Tells (y : EStateM ε σ α) (x : EStateM ε (σ × Journal β π γ σ) α) (s : σ)
    (Q : Except ε α → σ → Journal β π γ σ → Prop) : Prop :=
  ∀ past, ∃ r t es, outcome y s = (r, t) ∧ outcome x (s, past) = (r, t, past ++ es) ∧ Q r t es

theorem outcome_during {τ : Type} {act : EStateM Fault τ α} {s t : τ} {r : Except Fault α}
    {stage : Stage} {started : List π} (h : outcome act s = (r, t)) :
    outcome (Lifecycle.during stage started act) s =
      (r.mapError fun fault => { fault, stage, started }, t) := by
  cases r with
  | ok a => simp [outcome, Lifecycle.during, EStateM.adaptExcept, outcome_eq_ok h]; rfl
  | error f => simp [outcome, Lifecycle.during, EStateM.adaptExcept, outcome_eq_error h]; rfl

namespace Tells
variable {y : EStateM ε σ α} {x : EStateM ε (σ × Journal β π γ σ) α} {s : σ}
  {P Q : Except ε α → σ → Journal β π γ σ → Prop} {L : Lifecycle β π γ σ}

theorem mono (h : Tells y x s P) (hPQ : ∀ r t es, P r t es → Q r t es) : Tells y x s Q := by
  intro past
  obtain ⟨r, t, es, hy, hx, hp⟩ := h past
  exact ⟨r, t, es, hy, hx, hPQ r t es hp⟩

/-- Two statements on one run are about the same result and the same entries. -/
theorem both (hP : Tells y x s P) (hQ : Tells y x s Q) :
    Tells y x s fun r t es => P r t es ∧ Q r t es := by
  intro past
  obtain ⟨r, t, es, hy, hx, hp⟩ := hP past
  obtain ⟨r', t', fs, hy', hx', hq⟩ := hQ past
  rw [hy] at hy'
  rw [hx] at hx'
  cases hy'
  have hes : es = fs := by simpa using hx'
  exact ⟨r, t, es, hy, hx, hp, hes ▸ hq⟩

theorem outcome_eq (h : Tells y x s P) :
    Tells y x s fun r t es => outcome y s = (r, t) ∧ P r t es := by
  intro past
  obtain ⟨r, t, es, hy, hx, hp⟩ := h past
  exact ⟨r, t, es, hy, hx, hy, hp⟩

theorem pure {a : α} (h : Q (.ok a) s []) : Tells (Pure.pure a) (Pure.pure a) s Q := fun past =>
  ⟨.ok a, s, [], rfl, by rw [List.append_nil]; rfl, h⟩

/-- The entries of the second act come after those of the first, unless that has failed. -/
theorem bind {f : α → EStateM ε σ δ} {g : α → EStateM ε (σ × Journal β π γ σ) δ}
    {R : Except ε δ → σ → Journal β π γ σ → Prop} (h : Tells y x s P)
    (hok : ∀ a t es, P (.ok a) t es → Tells (f a) (g a) t fun r u fs => R r u (es ++ fs))
    (herror : ∀ e t es, P (.error e) t es → R (.error e) t es) :
    Tells (y >>= f) (x >>= g) s R := by
  intro past
  obtain ⟨r, t, es, hy, hx, hp⟩ := h past
  cases r with
  | ok a =>
    obtain ⟨r', u, fs, hf, hg, hr⟩ := hok a t es hp (past ++ es)
    refine ⟨r', u, es ++ fs, ?_, ?_, hr⟩
    · rw [outcome_bind_of_ok hy, hf]
    · rw [outcome_bind_of_ok hx, hg, List.append_assoc]
  | error e =>
    exact ⟨.error e, t, es, outcome_bind_of_error hy, outcome_bind_of_error hx, herror e t es hp⟩

theorem get_bind {f : σ → EStateM ε σ α}
    {g : σ × Journal β π γ σ → EStateM ε (σ × Journal β π γ σ) α}
    (h : ∀ past, Tells (f s) (g (s, past)) s Q) : Tells (get >>= f) (get >>= g) s Q :=
  fun past => h past past

theorem call {act : EStateM Fault σ α} {entry : Except Fault α → Entry β π γ σ}
    {Q : Except Fault α → σ → Journal β π γ σ → Prop}
    (h : ∀ r t, outcome act s = (r, t) → Q r t [entry r]) :
    Tells act (journaling entry act) s Q := by
  intro past
  cases hact : act s with
  | ok a t =>
    have hr := outcome_of_ok hact
    exact ⟨_, _, _, hr, by simp [outcome, journaling, hact], h _ _ hr⟩
  | error f t =>
    have hr := outcome_of_error hact
    exact ⟨_, _, _, hr, by simp [outcome, journaling, hact], h _ _ hr⟩

theorem during {y : EStateM Fault σ α} {x : EStateM Fault (σ × Journal β π γ σ) α} {stage : Stage}
    {started : List π} {R : Except (Setback π) α → σ → Journal β π γ σ → Prop}
    (h : Tells y x s fun r t j => R (r.mapError fun fault => { fault, stage, started }) t j) :
    Tells (Lifecycle.during stage started y) (Lifecycle.during stage started x) s R := by
  intro past
  obtain ⟨r, t, es, hy, hx, hr⟩ := h past
  refine ⟨_, t, es, ?_, ?_, hr⟩
  · exact outcome_during hy
  · exact outcome_during hx

/-- What is done first adds `es` and leads from `s` to `t`. -/
theorem after {y' : EStateM ε σ α} {x' : EStateM ε (σ × Journal β π γ σ) α} {t : σ}
    {es : Journal β π γ σ} (hy : y s = y' t) (hx : ∀ past, x (s, past) = x' (t, past ++ es))
    (h : Tells y' x' t fun r u j => Q r u (es ++ j)) : Tells y x s Q := by
  intro past
  obtain ⟨r, u, j, hy', hx', hr⟩ := h (past ++ es)
  refine ⟨r, u, es ++ j, ?_, ?_, hr⟩
  · rw [outcome, hy]
    exact hy'
  · rw [outcome, hx, ← List.append_assoc]
    exact hx'

theorem log_bind {e : Log.Event}
    (h : Tells y x (L.log e s) fun r t j => Q r t ([.logged e s] ++ j)) :
    Tells (modify (L.log e) >>= fun _ => y) (modify (L.journaled.log e) >>= fun _ => x) s Q := by
  have hy : (modify (L.log e) >>= fun _ => y) s = y (L.log e s) := rfl
  have hx (past : Journal β π γ σ) : (modify (L.journaled.log e) >>= fun _ => x) (s, past) =
      x (L.log e s, past ++ [.logged e s]) := rfl
  exact .after hy hx h

end Tells
end Preflight
