import Preflight.Proofs.Bootstrap.LoadOrder

/-! Lifecycles that always call the same listeners. As long as a journal tells of no others, a
bootstrap is one of such a lifecycle: who would be called in other states does not matter to it. -/
namespace Preflight
variable {β π γ σ ε α δ : Type} {c : Checkpoint}

namespace Lifecycle
open Journal
variable (L : Lifecycle β π γ σ) (called : Checkpoint → List γ)

/-- The lifecycle with listeners that do not depend on the state. -/
def hearing : Lifecycle β π γ σ := { L with listeners := fun c _ => called c }

/-- Where the journal of `x`, which does what `y` does, tells of no listeners but those in `called`,
the act `z` does the same. -/
def Echoes (y : EStateM ε σ α) (x : EStateM ε (σ × Journal β π γ σ) α) (z : EStateM ε σ α) : Prop :=
  ∀ s, Tells y x s fun r t j => L.Heard called j → outcome z s = (r, t)

variable {L called}

theorem hearing_start (p : π) : (L.hearing called).start p = L.start p := rfl

theorem hearing_notify (l : γ) (view : View π c) :
    (L.hearing called).notify l view = L.notify l view := rfl

theorem hearing_host (s : σ) : (L.hearing called).host s = L.host s := rfl

theorem hearing_notifyAll (listeners : List γ) (view : View π c) :
    (L.hearing called).notifyAll listeners view = L.notifyAll listeners view := by
  induction listeners generalizing view with
  | nil => rfl
  | cons l rest ih => simp only [notifyAll, hearing_notify, hearing_host, ih]

theorem hearing_startEach (started plugins : List π) :
    (L.hearing called).startEach started plugins = L.startEach started plugins := by
  induction plugins generalizing started with
  | nil => rfl
  | cons p rest ih => simp only [startEach, hearing_start, ih]

namespace Echoes
variable {y z : EStateM ε σ α} {x : EStateM ε (σ × Journal β π γ σ) α}

/-- An act that calls no one by itself does not depend on the listeners. -/
theorem same (h : ∀ s, ∃ Q, Tells y x s Q) : L.Echoes called y x y := by
  intro s
  obtain ⟨Q, hQ⟩ := h s
  exact hQ.outcome_eq.mono fun r t j hj _ => hj.1

theorem pure (a : α) : L.Echoes called (Pure.pure a) (Pure.pure a : EStateM ε _ α) (Pure.pure a) :=
  fun _ => Tells.pure fun _ => rfl

theorem bind {f h : α → EStateM ε σ δ} {g : α → EStateM ε (σ × Journal β π γ σ) δ}
    (first : L.Echoes called y x z) (next : ∀ a, L.Echoes called (f a) (g a) (h a)) :
    L.Echoes called (y >>= f) (x >>= g) (z >>= h) := by
  intro s
  refine Tells.bind (first s) ?_ ?_
  · intro a t i hi
    refine (next a t).mono fun r u j hj heard => ?_
    rw [outcome_bind_of_ok (hi heard.left)]
    exact hj heard.right
  · intro e t i hi heard
    exact outcome_bind_of_error (hi heard)

theorem get_bind {f h : σ → EStateM ε σ α}
    {g : σ × Journal β π γ σ → EStateM ε (σ × Journal β π γ σ) α}
    (next : ∀ s past, L.Echoes called (f s) (g (s, past)) (h s)) :
    L.Echoes called (get >>= f) (get >>= g) (get >>= h) :=
  fun _ => Tells.get_bind fun past => next _ past _

theorem log_bind {e : Log.Event} (next : L.Echoes called y x z) :
    L.Echoes called (modify (L.log e) >>= fun _ => y) (modify (L.journaled.log e) >>= fun _ => x)
      (modify (L.log e) >>= fun _ => z) :=
  fun _ => Tells.log_bind ((next _).mono fun _ _ _ hj heard => hj heard.right)

theorem during {y z : EStateM Fault σ α} {x : EStateM Fault (σ × Journal β π γ σ) α} {stage : Stage}
    {started : List π} (act : L.Echoes called y x z) :
    L.Echoes called (Lifecycle.during stage started y) (Lifecycle.during stage started x)
      (Lifecycle.during stage started z) :=
  fun _ => Tells.during ((act _).mono fun _ _ _ hj heard => outcome_during (hj heard))

end Echoes

theorem echoes_reach (view : View π c) :
    L.Echoes called (L.reach view) (L.journaled.reach view) ((L.hearing called).reach view) := by
  intro s
  refine Tells.get_bind fun past => Tells.log_bind ?_
  refine (L.tells_notifyAll (L.listeners c s) view _).outcome_eq.mono ?_
  intro r t j hj heard
  have hcalled : L.listeners c s = called c :=
    heard c _ s (List.mem_append_left _ (List.mem_singleton_self _))
  rw [hcalled] at hj
  have hreach : outcome ((L.hearing called).reach view) s =
      outcome ((L.hearing called).notifyAll (called c) view)
        (L.log (.checkpointReached c (called c).length) s) := rfl
  rw [hreach, hearing_notifyAll, hj.1]

theorem echoes_notifying (started : List π) (view : View π c) :
    L.Echoes called (L.notifying started view) (L.journaled.notifying started view)
      ((L.hearing called).notifying started view) := (echoes_reach view).during

theorem echoes_load (plan : List β) :
    L.Echoes called (L.load plan) (L.journaled.load plan) ((L.hearing called).load plan) := by
  refine Echoes.bind (.same fun s => ⟨_, L.tells_constructAll plan s⟩) fun plugins => ?_
  exact (Echoes.bind (echoes_notifying [] (.loaded plugins)) fun _ => .pure plugins).log_bind

theorem echoes_startAll (plugins : List π) :
    L.Echoes called (L.startAll plugins) (L.journaled.startAll plugins)
      ((L.hearing called).startAll plugins) := by
  have hstart : L.Echoes called (L.startEach [] plugins) (L.journaled.startEach [] plugins)
      ((L.hearing called).startEach [] plugins) := by
    rw [hearing_startEach]
    exact .same fun s => ⟨_, L.tells_startEach [] plugins s⟩
  refine Echoes.bind hstart fun _ => ?_
  exact Echoes.get_bind fun _ _ => (echoes_notifying plugins _).log_bind

theorem echoes_assemble (plugins : List π) :
    L.Echoes called (L.assemble plugins) (L.journaled.assemble plugins)
      ((L.hearing called).assemble plugins) :=
  Echoes.get_bind fun s _ =>
    Echoes.bind (echoes_notifying plugins (.assembled (L.host s).pipeline)) fun _ => .pure _

theorem echoes_boot (plan : List β) :
    L.Echoes called (L.boot plan) (L.journaled.boot plan) ((L.hearing called).boot plan) :=
  Echoes.bind (echoes_load plan) fun plugins =>
    Echoes.bind (echoes_startAll plugins) fun _ => echoes_assemble plugins

theorem hearing_boot {plan : List β} {s : σ} (heard : L.Heard called (L.journal plan s)) :
    outcome ((L.hearing called).boot plan) s = outcome (L.boot plan) s := by
  have hechoes : L.Echoes called (L.boot plan) (L.journaled.boot plan)
      ((L.hearing called).boot plan) := echoes_boot plan
  obtain ⟨r, t, j, hy, hx, booted, u, i, k, hboot, hi, rfl, -⟩ :=
    tells_launch_extends (hechoes s) []
  have hjournal : L.journal plan s = i ++ k := by rw [journal, hx, List.nil_append]
  rw [hjournal] at heard
  exact (hi heard.left).trans hboot.symm

end Lifecycle
end Preflight
