import Preflight.Proofs.Bootstrap.LoadOrder
import Preflight.Proofs.Bootstrap.Registering
import Preflight.Proofs.Bootstrap.Shutdown

/-! What all parts of an agent's life keep, its launch and its shutdowns keep, and so it is true of
the picture of the pipeline that a launch takes. The listeners of the last checkpoint are shown that
picture and no other, and the agent has it for good. -/
namespace Preflight
variable {β π γ σ ε α δ : Type} {c : Checkpoint}

theorem Leads.during {R : σ → σ → Prop} {act : EStateM Fault σ α} (h : Leads R act) (stage : Stage)
    (started : List π) : Leads R (Lifecycle.during stage started act) := by
  intro s
  have hs := h s
  cases hact : outcome act s with
  | mk r t =>
    rw [hact] at hs
    rwa [outcome_during hact]

namespace Lifecycle
variable {L : Lifecycle β π γ σ} {R : σ → σ → Prop}

/-- Whatever a part of an agent's life comes to, it leads from a state to one that `R` relates to
it. -/
structure Leading (L : Lifecycle β π γ σ) (R : σ → σ → Prop) : Prop where
  refl (s : σ) : R s s
  trans (s t u : σ) : R s t → R t u → R s u
  construct (b : β) : Leads R (L.construct b)
  start (p : π) : Leads R (L.start p)
  stop (p : π) : Leads R (L.stop p)
  notify (c : Checkpoint) (l : γ) (view : View π c) : Leads R (L.notify l view)
  log (e : Log.Event) (s : σ) : R s (L.log e s)

namespace Leading

theorem report (h : L.Leading R) (e : Log.Event) {act : EStateM ε σ α} (hact : Leads R act) :
    Leads R (modify (L.log e) >>= fun _ => act) :=
  .bind h.trans (.modify (h.log e)) fun _ => hact

theorem notifyAll (h : L.Leading R) (listeners : List γ) (view : View π c) :
    Leads R (L.notifyAll listeners view) := by
  induction listeners generalizing view with
  | nil => exact .pure h.refl ()
  | cons l rest ih =>
    exact .get_bind fun s => Leads.bind h.trans (h.notify c l _) (fun view' => ih view') s

theorem notifying (h : L.Leading R) (started : List π) (view : View π c) :
    Leads R (L.notifying started view) :=
  .during (.get_bind fun s => h.report _ (h.notifyAll _ view) s) _ _

theorem startEach (h : L.Leading R) (started plugins : List π) :
    Leads R (L.startEach started plugins) := by
  induction plugins generalizing started with
  | nil => exact .pure h.refl ()
  | cons p rest ih => exact .bind h.trans ((h.start p).during _ _) fun _ => ih _

theorem load (h : L.Leading R) (plan : List β) : Leads R (L.load plan) := by
  have hconstruct : Leads R (plan.mapM L.construct) := .mapM h.refl h.trans fun b _ => h.construct b
  refine .bind h.trans (hconstruct.during _ _) fun plugins => h.report _ ?_
  exact .bind h.trans (h.notifying [] _) fun _ => .pure h.refl plugins

theorem startAll (h : L.Leading R) (plugins : List π) : Leads R (L.startAll plugins) :=
  .bind h.trans (h.startEach [] plugins) fun _ =>
    .get_bind fun s => h.report _ (h.notifying plugins _) s

theorem assemble (h : L.Leading R) (plugins : List π) : Leads R (L.assemble plugins) :=
  .get_bind fun s => Leads.bind h.trans (h.notifying plugins _) (fun _ => .pure h.refl _) s

theorem boot (h : L.Leading R) (plan : List β) : Leads R (L.boot plan) :=
  .bind h.trans (h.load plan) fun plugins =>
    .bind h.trans (h.startAll plugins) fun _ => h.assemble plugins

theorem stopEach (h : L.Leading R) (plugins : List π) : Leads R (L.stopEach plugins) := by
  induction plugins with
  | nil => exact .pure h.refl []
  | cons p rest ih =>
    intro s
    have hp := h.stop p s
    cases hstop : L.stop p s with
    | ok u t =>
      rw [outcome_of_ok hstop] at hp
      rw [outcome, L.stopEach_cons_of_ok hstop]
      exact h.trans s t _ hp (ih t)
    | error f t =>
      rw [outcome_of_error hstop] at hp
      cases hf : f.isInterrupt with
      | true => rwa [outcome_of_error (L.stopEach_cons_of_interrupt hstop hf rest)]
      | false =>
        have hcons : outcome (L.stopEach (p :: rest)) s =
            outcome ((L.name p :: ·) <$> L.stopEach rest) (L.log (.stopFailed (L.name p) f) t) := by
          rw [outcome, L.stopEach_cons_of_fault hstop hf, outcome]
        rw [hcons, outcome_map]
        exact h.trans s _ _ (h.trans s t _ hp (h.log _ t)) (ih _)

theorem launch (h : L.Leading R) (plan : List β) : Leads R (L.launch plan) := by
  intro s
  have hboot := h.boot plan s
  cases hb : L.boot plan s with
  | ok agent t =>
    rw [outcome_of_ok hb] at hboot
    rw [outcome_of_ok (L.launch_of_ok hb)]
    exact h.trans s t _ hboot (h.log _ t)
  | error setback t =>
    rw [outcome_of_error hb] at hboot
    cases hf : setback.fault.isInterrupt with
    | true => rwa [outcome_of_error (L.launch_of_interrupt hb hf)]
    | false =>
      let report : Log.Event := .bootstrapFailed setback.stage.word setback.fault
      have hreported := h.trans s t _ hboot (h.log report t)
      have hstopped := h.stopEach setback.started.reverse (L.log report t)
      cases hstop : L.stopEach setback.started.reverse (L.log report t) with
      | ok failures u =>
        rw [outcome_of_ok hstop] at hstopped
        rw [outcome_of_error (L.launch_of_fault hb hf hstop)]
        exact h.trans s _ u hreported hstopped
      | error f u =>
        rw [outcome_of_error hstop] at hstopped
        rw [outcome_of_error (L.launch_of_broken_stop hb hf hstop)]
        exact h.trans s _ u hreported hstopped

theorem tryShutdown (h : L.Leading R) (a : Agent π) : Leads R (L.tryShutdown a) := by
  cases ha : a.running with
  | false =>
    rw [L.tryShutdown_of_ended ha]
    exact .pure h.refl _
  | true =>
    intro s
    have hstopped := h.stopEach a.plugins.reverse s
    cases hstop : L.stopEach a.plugins.reverse s with
    | ok failures t =>
      rw [outcome_of_ok hstop] at hstopped
      rw [outcome_of_ok (L.tryShutdown_of_ok ha hstop)]
      exact h.trans s t _ hstopped (h.log _ t)
    | error f t =>
      rw [outcome_of_error hstop] at hstopped
      rwa [outcome_of_ok (L.tryShutdown_of_error ha hstop)]

end Leading

/-! ## The picture of the pipeline -/

variable (L) in
/-- A launch takes a picture of the pipeline when all plugins have started and the listeners of that
checkpoint have been called. -/
def Takes (plan : List β) (s : σ) (pipeline : Pipeline) : Prop :=
  ∃ plugins t u, L.load plan s = .ok plugins t ∧ L.startAll plugins t = .ok () u ∧
    (L.host u).pipeline = pipeline

variable {plan : List β} {s t : σ} {agent : Agent π} {pipeline : Pipeline}

/-- What all parts of a life keep has been kept when the picture is taken. -/
theorem Leading.exists_of_takes (h : L.Leading R) (taken : L.Takes plan s pipeline) :
    ∃ t, R s t ∧ (L.host t).pipeline = pipeline := by
  obtain ⟨plugins, t, u, hload, hstart, hpipeline⟩ := taken
  have hst := h.load plan s
  have htu := h.startAll plugins t
  rw [outcome_of_ok hload] at hst
  rw [outcome_of_ok hstart] at htu
  exact ⟨u, h.trans s t u hst htu, hpipeline⟩

theorem boot_of_launch_ok (h : L.launch plan s = .ok agent t) :
    ∃ u, L.boot plan s = .ok agent u ∧ t = L.log (.agentStarted (L.host u).pipeline) u := by
  cases hboot : L.boot plan s with
  | ok a u =>
    rw [L.launch_of_ok hboot] at h
    cases h
    exact ⟨u, rfl, rfl⟩
  | error setback u =>
    rw [Lifecycle.launch, hboot] at h
    dsimp only at h
    split at h
    · cases h
    · split at h <;> cases h

/-- A started agent has the picture. -/
theorem takes_of_launch_ok (h : L.launch plan s = .ok agent t) :
    L.Takes plan s agent.pipeline := by
  obtain ⟨u, hboot, -⟩ := boot_of_launch_ok h
  obtain ⟨plugins, v, hload, hboot⟩ := exists_of_bind_ok hboot
  obtain ⟨_, x, hstart, hboot⟩ := exists_of_bind_ok hboot
  obtain ⟨_, y, hget, hboot⟩ := exists_of_bind_ok hboot
  cases hget
  obtain ⟨_, z, -, hboot⟩ := exists_of_bind_ok hboot
  cases hboot
  exact ⟨plugins, v, x, hload, hstart, rfl⟩

section Shown
open Journal
variable (L)

theorem tells_notifying_silent (started : List π) (view : View π c) (s : σ) {d : Checkpoint}
    (hd : d ≠ c) : Tells (L.notifying started view) (L.journaled.notifying started view) s
      fun _ _ j => Silent d j := by
  refine (L.tells_notifying_shown started view s).mono ?_
  rintro r t j ⟨-, r', k, rfl, hshown⟩
  exact hshown.silent_reached hd _ s

theorem tells_load_silent (plan : List β) (s : σ) {d : Checkpoint} (hd : d ≠ .pluginsLoaded) :
    Tells (L.load plan) (L.journaled.load plan) s fun _ _ j => Silent d j := by
  have hconstruct := (L.tells_mapM_construct_silent plan s).during_entries .constructing []
  refine Tells.bind hconstruct ?_ fun _ _ _ hi => hi d
  intro plugins t i hi
  refine Tells.log_bind ((Tells.bind_return (L.tells_notifying_silent [] _ _ hd) _).mono ?_)
  exact fun _ _ _ hj => (hi d).report hj.1 rfl t

theorem tells_startAll_silent (plugins : List π) (s : σ) {d : Checkpoint}
    (hd : d ≠ .pluginsStarted) :
    Tells (L.startAll plugins) (L.journaled.startAll plugins) s fun _ _ j => Silent d j := by
  refine Tells.bind (L.tells_startEach_silent [] plugins s) ?_ fun _ _ _ hi => hi d
  intro u t i hi
  refine Tells.get_bind fun past => Tells.log_bind ?_
  refine (L.tells_notifying_silent plugins (.started plugins _) _ hd).mono ?_
  exact fun _ _ _ hj => (hi d).report hj rfl t

/-- No picture is shown but the one that is taken. -/
theorem tells_boot_takes (frozen : L.FreezesViews) (plan : List β) (s : σ) :
    Tells (L.boot plan) (L.journaled.boot plan) s fun _ _ j =>
      ∀ l pipeline r, .notified l (.assembled pipeline) r ∈ j → L.Takes plan s pipeline := by
  have hunshown {i : Journal β π γ σ} (hi : Silent .operationBegins i) {l : γ} {p : Pipeline}
      {r : Except Fault (View π .operationBegins)} :
      ¬ .notified l (.assembled p) r ∈ i := fun hmem => absurd rfl (hi _ hmem)
  refine Tells.bind (L.tells_load_silent plan s (d := .operationBegins) nofun).outcome_eq ?_
    fun _ _ _ hi _ _ _ hmem => absurd hmem (hunshown hi.2)
  rintro plugins t i ⟨hload, hi⟩
  refine Tells.bind (L.tells_startAll_silent plugins t (d := .operationBegins) nofun).outcome_eq ?_
    fun _ _ _ hj _ _ _ hmem => absurd hmem (hunshown (silent_append.mpr ⟨hi, hj.2⟩))
  rintro _ u j ⟨hstart, hj⟩
  have taken : L.Takes plan s (L.host u).pipeline :=
    ⟨plugins, t, u, outcome_eq_ok hload, outcome_eq_ok hstart, rfl⟩
  have hshown := (L.tells_notifying_shown plugins (.assembled (L.host u).pipeline) u).mono
    fun _ _ _ hk => hk.2
  refine Tells.get_bind fun past => ?_
  refine (Tells.bind_return hshown _).mono ?_
  rintro r v k ⟨⟨r', k', rfl, hshown⟩, -⟩ l pipeline r'' hmem
  have hmem : .notified l (.assembled pipeline) r'' ∈ k' := by
    simpa [hunshown hi, hunshown hj] using hmem
  obtain ⟨l', metrics, _, heq⟩ := hshown.of_kept (frozen .operationBegins nofun) _ hmem
  cases heq
  exact taken

/-- What listeners of the last checkpoint are shown is the picture that the launch takes. -/
theorem takes_of_notified (frozen : L.FreezesViews) {l : γ}
    {r : Except Fault (View π .operationBegins)}
    (h : .notified l (.assembled pipeline) r ∈ L.journal plan s) :
    L.Takes plan s pipeline := by
  obtain ⟨r', t, j, hy, hx, booted, u, i, k, hboot, hi, rfl, hk⟩ :=
    tells_launch_extends (L.tells_boot_takes frozen plan s) []
  rw [journal, hx, List.nil_append] at h
  rcases List.mem_append.mp h with hmem | hmem
  · exact hi l pipeline r hmem
  · have hdeed := List.filterMap_eq_nil_iff.mp hk _ hmem
    cases hdeed

end Shown
end Lifecycle
end Preflight
