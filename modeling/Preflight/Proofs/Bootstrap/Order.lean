import Preflight.Audience
import Preflight.Proofs.Bootstrap.Stopping

/-! The order of a bootstrap. Constructing, starting and notifying follow one plan up to the first
fault; after that the plugins that have started are stopped, the last one first. Plugins and
listeners are arbitrary, and so are the faults that stopping ends in. -/
namespace Preflight
variable {β π γ σ ε α : Type} {c : Checkpoint}

namespace Lifecycle
open Journal
variable (L : Lifecycle β π γ σ)

/-- At each checkpoint that the journal tells of, the listeners were those in `called`. -/
def Heard (called : Checkpoint → List γ) (j : Journal β π γ σ) : Prop :=
  ∀ c n s, Entry.logged (.checkpointReached c n) s ∈ j → L.listeners c s = called c

variable {L} {started : List π} {ds es : List (Deed β π γ)} {i j : Journal β π γ σ}
  {called : Checkpoint → List γ}

theorem Heard.left (h : L.Heard called (i ++ j)) : L.Heard called i :=
  fun c n s hs => h c n s (List.mem_append_left j hs)

theorem Heard.right (h : L.Heard called (i ++ j)) : L.Heard called j :=
  fun c n s hs => h c n s (List.mem_append_right i hs)

variable (L)

theorem tells_construct (b : β) (s : σ) :
    Tells (L.construct b) (L.journaled.construct b) s fun r _ j =>
      Carried [.construct b] r j ∧ WhenOk r fun p => made j = [p] := by
  refine Tells.call fun r t _ => ?_
  cases r with
  | ok p => exact ⟨carried_entry rfl rfl rfl, rfl⟩
  | error f => exact ⟨carried_entry rfl rfl rfl, trivial⟩

theorem tells_mapM_construct (plan : List β) (s : σ) :
    Tells (plan.mapM L.construct) (plan.mapM L.journaled.construct) s fun r _ j =>
      Carried (plan.map .construct) r j ∧ WhenOk r (made j = ·) := by
  induction plan generalizing s with
  | nil => exact .pure ⟨done_nil, rfl⟩
  | cons b rest ih =>
    simp only [List.mapM_cons]
    refine Tells.bind (L.tells_construct b s) ?_ ?_
    · intro p t i hi
      refine Tells.bind (ih t) ?_ ?_
      · intro plugins u j hj
        refine Tells.pure ?_
        rw [List.append_nil]
        exact ⟨Done.append hi.1 hj.1, (made_append i j).trans (by rw [hi.2, hj.2]; rfl)⟩
      · intro f u j hj
        exact ⟨Done.append_broken hi.1 hj.1, trivial⟩
    · intro f t i hi
      exact ⟨Broken.append hi.1 _, trivial⟩

theorem tells_notify (l : γ) (view : View π c) (s : σ) :
    Tells (L.notify l view) (L.journaled.notify l view) s fun r _ j =>
      Carried [.notify c l] r j := by
  refine Tells.call fun r t _ => ?_
  cases r with
  | ok view' => exact carried_entry rfl rfl rfl
  | error f => exact carried_entry rfl rfl rfl

theorem tells_notifyAll (listeners : List γ) (view : View π c) (s : σ) :
    Tells (L.notifyAll listeners view) (L.journaled.notifyAll listeners view) s fun r _ j =>
      Carried (listeners.map (.notify c)) r j := by
  induction listeners generalizing view s with
  | nil => exact .pure done_nil
  | cons l rest ih =>
    refine Tells.get_bind fun past => ?_
    refine Tells.bind (L.tells_notify l _ s) ?_ ?_
    · intro view' t i hi
      exact (ih view' t).mono fun r u j hj => Done.append_carried hi hj
    · intro f t i hi
      exact Broken.append hi _

/-- The listeners are those of the state in which the checkpoint is reached. -/
theorem tells_reach (called : Checkpoint → List γ) (view : View π c) (s : σ) :
    Tells (L.reach view) (L.journaled.reach view) s fun r _ j => L.Heard called j →
      Carried ((called c).map (.notify c)) r j := by
  refine Tells.get_bind fun past => Tells.log_bind ?_
  refine (L.tells_notifyAll _ view _).mono ?_
  intro r t j hj heard
  rw [heard c _ s (List.mem_append_left _ (List.mem_singleton_self _))] at hj
  exact (done_logged _ s).append_carried hj

theorem tells_notifying (called : Checkpoint → List γ) (started : List π) (view : View π c)
    (s : σ) :
    Tells (L.notifying started view) (L.journaled.notifying started view) s fun r _ j =>
      L.Heard called j → Phase started ((called c).map (.notify c)) r j := by
  refine Tells.during ((L.tells_reach called view s).mono ?_)
  intro r t j hj heard
  refine .of_carried (hj heard) (running_eq_nil (hj heard).deeds_within ?_)
  simp

theorem tells_start (started : List π) (p : π) (s : σ) :
    Tells (during .starting started (L.start p)) (during .starting started (L.journaled.start p)) s
      fun r _ j => Phase started [.start p] r j ∧ WhenOk r fun _ => running j = [p] := by
  refine Tells.during (Tells.call fun r t _ => ?_)
  cases r with
  | ok u => exact ⟨⟨rfl, rfl, rfl⟩, rfl⟩
  | error f => exact ⟨.of_carried (carried_entry rfl rfl rfl) rfl, trivial⟩

theorem tells_startEach (started plugins : List π) (s : σ) :
    Tells (L.startEach started plugins) (L.journaled.startEach started plugins) s fun r _ j =>
      Phase started (plugins.map .start) r j ∧ WhenOk r fun _ => running j = plugins := by
  induction plugins generalizing started s with
  | nil => exact .pure ⟨done_nil, rfl⟩
  | cons p rest ih =>
    refine Tells.bind (L.tells_start started p s) ?_ ?_
    · intro u t i hi
      -- The rest begins with one more plugin started, which a setback has to tell of.
      have hrun : running i = [p] := hi.2
      refine (ih (started ++ [p]) t).mono ?_
      intro r v j hj
      rw [← hrun] at hj
      refine ⟨Done.phase hi.1 hj.1, ?_⟩
      cases r with
      | ok w => exact (running_append i j).trans (by rw [hrun, hj.2]; rfl)
      | error e => trivial
    · intro setback t i hi
      exact ⟨hi.1.stuck _, trivial⟩

theorem tells_constructAll (plan : List β) (s : σ) :
    Tells (during .constructing [] (plan.mapM L.construct))
      (during .constructing [] (plan.mapM L.journaled.construct)) s fun r _ j =>
        Phase [] (plan.map .construct) r j ∧ running j = [] ∧ WhenOk r (made j = ·) := by
  refine Tells.during ((L.tells_mapM_construct plan s).mono ?_)
  intro r t j hj
  have hrun : running j = [] := running_eq_nil hj.1.deeds_within (by simp)
  refine ⟨.of_carried hj.1 hrun, hrun, ?_⟩
  cases r with
  | ok plugins => exact hj.2
  | error f => trivial

theorem tells_load (called : Checkpoint → List γ) (plan : List β) (s : σ) :
    Tells (L.load plan) (L.journaled.load plan) s fun r _ j => L.Heard called j →
      Phase [] (plan.map .construct ++ (called .pluginsLoaded).map (.notify .pluginsLoaded)) r j ∧
        running j = [] ∧ WhenOk r (made j = ·) := by
  refine Tells.bind (L.tells_constructAll plan s) ?_ ?_
  · intro plugins t i hi
    obtain ⟨hi, hrun, hmade⟩ := hi
    refine Tells.log_bind (Tells.bind (L.tells_notifying called [] (.loaded plugins) _) ?_ ?_)
    · intro u t' j hj
      refine Tells.pure fun heard => ?_
      rw [List.append_nil] at heard ⊢
      have hj := (hj heard.right.right).logged (.pluginsConstructed (L.names plugins)) t
      refine ⟨Done.append hi hj, ?_, ?_⟩
      · rw [running_append_eq_left hj.deeds_within (by simp), hrun]
      · exact (made_append_eq_left hj.deeds_within (by simp)).trans hmade
    · intro setback t' j hj heard
      have hj := (hj heard.right.right).logged (.pluginsConstructed (L.names plugins)) t
      refine ⟨Done.phase hi (by rwa [hrun]), ?_, trivial⟩
      rw [running_append_eq_left hj.deeds_within (by simp), hrun]
  · intro setback t i hi _
    exact ⟨hi.1.stuck _, hi.2.1, trivial⟩

theorem tells_startAll (called : Checkpoint → List γ) (plugins : List π) (s : σ) :
    Tells (L.startAll plugins) (L.journaled.startAll plugins) s fun r _ j => L.Heard called j →
      Phase [] (plugins.map .start ++
        (called .pluginsStarted).map (.notify .pluginsStarted)) r j ∧
        WhenOk r fun _ => running j = plugins := by
  refine Tells.bind (L.tells_startEach [] plugins s) ?_ ?_
  · intro u t i hi
    have hrun : running i = plugins := hi.2
    refine Tells.get_bind fun past => Tells.log_bind ?_
    refine (L.tells_notifying called plugins _ _).mono ?_
    intro r v j hj heard
    have hj := (hj heard.right.right).logged
      (.pluginsStarted plugins.length (L.host t).metrics.size) t
    refine ⟨Done.phase hi.1 (by rwa [hrun]), ?_⟩
    rw [running_append_eq_left hj.deeds_within (by simp), hrun]
    cases r <;> trivial
  · intro setback t i hi _
    exact ⟨hi.1.stuck _, trivial⟩

theorem tells_assemble (called : Checkpoint → List γ) (plugins : List π) (s : σ) :
    Tells (L.assemble plugins) (L.journaled.assemble plugins) s fun r _ j => L.Heard called j →
      Phase plugins ((called .operationBegins).map (.notify .operationBegins)) r j ∧
        WhenOk r fun agent => agent.plugins = plugins ∧ agent.running = true := by
  refine Tells.get_bind fun past => ?_
  refine Tells.bind (L.tells_notifying called plugins _ s) ?_ ?_
  · intro u t i hi
    refine Tells.pure fun heard => ?_
    rw [List.append_nil] at heard ⊢
    exact ⟨hi heard, rfl, rfl⟩
  · intro setback t i hi heard
    exact ⟨hi heard, trivial⟩

theorem tells_boot (called : Checkpoint → List γ) (plan : List β) (s : σ) :
    Tells (L.boot plan) (L.journaled.boot plan) s fun r _ j => L.Heard called j →
      Phase [] (planned plan (made j) called) r j ∧
        WhenOk r fun agent => agent.plugins = made j ∧ agent.running = true := by
  refine Tells.bind (L.tells_load called plan s) ?_ ?_
  · intro plugins t i hi
    refine Tells.bind (L.tells_startAll called plugins t) ?_ ?_
    · intro u t' j hj
      refine (L.tells_assemble called plugins t').mono ?_
      intro r v k hk heard
      obtain ⟨hi, hrun, hmade⟩ := hi heard.left
      obtain ⟨hj, hrun'⟩ := hj heard.right.left
      obtain ⟨hk, hagent⟩ := hk heard.right.right
      have hplugins : made (i ++ (j ++ k)) = plugins := by
        rw [← List.append_assoc, made_append_eq_left hk.deeds_within (by simp),
          made_append_eq_left hj.deeds_within (by simp), hmade]
      rw [hplugins, ← List.append_assoc]
      refine ⟨Done.phase (Done.append hi hj) ?_, hagent⟩
      rwa [running_append, hrun, hrun']
    · intro setback t' j hj heard
      obtain ⟨hi, hrun, hmade⟩ := hi heard.left
      obtain ⟨hj, -⟩ := hj heard.right
      have hplugins : made (i ++ j) = plugins := by
        rw [made_append_eq_left hj.deeds_within (by simp), hmade]
      rw [hplugins]
      exact ⟨(Done.phase hi (by rwa [hrun])).stuck _, trivial⟩
  · intro setback t i hi heard
    obtain ⟨hi, -, -⟩ := hi heard
    refine ⟨?_, trivial⟩
    rw [planned, List.append_assoc]
    exact hi.stuck _

/-- What a launch comes to, by what its bootstrap comes to: it is done; or it is interrupted; or it
fails and the started plugins are stopped; or it fails and the stopping is interrupted. -/
theorem tells_launch_ending {plan : List β} {s : σ}
    {P : Except (Setback π) (Agent π) → σ → Journal β π γ σ → Prop}
    {Q : Except Fault (Agent π) → Journal β π γ σ → Prop}
    (h : Tells (L.boot plan) (L.journaled.boot plan) s P)
    (done : ∀ agent t i, P (.ok agent) t i →
      Q (.ok agent) (i ++ [.logged (.agentStarted (L.host t).pipeline) t]))
    (interrupted : ∀ setback t i, P (.error setback) t i → setback.fault.isInterrupt = true →
      Q (.error setback.fault) i)
    (stopped : ∀ setback t i k failures, P (.error setback) t i →
      setback.fault.isInterrupt = false →
      Stopping L.name setback.started.reverse (.ok failures) k → Q (.error setback.fault)
        (i ++ ([.logged (.bootstrapFailed setback.stage.word setback.fault) t] ++ k)))
    (broken : ∀ setback t i k f, P (.error setback) t i → setback.fault.isInterrupt = false →
      Stopping L.name setback.started.reverse (.error f) k → Q (.error f)
        (i ++ ([.logged (.bootstrapFailed setback.stage.word setback.fault) t] ++ k))) :
    Tells (L.launch plan) (L.journaled.launch plan) s fun r _ j => Q r j := by
  intro past
  obtain ⟨r, t, i, hy, hx, hi⟩ := h past
  cases r with
  | ok agent =>
    refine ⟨.ok agent, _, i ++ [.logged (.agentStarted (L.host t).pipeline) t],
      outcome_of_ok (L.launch_of_ok (outcome_eq_ok hy)), ?_, done agent t i hi⟩
    rw [outcome_of_ok (L.journaled.launch_of_ok (outcome_eq_ok hx))]
    simp [journaled]
  | error setback =>
    cases hf : setback.fault.isInterrupt with
    | true =>
      exact ⟨_, t, i, outcome_of_error (L.launch_of_interrupt (outcome_eq_error hy) hf),
        outcome_of_error (L.journaled.launch_of_interrupt (outcome_eq_error hx) hf),
        interrupted setback t i hi hf⟩
    | false =>
      let failure : Log.Event := .bootstrapFailed setback.stage.word setback.fault
      obtain ⟨r, u, k, hy', hx', hk⟩ := L.tells_stopEach setback.started.reverse
        (L.log failure t) (past ++ i ++ [.logged failure t])
      cases r with
      | ok failures =>
        have hy := L.launch_of_fault (outcome_eq_error hy) hf (outcome_eq_ok hy')
        have hx := L.journaled.launch_of_fault (outcome_eq_error hx) hf (outcome_eq_ok hx')
        refine ⟨_, u, i ++ ([.logged failure t] ++ k), outcome_of_error hy, ?_,
          stopped setback t i k failures hi hf hk⟩
        simpa only [List.append_assoc] using outcome_of_error hx
      | error f =>
        have hy := L.launch_of_broken_stop (outcome_eq_error hy) hf (outcome_eq_error hy')
        have hx := L.journaled.launch_of_broken_stop (outcome_eq_error hx) hf (outcome_eq_error hx')
        refine ⟨_, u, i ++ ([.logged failure t] ++ k), outcome_of_error hy, ?_,
          broken setback t i k f hi hf hk⟩
        simpa only [List.append_assoc] using outcome_of_error hx

/-- The same, where it does not matter which fault is reported after a stopping. -/
theorem tells_launch_stopping {plan : List β} {s : σ}
    {P : Except (Setback π) (Agent π) → σ → Journal β π γ σ → Prop}
    {Q : Except Fault (Agent π) → Journal β π γ σ → Prop}
    (h : Tells (L.boot plan) (L.journaled.boot plan) s P)
    (done : ∀ agent t i, P (.ok agent) t i →
      Q (.ok agent) (i ++ [.logged (.agentStarted (L.host t).pipeline) t]))
    (interrupted : ∀ setback t i, P (.error setback) t i → setback.fault.isInterrupt = true →
      Q (.error setback.fault) i)
    (stopping : ∀ setback t i k r f, P (.error setback) t i →
      Stopping L.name setback.started.reverse r k → Q (.error f)
        (i ++ ([.logged (.bootstrapFailed setback.stage.word setback.fault) t] ++ k))) :
    Tells (L.launch plan) (L.journaled.launch plan) s fun r _ j => Q r j :=
  L.tells_launch_ending h done interrupted
    (fun setback t i k _ hi _ hk => stopping setback t i k _ _ hi hk)
    (fun setback t i k _ hi _ hk => stopping setback t i k _ _ hi hk)

/-- The same, where of the stopping it matters only who was asked to stop. -/
theorem tells_launch_of_boot {plan : List β} {s : σ}
    {P : Except (Setback π) (Agent π) → σ → Journal β π γ σ → Prop}
    {Q : Except Fault (Agent π) → Journal β π γ σ → Prop}
    (h : Tells (L.boot plan) (L.journaled.boot plan) s P)
    (done : ∀ agent t i, P (.ok agent) t i → ∀ e, Q (.ok agent) (i ++ [.logged e t]))
    (interrupted : ∀ setback t i, P (.error setback) t i → setback.fault.isInterrupt = true →
      Q (.error setback.fault) i)
    (stopped : ∀ setback t i k, P (.error setback) t i → setback.fault.isInterrupt = false →
      deeds k = [] → stops k = setback.started.reverse → Q (.error setback.fault) (i ++ k))
    (broken : ∀ setback t i k f, P (.error setback) t i → setback.fault.isInterrupt = false →
      deeds k = [] → f ∈ faults k → f.isInterrupt = true → Q (.error f) (i ++ k)) :
    Tells (L.launch plan) (L.journaled.launch plan) s fun r _ j => Q r j := by
  refine L.tells_launch_ending h (fun agent t i hi => done agent t i hi _) interrupted ?_ ?_
  · intro setback t i k failures hi hf hk
    exact stopped setback t i _ hi hf hk.deeds_eq_nil hk.of_ok.1
  · intro setback t i k f hi hf hk
    exact broken setback t i _ f hi hf hk.deeds_eq_nil hk.fault_mem hk.of_error.1

theorem tells_launch (called : Checkpoint → List γ) (plan : List β) (s : σ) :
    Tells (L.launch plan) (L.journaled.launch plan) s fun r _ j => L.Heard called j → j.Calm →
      j.Lived (planned plan (made j) called) r := by
  refine L.tells_launch_of_boot (L.tells_boot called plan s) ?_ ?_ ?_ ?_
  · intro agent t i hi e heard _
    obtain ⟨hi, hplugins, hrun⟩ := hi heard.left
    have hj := Done.append hi (done_logged e t)
    have hmade : made (i ++ [.logged e t]) = made i := by simp [made, Entry.made?]
    rw [List.append_nil] at hj
    rw [hmade]
    exact ⟨hj, hplugins.trans hmade.symm, hrun⟩
  -- Where there is an interrupt, the journal is not calm.
  · intro setback t i hi hf heard calm
    obtain ⟨⟨hi, -⟩, -⟩ := hi heard
    rw [calm _ hi.fault_mem] at hf
    cases hf
  · intro setback t i k hi _ hdeeds hstops heard _
    obtain ⟨⟨hi, hstarted⟩, -⟩ := hi heard.left
    rw [made_append_eq_left (List.prefix_nil.mpr hdeeds) (by simp)]
    exact hi.lived hdeeds (hstops.trans (congrArg List.reverse hstarted))
  · intro setback t i k f hi _ hdeeds hk hf _ calm
    rw [calm f (by rw [faults_append]; exact List.mem_append_right _ hk)] at hf
    cases hf

/-- A launch does what was planned, up to the first call that ends in a fault. That fault is the
one it ends in; before it does, it stops all plugins that have started, the last one first. -/
theorem launch_follows_plan (plan : List β) (s : σ) (audience : Checkpoint → Audience γ)
    (heard : L.Heard (fun c => (audience c).callOrder c) (L.journal plan s))
    (calm : (L.journal plan s).Calm) :
    ∃ r t, outcome (L.launch plan) s = (r, t) ∧
      outcome (L.journaled.launch plan) (s, []) = (r, t, L.journal plan s) ∧
      (L.journal plan s).Lived
        (planned plan (L.journal plan s).made fun c => (audience c).callOrder c) r ∧
      ∀ c, (∀ h ∈ (audience c).handlers c, h.priority = .normal) →
        (audience c).callOrder c = (((audience c).handlers c).map (·.listener)).reverse := by
  obtain ⟨r, t, j, hy, hx, hj⟩ := L.tells_launch _ plan s []
  have hjournal : L.journal plan s = j := by rw [journal, hx, List.nil_append]
  rw [hjournal] at heard calm ⊢
  exact ⟨r, t, hy, hx, hj heard calm, fun c => Audience.callOrder_of_normal⟩

/-- Plugins and listeners are known by their names. The plugin c cannot start, b cannot stop. -/
def rehearsal : Lifecycle String String String Unit where
  name p := p
  construct p := pure p
  start p := if p = "c" then throw (.raised "RuntimeError" p) else pure ()
  stop p := if p = "b" then throw (.raised "RuntimeError" p) else pure ()
  listeners c _ := (Audience.listen c "listener" {}).callOrder c
  notify _ view := pure view
  host _ := {}
  log _ s := s

theorem launch_follows_plan_rehearsal :
    rehearsal.Heard (fun c => (Audience.listen c "listener" {}).callOrder c)
        (rehearsal.journal ["a", "b", "c"] ()) ∧
      (rehearsal.journal ["a", "b", "c"] ()).Calm ∧
      (rehearsal.journal ["a", "b", "c"] ()).stops = ["b", "a"] ∧
      ∃ r t, outcome (rehearsal.launch ["a", "b", "c"]) () = (r, t) ∧
        (rehearsal.journal ["a", "b", "c"] ()).Lived
          (planned ["a", "b", "c"] (rehearsal.journal ["a", "b", "c"] ()).made
            fun c => (Audience.listen c "listener" {}).callOrder c) r := by
  have heard : rehearsal.Heard (fun c => (Audience.listen c "listener" {}).callOrder c)
      (rehearsal.journal ["a", "b", "c"] ()) := fun c n s hs => rfl
  have calm : (rehearsal.journal ["a", "b", "c"] ()).Calm := by decide
  obtain ⟨r, t, hlaunch, -, hlived, -⟩ :=
    rehearsal.launch_follows_plan ["a", "b", "c"] () _ heard calm
  exact ⟨heard, calm, rfl, r, t, hlaunch, hlived⟩

end Lifecycle
end Preflight
