import Preflight.Proofs.Bootstrap.Order

/-! What is left running when a bootstrap fails, whoever its listeners are. After an ordinary fault
all plugins that have started are stopped; an interrupt leaves all of them running. -/
namespace Preflight
variable {β π γ σ α : Type} {c : Checkpoint}

namespace Journal
variable {started : List π} {ds : List (Deed β π γ)} {i j : Journal β π γ σ} {f : Fault}

theorem Done.own (h : Done ds j) : Done j.deeds j := ⟨rfl, h.faults, h.stops⟩

/-- What was done up to the end, or up to the fault, is a plan of its own. -/
theorem Phase.own {r : Except (Setback π) α} (h : Phase started ds r j) :
    Phase started j.deeds r j := by
  cases r with
  | ok a => exact Done.own h
  | error setback => exact ⟨⟨List.prefix_rfl, h.1.stops, h.1.last⟩, h.2⟩

/-- The first call that failed ended in `f`. Before it no plugin was asked to stop, and nothing is
begun after it. -/
def FailedBy (f : Fault) (j : Journal β π γ σ) : Prop :=
  ∃ before e after, j = before ++ e :: after ∧ faults before = [] ∧ stops before = [] ∧
    e.deed?.isSome ∧ e.fault? = some f ∧ deeds after = []

theorem Broken.failedBy (h : Broken ds f i) (hj : j.deeds = []) : FailedBy f (i ++ j) := by
  obtain ⟨before, e, rfl, hfaults, hf, hd⟩ := h.last
  have hstops : before.stops = [] := by
    have hall := h.stops
    rw [stops_append] at hall
    exact (List.append_eq_nil_iff.mp hall).1
  exact ⟨before, e, j, by simp, hfaults, hstops, hd, hf, hj⟩

theorem running_append_of_no_deeds (hj : deeds j = []) : running (i ++ j) = running i :=
  running_append_eq_left (List.prefix_nil.mpr hj) (by simp)

/-- Every plugin that has started was asked to stop. -/
def AllStopped (j : Journal β π γ σ) : Prop := ∀ p ∈ j.running, p ∈ j.stops

theorem allStopped_iff_of_no_stops (h : j.stops = []) : AllStopped j ↔ j.running = [] := by
  simp [AllStopped, h, List.eq_nil_iff_forall_not_mem]

end Journal

namespace Lifecycle
open Journal
variable (L : Lifecycle β π γ σ)

theorem tells_notifying_any (started : List π) (view : View π c) (s : σ) :
    Tells (L.notifying started view) (L.journaled.notifying started view) s fun r _ j =>
      Phase started (deeds j) r j ∧ running j = [] := by
  refine Tells.during (Tells.get_bind fun past => Tells.log_bind ?_)
  refine (L.tells_notifyAll (L.listeners c s) view _).mono ?_
  intro r t j hj
  have hcarried := (done_logged (.checkpointReached c (L.listeners c s).length) s).append_carried hj
  have hrun := running_eq_nil hcarried.deeds_within (by simp)
  exact ⟨(Phase.of_carried hcarried hrun).own, hrun⟩

theorem tells_load_any (plan : List β) (s : σ) :
    Tells (L.load plan) (L.journaled.load plan) s fun r _ j =>
      Phase [] (deeds j) r j ∧ running j = [] := by
  refine Tells.bind (L.tells_constructAll plan s) ?_ ?_
  · intro plugins t i hi
    obtain ⟨hi, hrun, -⟩ := hi
    refine Tells.log_bind (Tells.bind (L.tells_notifying_any [] (.loaded plugins) _) ?_ ?_)
    · intro u t' j hj
      refine Tells.pure ?_
      rw [List.append_nil]
      have hlogged := (done_logged (.pluginsConstructed (L.names plugins)) t).append hj.1
      refine ⟨(Done.append hi hlogged).own, ?_⟩
      rw [running_append, running_append, hrun, hj.2]
      rfl
    · intro setback t' j hj
      have hlogged := hj.1.logged (.pluginsConstructed (L.names plugins)) t
      refine ⟨(Done.phase hi (by rwa [hrun])).own, ?_⟩
      rw [running_append, running_append, hrun, hj.2]
      rfl
  · intro setback t i hi
    exact ⟨hi.1.own, hi.2.1⟩

theorem tells_startAll_any (plugins : List π) (s : σ) :
    Tells (L.startAll plugins) (L.journaled.startAll plugins) s fun r _ j =>
      Phase [] (deeds j) r j ∧ WhenOk r fun _ => running j = plugins := by
  refine Tells.bind (L.tells_startEach [] plugins s) ?_ ?_
  · intro u t i hi
    have hrun : running i = plugins := hi.2
    refine Tells.get_bind fun past => Tells.log_bind ?_
    refine (L.tells_notifying_any plugins _ _).mono ?_
    intro r v j hj
    have hlogged := hj.1.logged (.pluginsStarted plugins.length (L.host t).metrics.size) t
    refine ⟨(Done.phase hi.1 (by rwa [hrun])).own, ?_⟩
    cases r with
    | ok w =>
      refine (running_append i _).trans ?_
      rw [running_append, hrun, hj.2]
      exact List.append_nil plugins
    | error setback => trivial
  · intro setback t i hi
    exact ⟨hi.1.own, trivial⟩

theorem tells_assemble_any (plugins : List π) (s : σ) :
    Tells (L.assemble plugins) (L.journaled.assemble plugins) s fun r _ j =>
      Phase plugins (deeds j) r j := by
  refine Tells.get_bind fun past => ?_
  refine Tells.bind (L.tells_notifying_any plugins _ s) ?_ ?_
  · intro u t i hi
    refine Tells.pure ?_
    rw [List.append_nil]
    exact hi.1
  · intro setback t i hi
    exact hi.1

theorem tells_boot_any (plan : List β) (s : σ) :
    Tells (L.boot plan) (L.journaled.boot plan) s fun r _ j => Phase [] (deeds j) r j := by
  refine Tells.bind (L.tells_load_any plan s) ?_ ?_
  · intro plugins t i hi
    have hrun : running i = [] := hi.2
    refine Tells.bind (L.tells_startAll_any plugins t) ?_ ?_
    · intro u t' j hj
      have hrun' : running j = plugins := hj.2
      refine (L.tells_assemble_any plugins t').mono ?_
      intro r v k hk
      have hjk : Phase [] (deeds j ++ deeds k) r (j ++ k) := Done.phase hj.1 (by rwa [hrun'])
      exact (Done.phase hi.1 (by rwa [hrun])).own
    · intro setback t' j hj
      have hj' : Phase (running i) (deeds j) (.error setback : Except _ Unit) j := by
        rw [hrun]
        exact hj.1
      have hij : Phase [] (deeds i ++ deeds j) (.error setback : Except _ Unit) (i ++ j) :=
        Done.phase hi.1 hj'
      exact hij.own
  · intro setback t i hi
    exact hi.1

/-- After a fault the plugins that have started are stopped, the last one first, unless that is
interrupted in turn. Where the fault is an interrupt, no plugin is stopped. -/
theorem launch_stops_unless_interrupted (plan : List β) (s : σ) (f : Fault) (t : σ)
    (h : L.launch plan s = .error f t) :
    ∃ g, FailedBy g (L.journal plan s) ∧
      (g.isInterrupt = true → f = g ∧ (L.journal plan s).stops = [] ∧
        (AllStopped (L.journal plan s) ↔ (L.journal plan s).running = [])) ∧
      (g.isInterrupt = false →
        f = g ∧ (L.journal plan s).stops = (L.journal plan s).running.reverse ∨
          f.isInterrupt = true ∧ f ∈ (L.journal plan s).faults) := by
  have hlaunch : Tells (L.launch plan) (L.journaled.launch plan) s fun r _ j =>
      ∀ f, r = .error f → ∃ g, FailedBy g j ∧ (g.isInterrupt = true → f = g ∧ j.stops = []) ∧
        (g.isInterrupt = false → f = g ∧ j.stops = j.running.reverse ∨
          f.isInterrupt = true ∧ f ∈ j.faults) := by
    refine L.tells_launch_of_boot (L.tells_boot_any plan s) ?_ ?_ ?_ ?_
    · intro agent t i hi e f hf
      cases hf
    · rintro setback t i ⟨hi, -⟩ hinterrupt _ ⟨⟩
      have hfailed : FailedBy setback.fault i := by simpa using hi.failedBy (j := []) rfl
      exact ⟨setback.fault, hfailed, fun _ => ⟨rfl, hi.stops⟩, by simp [hinterrupt]⟩
    · rintro setback t i k ⟨hi, hstarted⟩ hordinary hdeeds hstops _ ⟨⟩
      have hcleared : (i ++ k).stops = (i ++ k).running.reverse := by
        rw [stops_append, hi.stops, running_append_of_no_deeds hdeeds, hstops, hstarted]
        rfl
      exact ⟨setback.fault, hi.failedBy hdeeds, by simp [hordinary], fun _ => .inl ⟨rfl, hcleared⟩⟩
    · rintro setback t i k f ⟨hi, -⟩ hordinary hdeeds hk hinterrupt _ ⟨⟩
      have hmem : f ∈ (i ++ k).faults := by
        rw [faults_append]
        exact List.mem_append_right _ hk
      exact ⟨setback.fault, hi.failedBy hdeeds, by simp [hordinary],
        fun _ => .inr ⟨hinterrupt, hmem⟩⟩
  obtain ⟨r, u, j, hy, hx, hj⟩ := hlaunch []
  have hjournal : L.journal plan s = j := by rw [journal, hx, List.nil_append]
  rw [outcome_of_error h] at hy
  obtain ⟨g, hfailed, hinterrupt, hordinary⟩ := hj f (congrArg Prod.fst hy).symm
  rw [hjournal]
  refine ⟨g, hfailed, fun hg => ?_, hordinary⟩
  obtain ⟨rfl, hstops⟩ := hinterrupt hg
  exact ⟨rfl, hstops, allStopped_iff_of_no_stops hstops⟩

/-- The rehearsal, interrupted by a listener once the plugins have started. -/
def ambush : Lifecycle String String String Unit :=
  { rehearsal with
    notify := fun {c} l view =>
      if c = .pluginsStarted then throw (.raised "KeyboardInterrupt" l) else pure view }

theorem launch_stops_unless_interrupted_ambush :
    ambush.launch ["a", "b"] () = .error (.raised "KeyboardInterrupt" "listener") () ∧
      ∃ g, FailedBy g (ambush.journal ["a", "b"] ()) ∧
        (g.isInterrupt = true → (ambush.journal ["a", "b"] ()).stops = []) := by
  have h : ambush.launch ["a", "b"] () = .error (.raised "KeyboardInterrupt" "listener") () := rfl
  obtain ⟨g, hfailed, hinterrupt, -⟩ := ambush.launch_stops_unless_interrupted ["a", "b"] () _ _ h
  exact ⟨h, g, hfailed, fun hg => (hinterrupt hg).2.1⟩

/-- Both plugins have started, and the interrupt leaves the launch before either is stopped. -/
theorem ambush_leaves_plugins_running :
    ambush.launch ["a", "b"] () = .error (.raised "KeyboardInterrupt" "listener") () ∧
      (Fault.raised "KeyboardInterrupt" "listener").isInterrupt = true ∧
      (ambush.journal ["a", "b"] ()).running = ["a", "b"] ∧
      ¬ AllStopped (ambush.journal ["a", "b"] ()) := by
  have hstops : (ambush.journal ["a", "b"] ()).stops = [] := rfl
  refine ⟨rfl, by decide, rfl, fun hall => ?_⟩
  cases (allStopped_iff_of_no_stops hstops).mp hall

end Lifecycle
end Preflight
