import Preflight.Proofs.Bootstrap.Course

/-! Launches of one plan in two orders. Plugins that start by scripts of registrations can be put in
any order: all of them start in the one exactly if they do in the other, the same is found to be
unmet, and what is registered in the end is the same. -/
namespace Preflight
variable {β π γ σ α : Type}

theorem Judged.same {r r' : Except Fault α} {verdict : Except Violation Unit} (h : Judged r verdict)
    (h' : Judged r' verdict) : ((∃ a, r = .ok a) ↔ ∃ a, r' = .ok a) ∧
      ∀ v, r = .error (.unmet v) ↔ r' = .error (.unmet v) := by
  cases h with
  | passed a => cases h' with
    | passed a' => simp
  | violated v => cases h' with
    | violated v' => simp

namespace Lifecycle
open Journal Expectations Host
variable {L : Lifecycle β π γ σ} {wrap : Expectations → γ} {plan : List β} {plugins : List π}
  {role : β → Role}

section Orders
variable {es : List Expectations} {loaded loaded' : List String}
  {asked asked' : List (String × Request)} {r r' : Except Fault α} {t t' : Host}
  {j j' : Journal β π γ σ}

/-- Two runs of one plan, in two orders, end alike. -/
structure SameEnd (r r' : Except Fault α) (t t' : Host) (j j' : Journal β π γ σ) : Prop where
  started : j.AllStarted ↔ j'.AllStarted
  returned : (∃ a, r = .ok a) ↔ ∃ a, r' = .ok a
  violated : ∀ v, r = .error (.unmet v) ↔ r' = .error (.unmet v)
  alike : (∃ a, r = .ok a) → Alike t t'

theorem allStarted_iff_of_idle (h : running j = []) : j.AllStarted ↔ (made j).length = 0 := by
  rw [AllStarted, h, List.length_eq_zero_iff, eq_comm]

theorem not_allStarted_of_short (h : (running j).length < (made j).length) : ¬ j.AllStarted := by
  intro hall
  rw [AllStarted] at hall
  rw [hall] at h
  omega

theorem verdicts_of_alike (es : List Expectations) (h : Alike t t') :
    (es.forM (·.checkMetrics t.metrics.lookup) >>= fun _ => es.forM (·.checkElements t.pipeline)) =
      (es.forM (·.checkMetrics t'.metrics.lookup) >>= fun _ =>
        es.forM (·.checkElements t'.pipeline)) := by
  have helements : (fun e : Expectations => e.checkElements t.pipeline) =
      fun e => e.checkElements t'.pipeline :=
    funext fun e => e.checkElements_congr fun kind => counted_perm kind (h.names kind)
  rw [h.lookup, helements]

theorem Course.sameEnd (h : Course es loaded asked r t j) (h' : Course es loaded' asked' r' t' j')
    (hloaded : loaded.Perm loaded') (hasked : asked.Perm asked')
    (hmade : (made j).length = (made j').length) : SameEnd r r' t t' j j' := by
  have hplugins : es.forM (·.checkPlugins loaded) = es.forM (·.checkPlugins loaded') := by
    have hcheck : (fun e : Expectations => e.checkPlugins loaded) =
        fun e => e.checkPlugins loaded' :=
      funext fun e => e.checkPlugins_congr fun _ _ => hloaded.mem_iff
    rw [hcheck]
  cases h with
  | unloaded hr violated idle =>
    rw [hplugins] at violated
    cases h' with
    | unloaded hr' violated' idle' =>
      have hv := Except.error.inj (violated.symm.trans violated')
      refine ⟨?_, by simp [hr, hr'], by simp [hr, hr', hv], by simp [hr]⟩
      rw [allStarted_iff_of_idle idle, allStarted_iff_of_idle idle', hmade]
    | refused hr' passed' =>
      rw [passed'] at violated
      cases violated
    | complete passed' =>
      rw [passed'] at violated
      cases violated
  | refused hr passed crowded plain short =>
    rw [hplugins] at passed
    cases h' with
    | unloaded hr' violated' =>
      rw [passed] at violated'
      cases violated'
    | refused hr' passed' crowded' plain' short' =>
      refine ⟨?_, by simp [hr, hr'], fun v => ?_, by simp [hr]⟩
      · exact iff_of_false (not_allStarted_of_short short) (not_allStarted_of_short short')
      · simp [hr, hr', plain v, plain' v]
    | complete passed' room' => exact absurd (room'.perm hasked.symm) crowded
  | complete passed room enrolled all judged =>
    rw [hplugins] at passed
    cases h' with
    | unloaded hr' violated' =>
      rw [passed] at violated'
      cases violated'
    | refused hr' passed' crowded' => exact absurd (room.perm hasked) crowded'
    | complete passed' room' enrolled' all' judged' =>
      have halike := enrolled.alike enrolled' hasked
      rw [verdicts_of_alike es halike] at judged
      obtain ⟨hreturned, hviolated⟩ := judged.same judged'
      exact ⟨iff_of_true all all', hreturned, hviolated, fun _ => halike⟩

/-- Where something is unmet, either nothing was started or everything was. -/
theorem Course.idle_or_allStarted (h : Course es loaded asked r t j) {v : Violation}
    (hr : r = .error (.unmet v)) : running j = [] ∨ j.AllStarted := by
  cases h with
  | unloaded _ _ idle => exact .inl idle
  | refused hr' _ _ plain =>
    rw [hr] at hr'
    exact absurd (Except.error.inj hr').symm (plain v)
  | complete _ _ _ all => exact .inr all

end Orders

/-! ## Stopping -/

variable (L) in
/-- Stopping the plugin in the state `u` is interrupted. -/
def Interrupts (p : π) (u : σ) : Prop := ∃ f t, L.stop p u = .error f t ∧ f.isInterrupt = true

variable (L) in
/-- Whether it is interrupted to stop a plugin does not depend on the state, but on what the plugin
was made from. -/
def Steady (plan : List β) (quits : β → Prop) : Prop :=
  ∀ b ∈ plan, ∀ p, L.Makes b p → ∀ u, L.Interrupts p u ↔ quits b

theorem stopEach_error {s t : σ} {f : Fault} (h : L.stopEach plugins s = .error f t) :
    f.isInterrupt = true ∧ ∃ p ∈ plugins, ∃ u w, L.stop p u = .error f w := by
  induction plugins generalizing s with
  | nil => cases h
  | cons p rest ih =>
    cases hp : L.stop p s with
    | ok u w =>
      rw [L.stopEach_cons_of_ok hp rest] at h
      obtain ⟨hf, p', hp', hstop⟩ := ih h
      exact ⟨hf, p', List.mem_cons_of_mem p hp', hstop⟩
    | error g w =>
      cases hg : g.isInterrupt with
      | true =>
        rw [L.stopEach_cons_of_interrupt hp hg rest] at h
        cases h
        exact ⟨hg, p, List.mem_cons_self, s, t, hp⟩
      | false =>
        rw [L.stopEach_cons_of_fault hp hg rest, map_eq_pure_bind] at h
        cases hrest : L.stopEach rest (L.log (.stopFailed (L.name p) g) w) with
        | ok failures v =>
          rw [bind_of_ok hrest] at h
          cases h
        | error g' v =>
          rw [bind_of_error hrest] at h
          cases h
          obtain ⟨hf, p', hp', hstop⟩ := ih hrest
          exact ⟨hf, p', List.mem_cons_of_mem p hp', hstop⟩

theorem not_interrupts_of_stopEach_ok {s t : σ} {failures : List String}
    (h : L.stopEach plugins s = .ok failures t) {p : π} (hp : p ∈ plugins) :
    ∃ u, ¬ L.Interrupts p u := by
  induction plugins generalizing s failures with
  | nil => cases hp
  | cons q rest ih =>
    by_cases hq : L.Interrupts q s
    · obtain ⟨f, w, hstop, hf⟩ := hq
      rw [L.stopEach_cons_of_interrupt hstop hf rest] at h
      cases h
    · rcases List.mem_cons.mp hp with rfl | hp
      · exact ⟨s, hq⟩
      · cases hstop : L.stop q s with
        | ok u w =>
          rw [L.stopEach_cons_of_ok hstop rest] at h
          exact ih h hp
        | error g w =>
          have hg : g.isInterrupt = false := by
            by_contra hg
            exact hq ⟨g, w, hstop, by simpa using hg⟩
          rw [L.stopEach_cons_of_fault hstop hg rest, map_eq_pure_bind] at h
          cases hrest : L.stopEach rest (L.log (.stopFailed (L.name q) g) w) with
          | ok failures' v =>
            rw [bind_of_ok hrest] at h
            cases h
            exact ih hrest hp
          | error g' v =>
            rw [bind_of_error hrest] at h
            cases h

/-! ## Launches -/

/-- A launch goes on from its bootstrap, and neither makes nor starts another plugin. -/
theorem tells_launch_extends {s : σ}
    {P : Except (Setback π) (Agent π) → σ → Journal β π γ σ → Prop}
    (h : Tells (L.boot plan) (L.journaled.boot plan) s P) :
    Tells (L.launch plan) (L.journaled.launch plan) s fun _ _ j => ∃ booted t i k,
      outcome (L.boot plan) s = (booted, t) ∧ P booted t i ∧ j = i ++ k ∧ deeds k = [] := by
  refine L.tells_launch_of_boot h.outcome_eq (Q := fun _ j => ∃ booted t i k,
    outcome (L.boot plan) s = (booted, t) ∧ P booted t i ∧ j = i ++ k ∧ deeds k = []) ?_ ?_ ?_ ?_
  · intro agent t i hi e
    exact ⟨_, t, i, [.logged e t], hi.1, hi.2, rfl, rfl⟩
  · intro setback t i hi _
    exact ⟨_, t, i, [], hi.1, hi.2, (List.append_nil i).symm, rfl⟩
  · intro setback t i k hi _ hdeeds _
    exact ⟨_, t, i, k, hi.1, hi.2, rfl, hdeeds⟩
  · intro setback t i k f hi _ hdeeds _ _
    exact ⟨_, t, i, k, hi.1, hi.2, rfl, hdeeds⟩

/-- A launch of `plan` as its bootstrap leaves it: how the bootstrap ended, and which plugins had
been made and started by then. -/
structure Launched (plan : List β) (s : σ) (es : List Expectations) (role : β → Role)
    (booted : Except (Setback π) (Agent π)) (t : σ) : Prop where
  boot : outcome (L.boot plan) s = (booted, t)
  makes : List.Forall₂ L.Makes plan (L.journal plan s).made
  started : ∀ setback, booted = .error setback → setback.started = (L.journal plan s).running
  course : Course es (plan.map fun b => (role b).name) (calls plan role)
    (booted.mapError (·.fault)) (L.host t) (L.journal plan s)

theorem Course.append {es : List Expectations} {loaded : List String}
    {asked : List (String × Request)} {r : Except Fault α} {t : Host} {i k : Journal β π γ σ}
    (h : Course es loaded asked r t i) (hk : deeds k = []) :
    Course es loaded asked r t (i ++ k) := by
  have hmade : made (i ++ k) = made i := made_append_eq_left (List.prefix_nil.mpr hk) (by simp)
  have hrun : running (i ++ k) = running i :=
    running_append_eq_left (List.prefix_nil.mpr hk) (by simp)
  cases h with
  | unloaded hr violated idle => exact .unloaded hr violated (hrun.trans idle)
  | refused hr passed crowded plain short =>
    exact .refused hr passed crowded plain (by rwa [hrun, hmade])
  | complete passed room enrolled all judged =>
    exact .complete passed room enrolled (by rw [hrun, hmade, all]) judged

theorem exists_launched (hosting : L.Hosting) (checking : L.Checking wrap)
    (es : List Expectations) (cast : L.Cast plan role) {s : σ} (fresh : L.host s = {})
    (heard : L.Heard (fun _ => es.map wrap) (L.journal plan s))
    (constructed : (L.journal plan s).Constructed) :
    ∃ booted t, L.Launched plan s es role booted t := by
  obtain ⟨r, u, j, hy, hx, hj⟩ :=
    tells_launch_extends (tells_boot_course hosting checking es cast fresh) []
  have hjournal : L.journal plan s = j := by rw [journal, hx, List.nil_append]
  obtain ⟨booted, t, i, k, hboot, hi, rfl, hk⟩ := hj
  rw [hjournal] at heard constructed
  obtain ⟨hmakes, hstarted, hcourse⟩ := hi heard.left constructed.left
  have hmade : made (i ++ k) = made i := made_append_eq_left (List.prefix_nil.mpr hk) (by simp)
  have hrun : running (i ++ k) = running i :=
    running_append_eq_left (List.prefix_nil.mpr hk) (by simp)
  refine ⟨booted, t, hboot, ?_, ?_, ?_⟩
  · rw [hjournal, hmade]
    exact hmakes
  · rw [hjournal, hrun]
    exact hstarted
  · rw [hjournal]
    exact hcourse.append hk

section Launched
variable {s t u : σ} {es : List Expectations} {booted : Except (Setback π) (Agent π)}
  {v : Violation}

theorem Launched.returns_iff (h : L.Launched plan s es role booted t) :
    (∃ agent u, L.launch plan s = .ok agent u) ↔
      ∃ agent, booted.mapError (·.fault) = .ok agent := by
  cases booted with
  | ok agent => simp [L.launch_of_ok (outcome_eq_ok h.boot), Except.mapError]
  | error setback =>
    have hlaunch : ∀ agent u, L.launch plan s ≠ .ok agent u := by
      intro agent u hok
      simp only [launch, outcome_eq_error h.boot] at hok
      split at hok
      · cases hok
      · split at hok <;> cases hok
    simp [hlaunch, Except.mapError]

theorem Launched.host_eq (hosting : L.Hosting) (h : L.Launched plan s es role booted t)
    {agent : Agent π} (hok : L.launch plan s = .ok agent u) : L.host u = L.host t := by
  cases booted with
  | ok a =>
    rw [L.launch_of_ok (outcome_eq_ok h.boot)] at hok
    cases hok
    exact hosting.log _ t
  | error setback =>
    obtain ⟨a, ha⟩ := h.returns_iff.mp ⟨agent, u, hok⟩
    cases ha

/-- Where the launch ends in a violation, its bootstrap did, and the stopping came to an end. -/
theorem Launched.stopped (h : L.Launched plan s es role booted t)
    (hv : L.launch plan s = .error (.unmet v) u) :
    booted.mapError (·.fault) = .error (.unmet v) ∧
      ∃ x failures w, L.stopEach (L.journal plan s).running.reverse x = .ok failures w := by
  cases booted with
  | ok agent =>
    rw [L.launch_of_ok (outcome_eq_ok h.boot)] at hv
    cases hv
  | error setback =>
    have hstarted := h.started setback rfl
    have hboot := outcome_eq_error h.boot
    cases hf : setback.fault.isInterrupt with
    | true =>
      rw [L.launch_of_interrupt hboot hf] at hv
      cases setback
      cases hv
      cases hf
    | false =>
      cases hstop : L.stopAll setback.started
          (L.log (.bootstrapFailed setback.stage.word setback.fault) t) with
      | ok failures w =>
        rw [L.launch_of_fault hboot hf hstop] at hv
        rw [stopAll, hstarted] at hstop
        have hfault : setback.fault = .unmet v := by injection hv
        exact ⟨congrArg Except.error hfault, _, failures, w, hstop⟩
      | error g w =>
        rw [L.launch_of_broken_stop hboot hf hstop] at hv
        obtain ⟨hg, -⟩ := stopEach_error hstop
        cases hv
        cases hg

/-- A violation is what the launch ends in, unless a plugin that has started is interrupted as it
is stopped. -/
theorem Launched.violated_or_interrupted (h : L.Launched plan s es role booted t)
    (hv : booted.mapError (·.fault) = .error (.unmet v)) :
    ∃ f u, L.launch plan s = .error f u ∧ (f = .unmet v ∨ f.isInterrupt = true ∧
      ∃ p ∈ (L.journal plan s).running, ∃ x w, L.stop p x = .error f w) := by
  cases booted with
  | ok agent => cases hv
  | error setback =>
    have hstarted := h.started setback rfl
    have hboot := outcome_eq_error h.boot
    have hfault : setback.fault = .unmet v := Except.error.inj hv
    have hf : setback.fault.isInterrupt = false := by
      rw [hfault]
      rfl
    cases hstop : L.stopAll setback.started
        (L.log (.bootstrapFailed setback.stage.word setback.fault) t) with
    | ok failures w => exact ⟨_, w, L.launch_of_fault hboot hf hstop, .inl hfault⟩
    | error g w =>
      obtain ⟨hg, p, hp, x, y, hpx⟩ := stopEach_error hstop
      rw [List.mem_reverse, hstarted] at hp
      exact ⟨g, w, L.launch_of_broken_stop hboot hf hstop, .inr ⟨hg, p, hp, x, y, hpx⟩⟩

theorem Launched.violates (h : L.Launched plan s es role booted t)
    (hv : booted.mapError (·.fault) = .error (.unmet v))
    (calm : ∀ p ∈ (L.journal plan s).running, ∀ x, ¬ L.Interrupts p x) :
    ∃ u, L.launch plan s = .error (.unmet v) u := by
  obtain ⟨f, u, hlaunch, rfl | ⟨hf, p, hp, x, w, hstop⟩⟩ := h.violated_or_interrupted hv
  · exact ⟨u, hlaunch⟩
  · exact absurd ⟨f, w, hstop, hf⟩ (calm p hp x)

variable {quits : β → Prop}

/-- If all have started and their stopping came to an end, no plugin of the plan is interrupted. -/
theorem Launched.steady_of_stopped (h : L.Launched plan s es role booted t)
    (steady : L.Steady plan quits) (all : (L.journal plan s).AllStarted) {x w : σ}
    {failures : List String}
    (hstop : L.stopEach (L.journal plan s).running.reverse x = .ok failures w) :
    ∀ b ∈ plan, ¬ quits b := by
  intro b hb hquits
  obtain ⟨p, hp, hmakes⟩ := exists_of_forall₂ h.makes hb
  have hrunning : p ∈ (L.journal plan s).running.reverse := by
    rw [List.mem_reverse, all]
    exact hp
  obtain ⟨y, hy⟩ := not_interrupts_of_stopEach_ok hstop hrunning
  exact hy ((steady b hb p hmakes y).mpr hquits)

theorem Launched.calm_of_steady (h : L.Launched plan s es role booted t)
    (steady : L.Steady plan quits) (calm : ∀ b ∈ plan, ¬ quits b)
    (all : (L.journal plan s).AllStarted) :
    ∀ p ∈ (L.journal plan s).running, ∀ x, ¬ L.Interrupts p x := by
  intro p hp x hx
  rw [all] at hp
  obtain ⟨b, hb, hmakes⟩ := exists_of_forall₂ h.makes.flip hp
  exact calm b hb ((steady b hb p hmakes x).mp hx)

/-- As long as interrupts are steady, a violation that ends one launch ends the other. -/
theorem Launched.carries_violation {plan' : List β} {s' t' : σ}
    {booted' : Except (Setback π) (Agent π)} (h : L.Launched plan s es role booted t)
    (h' : L.Launched plan' s' es role booted' t') (perm : plan.Perm plan')
    (started : (L.journal plan s).AllStarted ↔ (L.journal plan' s').AllStarted)
    (violated : booted.mapError (·.fault) = .error (.unmet v) →
      booted'.mapError (·.fault) = .error (.unmet v))
    (steady : L.Steady plan quits) (hv : L.launch plan s = .error (.unmet v) u) :
    ∃ u', L.launch plan' s' = .error (.unmet v) u' := by
  obtain ⟨hbooted, x, failures, w, hstop⟩ := h.stopped hv
  have hbooted' := violated hbooted
  refine h'.violates hbooted' ?_
  rcases h'.course.idle_or_allStarted hbooted' with idle | all
  · rw [idle]
    intro p hp
    cases hp
  · have calm : ∀ b ∈ plan, ¬ quits b := h.steady_of_stopped steady (started.mpr all) hstop
    exact h'.calm_of_steady (fun b hb => steady b (perm.mem_iff.mpr hb))
      (fun b hb => calm b (perm.mem_iff.mpr hb)) all

end Launched

/-- Plugins that are their roles. The state is the host. -/
def staged (sets : List Expectations) : Lifecycle Role Role Expectations Host where
  name r := r.name
  construct r := pure r
  start r := serveAll r.calls
  stop _ := pure ()
  listeners _ _ := sets.reverse.map closed
  notify e view := e.check (·.name) (fun _ h => h) view
  host h := h
  log _ h := h

/-- To serve a script is to serve the part of it up to the first request that is refused. -/
theorem exists_requests_of_serveAll (name : String) (script : List Request) (h : Host) :
    ∃ requests, (outcome (serveAll (script.map (name, ·))) h).2 =
      (outcomes (Host.serve name) requests h).2 := by
  induction script generalizing h with
  | nil => exact ⟨[], rfl⟩
  | cons q rest ih =>
    cases hs : Host.serve name q h with
    | ok r t =>
      obtain ⟨requests, hrequests⟩ := ih t
      refine ⟨q :: requests, ?_⟩
      rw [outcomes, outcome_of_ok hs, ← hrequests, List.map_cons, outcome,
        serveAll_cons_of_ok hs]
      rfl
    | error f t =>
      refine ⟨[q], ?_⟩
      rw [outcomes, outcome_of_error hs, List.map_cons,
        outcome_of_error (serveAll_cons_of_error hs _)]
      rfl

theorem staged_hosting (sets : List Expectations) : (staged sets).Hosting where
  construct _ _ := rfl
  start r h := exists_requests_of_serveAll r.name r.script h
  log _ _ := rfl

theorem staged_cast (sets : List Expectations) {plan : List Role}
    (registers : ∀ r ∈ plan, ∀ q ∈ r.script, q.Registers) : (staged sets).Cast plan id where
  plays r _ p hp := by
    obtain ⟨s, t, hmake⟩ := hp
    cases hmake
    exact ⟨rfl, fun h => ⟨_, rfl, rfl⟩⟩
  registers := registers

end Lifecycle
end Preflight
