import Preflight.Proofs.Bootstrap.Order
import Preflight.Proofs.Expectation.Attached

/-! Launches of agents of which something is expected. Any number of sets of expectations can be
attached to a builder; the launch succeeds exactly if all of them are met, and otherwise ends in
one violation, that of the newest unmet set at the first checkpoint where there is one. -/
namespace Preflight
variable {β π γ σ α : Type} {c : Checkpoint}

/-- An act ends as a check does: it returns, or it raises the violation. -/
inductive Judged : Except Fault α → Except Violation Unit → Prop where
  | passed (a : α) : Judged (.ok a) (.ok ())
  | violated (v : Violation) : Judged (.error (.unmet v)) (.error v)

theorem Judged.eq_ok {a : α} {verdict : Except Violation Unit} (h : Judged (.ok a) verdict) :
    verdict = .ok () := by
  cases h
  rfl

theorem Judged.ok_iff {r : Except Fault α} {verdict : Except Violation Unit}
    (h : Judged r verdict) : (∃ a, r = .ok a) ↔ verdict = .ok () := by
  cases h with
  | passed a => simp
  | violated v => simp

theorem Judged.eq_error {f : Fault} {verdict : Except Violation Unit}
    (h : Judged (.error f : Except Fault α) verdict) : ∃ v, verdict = .error v ∧ f = .unmet v := by
  cases h with
  | violated v => exact ⟨v, rfl, rfl⟩

theorem Judged.of_error {α δ : Type} {f : Fault} {verdict : Except Violation Unit}
    (h : Judged (.error f : Except Fault α) verdict) :
    Judged (.error f : Except Fault δ) verdict := by
  obtain ⟨v, rfl, rfl⟩ := h.eq_error
  exact .violated v

theorem Judged.stuck {α δ : Type} {f : Fault} {verdict : Except Violation Unit}
    (h : Judged (.error f : Except Fault α) verdict) (next : Unit → Except Violation Unit) :
    Judged (.error f : Except Fault δ) (verdict >>= next) := by
  obtain ⟨v, rfl, rfl⟩ := h.eq_error
  exact .violated v

theorem Judged.next {α δ : Type} {a : α} {r : Except Fault δ} {verdict : Except Violation Unit}
    (h : Judged (.ok a) verdict) {next : Unit → Except Violation Unit} (hr : Judged r (next ())) :
    Judged r (verdict >>= next) := by
  rw [h.eq_ok]
  exact hr

/-- A constructor or a start that did not return. -/
def Entry.broken : Entry β π γ σ → Bool
  | constructed _ (.error _) | started _ (.error _) => true
  | _ => false

/-- Every constructor and every start that was called returned. -/
def Journal.Returned (j : Journal β π γ σ) : Prop := ∀ e ∈ j, e.broken = false

instance (j : Journal β π γ σ) : Decidable j.Returned :=
  inferInstanceAs (Decidable (∀ e ∈ j, e.broken = false))

theorem Journal.Returned.left {i j : Journal β π γ σ} (h : Journal.Returned (i ++ j)) :
    i.Returned := fun e he => h e (List.mem_append_left j he)

theorem Journal.Returned.right {i j : Journal β π γ σ} (h : Journal.Returned (i ++ j)) :
    j.Returned := fun e he => h e (List.mem_append_right i he)

namespace Lifecycle
open Journal Expectations
variable (L : Lifecycle β π γ σ)

/-- Plugins change what is registered by the requests that they make while they start, and in no
other way. Neither does logging change it. -/
structure Hosting : Prop where
  construct : ∀ b s, L.host (outcome (L.construct b) s).2 = L.host s
  start : ∀ p s, ∃ requests, L.host (outcome (L.start p) s).2 =
    (outcomes (Host.serve (L.name p)) requests (L.host s)).2
  log : ∀ e s, L.host (L.log e s) = L.host s

/-- The listeners are checks of expectations. -/
def Checking (wrap : Expectations → γ) : Prop :=
  ∀ (e : Expectations) {c : Checkpoint} (view : View π c),
    L.notify (wrap e) view = e.check L.name L.log view

variable {L} {wrap : Expectations → γ}

theorem tells_check (hosting : L.Hosting) (checking : L.Checking wrap) (e : Expectations)
    (view : View π c) (s : σ) :
    Tells (L.notify (wrap e) view) (L.journaled.notify (wrap e) view) s fun r t _ =>
      L.host t = L.host s ∧ Judged r (e.judge L.name view) ∧ WhenOk r (· = view) := by
  refine Tells.call fun r t h => ?_
  rw [checking e view, outcome_check] at h
  cases hv : e.judge L.name view with
  | ok u =>
    rw [hv] at h
    cases h
    exact ⟨hosting.log _ s, .passed view, rfl⟩
  | error v =>
    rw [hv] at h
    cases h
    exact ⟨rfl, .violated v, trivial⟩

theorem tells_checks (hosting : L.Hosting) (checking : L.Checking wrap) (es : List Expectations)
    {view : View π c} {s : σ} (hview : view.refresh (L.host s).metrics = view) :
    Tells (L.notifyAll (es.map wrap) view) (L.journaled.notifyAll (es.map wrap) view) s
      fun r t _ => L.host t = L.host s ∧ Judged r (es.forM (·.judge L.name view)) := by
  induction es generalizing s with
  | nil => exact .pure ⟨rfl, .passed ()⟩
  | cons e rest ih =>
    refine Tells.get_bind fun past => ?_
    have hpast : L.journaled.host (s, past) = L.host s := rfl
    have hcons : (e :: rest).forM (·.judge L.name view) =
      e.judge L.name view >>= fun _ => rest.forM (·.judge L.name view) := rfl
    rw [hpast, hview, hcons]
    refine Tells.bind (tells_check hosting checking e view s) ?_ ?_
    · intro view' t i hi
      obtain ⟨hhost, hjudged, hsame⟩ := hi
      obtain rfl : view' = view := hsame
      rw [← hhost] at hview ⊢
      exact (ih hview).mono fun r u j hj => ⟨hj.1, hjudged.next hj.2⟩
    · intro f t i hi
      exact ⟨hi.1, hi.2.1.stuck _⟩

theorem tells_reach_checks (hosting : L.Hosting) (checking : L.Checking wrap)
    (es : List Expectations) {view : View π c} {s : σ}
    (hview : view.refresh (L.host s).metrics = view) :
    Tells (L.reach view) (L.journaled.reach view) s fun r t j =>
      L.Heard (fun _ => es.map wrap) j →
        L.host t = L.host s ∧ Judged r (es.forM (·.judge L.name view)) := by
  refine Tells.get_bind fun past => Tells.log_bind ?_
  have hpast : L.journaled.listeners c (s, past) = L.listeners c s := rfl
  have hlog := hosting.log (.checkpointReached c (L.listeners c s).length) s
  rw [← hlog] at hview
  rw [hpast]
  by_cases hlisteners : L.listeners c s = es.map wrap
  · have hchecks := tells_checks hosting checking es hview
    rw [← hlisteners] at hchecks
    exact hchecks.mono fun r t j hj _ => ⟨hj.1.trans hlog, hj.2⟩
  · refine (L.tells_notifyAll _ view _).mono fun r t j _ heard => absurd ?_ hlisteners
    exact heard c _ s (List.mem_append_left _ (List.mem_singleton_self _))

theorem tells_notifying_checks (hosting : L.Hosting) (checking : L.Checking wrap)
    (es : List Expectations) (started : List π) {view : View π c} {s : σ}
    (hview : view.refresh (L.host s).metrics = view) :
    Tells (L.notifying started view) (L.journaled.notifying started view) s fun r t j =>
      L.Heard (fun _ => es.map wrap) j → deeds j <+: (es.map wrap).map (.notify c) ∧
        L.host t = L.host s ∧ Judged (r.mapError (·.fault)) (es.forM (·.judge L.name view)) := by
  have hplan := L.tells_notifying (fun _ => es.map wrap) started view s
  have hjudged : Tells (L.notifying started view) (L.journaled.notifying started view) s
      fun r t j => L.Heard (fun _ => es.map wrap) j →
        L.host t = L.host s ∧ Judged (r.mapError (·.fault)) (es.forM (·.judge L.name view)) := by
    refine Tells.during ((tells_reach_checks hosting checking es hview).mono ?_)
    intro r t j hj heard
    cases r with
    | ok u => exact hj heard
    | error f => exact hj heard
  exact (hplan.both hjudged).mono fun r t j hj heard => ⟨(hj.1 heard).deeds_within, hj.2 heard⟩

theorem tells_mapM_construct_host (hosting : L.Hosting) (plan : List β) (s : σ) :
    Tells (plan.mapM L.construct) (plan.mapM L.journaled.construct) s fun r t j =>
      L.host t = L.host s ∧ (j.Returned → ∃ plugins, r = .ok plugins) := by
  induction plan generalizing s with
  | nil => exact .pure ⟨rfl, fun _ => ⟨[], rfl⟩⟩
  | cons b rest ih =>
    simp only [List.mapM_cons]
    have hconstruct : Tells (L.construct b) (L.journaled.construct b) s fun r t j =>
        L.host t = L.host s ∧ j = [.constructed b r] := by
      refine Tells.call fun r t h => ⟨?_, rfl⟩
      have hhost := hosting.construct b s
      rwa [h] at hhost
    refine Tells.bind hconstruct ?_ ?_
    · intro p t i hi
      refine Tells.bind (ih t) ?_ ?_
      · intro plugins u j hj
        exact Tells.pure ⟨hj.1.trans hi.1, fun _ => ⟨p :: plugins, rfl⟩⟩
      · intro f u j hj
        refine ⟨hj.1.trans hi.1, fun returned => ?_⟩
        obtain ⟨plugins, hr⟩ := hj.2 returned.right
        cases hr
    · intro f t i hi
      refine ⟨hi.1, fun returned => ?_⟩
      have hbroken := returned (.constructed b (.error f)) (by simp [hi.2])
      cases hbroken

/-- What a starting plugin asks for leaves the host sound. -/
theorem tells_startEach_host (hosting : L.Hosting) (started plugins : List π) (s : σ) :
    Tells (L.startEach started plugins) (L.journaled.startEach started plugins) s fun r t j =>
      ((L.host s).Sound → (L.host t).Sound) ∧ (j.Returned → r = .ok ()) := by
  induction plugins generalizing started s with
  | nil => exact .pure ⟨id, fun _ => rfl⟩
  | cons p rest ih =>
    have hstart : Tells (during .starting started (L.start p))
        (during .starting started (L.journaled.start p)) s fun r t j =>
          ((L.host s).Sound → (L.host t).Sound) ∧ j = [.started p (r.mapError (·.fault))] := by
      refine Tells.during (Tells.call fun r t h => ⟨fun hs => ?_, ?_⟩)
      · obtain ⟨requests, hhost⟩ := hosting.start p s
        rw [h] at hhost
        rw [hhost]
        exact hs.after_requests (L.name p) requests
      · cases r <;> rfl
    refine Tells.bind hstart ?_ ?_
    · intro u t i hi
      refine (ih (started ++ [p]) t).mono fun r v j hj => ?_
      exact ⟨fun hs => hj.1 (hi.1 hs), fun returned => hj.2 returned.right⟩
    · intro setback t i hi
      refine ⟨hi.1, fun returned => ?_⟩
      have hmem : Entry.started p (.error setback.fault) ∈ i := hi.2 ▸ List.mem_singleton_self _
      have hbroken := returned _ hmem
      cases hbroken

theorem tells_constructAll_host (hosting : L.Hosting) (plan : List β) (s : σ) :
    Tells (during .constructing ([] : List π) (plan.mapM L.construct))
      (during .constructing [] (plan.mapM L.journaled.construct)) s fun r t j =>
        L.host t = L.host s ∧ (j.Returned → ∃ plugins, r = .ok plugins) := by
  refine Tells.during ((tells_mapM_construct_host hosting plan s).mono ?_)
  intro r t j hj
  refine ⟨hj.1, fun returned => ?_⟩
  obtain ⟨plugins, rfl⟩ := hj.2 returned
  exact ⟨plugins, rfl⟩

/-- Neither logging nor checking makes or starts a plugin. -/
theorem made_and_unstarted {plan : List β} {listeners : List γ} {i j : Journal β π γ σ}
    (hi : deeds i = plan.map .construct) (hj : deeds j <+: listeners.map (.notify c)) :
    made (i ++ j) = made i ∧ ∀ p, Deed.start p ∉ deeds (i ++ j) := by
  refine ⟨made_append_eq_left hj (by simp), fun p hp => ?_⟩
  rw [deeds_append, hi, List.mem_append] at hp
  rcases hp with hp | hp
  · simp at hp
  · simpa using hj.subset hp

theorem tells_load_checks (hosting : L.Hosting) (checking : L.Checking wrap)
    (es : List Expectations) (plan : List β) (s : σ) :
    Tells (L.load plan) (L.journaled.load plan) s fun r t j =>
      L.Heard (fun _ => es.map wrap) j → j.Returned → L.host t = L.host s ∧
        WhenOk r (made j = ·) ∧ (∀ p, Deed.start p ∉ deeds j) ∧
        Judged (r.mapError (·.fault)) (es.forM (·.checkPlugins (L.names (made j)))) := by
  refine Tells.bind ((L.tells_constructAll plan s).both (tells_constructAll_host hosting plan s))
    ?_ ?_
  · intro plugins t i hi
    obtain ⟨⟨hi, -, hmade⟩, hhost, -⟩ := hi
    have hmade : made i = plugins := hmade
    have hlog := hosting.log (.pluginsConstructed (L.names plugins)) t
    have hdeeds : deeds i = plan.map .construct := Done.deeds hi
    have hlogged {j : Journal β π γ σ} {ds : List (Deed β π γ)} (hj : deeds j <+: ds) :
      deeds ([.logged (.pluginsConstructed (L.names plugins)) t] ++ j) <+: ds := hj
    refine Tells.log_bind (Tells.bind (tells_notifying_checks hosting checking es [] rfl) ?_ ?_)
    · intro u t' j hj
      refine Tells.pure fun heard _ => ?_
      rw [List.append_nil] at heard ⊢
      obtain ⟨hwithin, hhost', hjudged⟩ := hj heard.right.right
      obtain ⟨hsame, hunstarted⟩ := made_and_unstarted hdeeds (hlogged hwithin)
      rw [hsame, hmade]
      exact ⟨hhost'.trans (hlog.trans hhost), rfl, hunstarted, hjudged.eq_ok ▸ .passed _⟩
    · intro setback t' j hj heard _
      obtain ⟨hwithin, hhost', hjudged⟩ := hj heard.right.right
      obtain ⟨hsame, hunstarted⟩ := made_and_unstarted hdeeds (hlogged hwithin)
      rw [hsame, hmade]
      exact ⟨hhost'.trans (hlog.trans hhost), trivial, hunstarted, hjudged.of_error⟩
  · intro setback t i hi _ returned
    obtain ⟨plugins, hr⟩ := hi.2.2 returned
    cases hr

theorem tells_startAll_checks (hosting : L.Hosting) (checking : L.Checking wrap)
    (es : List Expectations) (plugins : List π) (s : σ) :
    Tells (L.startAll plugins) (L.journaled.startAll plugins) s fun r t j =>
      L.Heard (fun _ => es.map wrap) j → j.Returned → ((L.host s).Sound → (L.host t).Sound) ∧
        Judged (r.mapError (·.fault)) (es.forM (·.checkMetrics (L.host t).metrics.lookup)) := by
  refine Tells.bind (tells_startEach_host hosting [] plugins s) ?_ ?_
  · intro u t i hi
    refine Tells.get_bind fun past => Tells.log_bind ?_
    have hlog := hosting.log (.pluginsStarted plugins.length (L.host t).metrics.size) t
    have hview : (View.started plugins (L.host t).metrics).refresh (L.host
        (L.log (.pluginsStarted plugins.length (L.host t).metrics.size) t)).metrics =
          .started plugins (L.host t).metrics := by
      rw [hlog]
      rfl
    refine (tells_notifying_checks hosting checking es plugins hview).mono ?_
    intro r v j hj heard returned
    obtain ⟨-, hhost, hjudged⟩ := hj heard.right.right
    rw [hhost, hlog]
    exact ⟨hi.1, hjudged⟩
  · intro setback t i hi _ returned
    cases hi.2 returned

theorem tells_assemble_checks (hosting : L.Hosting) (checking : L.Checking wrap)
    (es : List Expectations) (plugins : List π) (s : σ) :
    Tells (L.assemble plugins) (L.journaled.assemble plugins) s fun r t j =>
      L.Heard (fun _ => es.map wrap) j → L.host t = L.host s ∧
        Judged (r.mapError (·.fault)) (es.forM (·.checkElements (L.host t).pipeline)) := by
  refine Tells.get_bind fun past => ?_
  have hview : (View.assembled (L.host s).pipeline : View π _).refresh (L.host s).metrics =
      .assembled (L.host s).pipeline := rfl
  refine Tells.bind (tells_notifying_checks hosting checking es plugins hview) ?_ ?_
  · intro u t i hi
    refine Tells.pure fun heard => ?_
    rw [List.append_nil] at heard
    obtain ⟨-, hhost, hjudged⟩ := hi heard
    rw [hhost]
    exact ⟨rfl, hjudged.eq_ok ▸ .passed _⟩
  · intro setback t i hi heard
    obtain ⟨-, hhost, hjudged⟩ := hi heard
    rw [hhost]
    exact ⟨rfl, hjudged.of_error⟩

variable (L) in
/-- A bootstrap has ended as the checks of `es` do, of what was loaded and what is registered. -/
structure Checked (es : List Expectations) (registered : Host) (r : Except Fault α)
    (j : Journal β π γ σ) : Prop where
  sound : registered.Sound
  judged : Judged r (verdicts es (L.names (made j)) registered)
  unstarted : ∀ v, es.forM (·.checkPlugins (L.names (made j))) = .error v →
    ∀ p, Deed.start p ∉ deeds j

theorem Checked.append {es : List Expectations} {registered : Host} {r : Except Fault α}
    {j k : Journal β π γ σ} (h : L.Checked es registered r j) (hk : deeds k = []) :
    L.Checked es registered r (j ++ k) := by
  have hmade : made (j ++ k) = made j :=
    made_append_eq_left (List.prefix_nil.mpr hk) (by simp)
  have hdeeds : deeds (j ++ k) = deeds j := by rw [deeds_append, hk, List.append_nil]
  exact ⟨h.sound, by rw [hmade]; exact h.judged, by rw [hmade, hdeeds]; exact h.unstarted⟩

theorem tells_boot_checks (hosting : L.Hosting) (checking : L.Checking wrap)
    (es : List Expectations) (plan : List β) {s : σ} (fresh : L.host s = {}) :
    Tells (L.boot plan) (L.journaled.boot plan) s fun r t j =>
      L.Heard (fun _ => es.map wrap) j → j.Returned →
        L.Checked es (L.host t) (r.mapError (·.fault)) j := by
  refine Tells.bind (tells_load_checks hosting checking es plan s) ?_ ?_
  · intro plugins t i hi
    refine Tells.bind ((L.tells_startAll (fun _ => es.map wrap) plugins t).both
      (tells_startAll_checks hosting checking es plugins t)) ?_ ?_
    · intro u t' j hj
      refine ((L.tells_assemble (fun _ => es.map wrap) plugins t').both
        (tells_assemble_checks hosting checking es plugins t')).mono ?_
      intro r v k hk heard returned
      obtain ⟨hhost, hmade, -, hloaded⟩ := hi heard.left returned.left
      obtain ⟨hsound, hstarted⟩ := hj.2 heard.right.left returned.right.left
      obtain ⟨hhost', hassembled⟩ := hk.2 heard.right.right
      have hj' := (hj.1 heard.right.left).1.deeds_within
      have hk' := (hk.1 heard.right.right).1.deeds_within
      have hsame : made (i ++ (j ++ k)) = made i := by
        rw [← List.append_assoc, made_append_eq_left hk' (by simp),
          made_append_eq_left hj' (by simp)]
      rw [hhost'] at hassembled ⊢
      refine ⟨hsound (by rw [hhost, fresh]; exact Host.sound_empty), ?_, ?_⟩
      · rw [hsame, verdicts_eq]
        exact hloaded.next (hstarted.next hassembled)
      · rw [hsame, hloaded.eq_ok]
        intro w hw
        cases hw
    · intro setback t' j hj heard returned
      obtain ⟨hhost, hmade, -, hloaded⟩ := hi heard.left returned.left
      obtain ⟨hsound, hstarted⟩ := hj.2 heard.right returned.right
      have hsame : made (i ++ j) = made i := by
        rw [made_append_eq_left (hj.1 heard.right).1.deeds_within (by simp)]
      refine ⟨hsound (by rw [hhost, fresh]; exact Host.sound_empty), ?_, ?_⟩
      · rw [hsame, verdicts_eq]
        exact hloaded.next (hstarted.stuck _)
      · rw [hsame, hloaded.eq_ok]
        intro w hw
        cases hw
  · intro setback t i hi heard returned
    obtain ⟨hhost, hmade, hunstarted, hloaded⟩ := hi heard returned
    refine ⟨?_, ?_, fun v _ => hunstarted⟩
    · rw [hhost, fresh]
      exact Host.sound_empty
    · exact hloaded.stuck _

/-- A launch comes to what its bootstrap comes to, unless the stopping is interrupted. -/
theorem tells_launch_checks (hosting : L.Hosting) (checking : L.Checking wrap)
    (es : List Expectations) (plan : List β) {s : σ} (fresh : L.host s = {}) :
    Tells (L.launch plan) (L.journaled.launch plan) s fun r _ j =>
      L.Heard (fun _ => es.map wrap) j → j.Returned →
        ∃ booted, L.Checked es (L.host (outcome (L.boot plan) s).2) booted j ∧
          ((∃ agent, r = .ok agent) ↔ ∃ agent, booted = .ok agent) ∧ (j.Calm → r = booted) := by
  refine L.tells_launch_of_boot (tells_boot_checks hosting checking es plan fresh).outcome_eq
    ?_ ?_ ?_ ?_
  · intro agent t i hi e heard returned
    rw [hi.1]
    exact ⟨.ok agent, (hi.2 heard.left returned.left).append rfl, Iff.rfl, fun _ => rfl⟩
  · intro setback t i hi hf heard returned
    obtain ⟨v, -, hv⟩ := (hi.2 heard returned).judged.eq_error
    have hv : setback.fault = .unmet v := hv
    rw [hv] at hf
    cases hf
  · intro setback t i k hi _ hdeeds _ heard returned
    rw [hi.1]
    exact ⟨.error setback.fault, (hi.2 heard.left returned.left).append hdeeds, Iff.rfl,
      fun _ => rfl⟩
  · intro setback t i k f hi _ hdeeds hk hf heard returned
    rw [hi.1]
    refine ⟨.error setback.fault, (hi.2 heard.left returned.left).append hdeeds, by simp,
      fun calm => ?_⟩
    rw [calm f (by rw [faults_append]; exact List.mem_append_right _ hk)] at hf
    cases hf

/-- Plugins known by their names, each of which registers one source. The state is the host. -/
def tasting (sets : List Expectations) : Lifecycle String String Expectations Host where
  name p := p
  construct p := pure p
  start p := Host.serve p (.element .source "counter") >>= fun _ => pure ()
  stop _ := pure ()
  listeners _ _ := sets.reverse.map closed
  notify e view := e.check (fun p => p) (fun _ h => h) view
  host h := h
  log _ h := h

theorem tasting_hosting (sets : List Expectations) : (tasting sets).Hosting where
  construct _ _ := rfl
  start p s := by
    refine ⟨[.element .source "counter"], ?_⟩
    cases h : Host.serve p (.element .source "counter") s with
    | ok r t =>
      have hstart : (tasting sets).start p s = .ok () t := bind_of_ok h
      rw [outcome_of_ok hstart]
      simp [outcomes, tasting, outcome_of_ok h]
    | error f t =>
      have hstart : (tasting sets).start p s = .error f t := bind_of_error h
      rw [outcome_of_error hstart]
      simp [outcomes, tasting, outcome_of_error h]
  log _ _ := rfl

end Lifecycle
end Preflight
