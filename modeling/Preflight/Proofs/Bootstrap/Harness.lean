import Preflight.Proofs.Bootstrap.Beside

/-! A launch with the test harness among the plugins, and the launch without it. Both end alike,
wherever in the plan the harness stands; only the harness's own stop, if it is interrupted, can take
the place of the fault that the launch ends in. -/
namespace Preflight
variable {β π γ σ τ α : Type} {c : Checkpoint}

namespace Lifecycle
open Expectations (counted closed attachAll callOrder_attachAll)
variable {L : Lifecycle β π γ σ} {own : σ → τ} {extra : List ElementName} {s t : σ} {harness : β}
  {wrap : Expectations → γ} {es : List Expectations} {plan plan' before after : List β}
  {ps qs : List π}

/-! ## The bootstrap -/

theorem pairs_load (log : ∀ e s, L.Keeps own s (L.log e s)) (checking : L.Checking wrap)
    (undeclared : ∀ e ∈ es, ElementName.harness.plugin ∉ e.plugins)
    (hbefore : ∀ b ∈ before, L.MakesGuests own b) (hafter : ∀ b ∈ after, L.MakesGuests own b)
    (hharness : L.MakesHarness own harness) :
    Pairs (L.Aside own extra) ((L.hearing fun _ => es.map wrap).load (before ++ after))
      ((L.hearing fun _ => es.map wrap).load (before ++ harness :: after))
      (fun ps s qs t => L.Seated own harness ps qs ∧ L.Aside own extra s t)
      (L.FailedAlike own harness) := by
  have hconstruct : Pairs (L.Aside own extra) ((before ++ after).mapM L.construct)
      ((before ++ harness :: after).mapM L.construct)
      (fun ps s qs t => L.Seated own harness ps qs ∧ L.Aside own extra s t)
      (fun e s e' t => e = e' ∧ ∃ extra, L.Aside own extra s t) :=
    (pairs_mapM_seated hbefore hafter hharness).mono (fun _ _ _ _ h => h)
      fun _ _ _ _ h => ⟨h.1, extra, h.2⟩
  refine Pairs.bind (pairs_during .nil hconstruct) fun ps qs s t ⟨hseated, hst⟩ => ?_
  have hname : ∀ q, L.Makes harness q → L.name q = ElementName.harness.plugin :=
    fun q hq => (hharness.harness q hq).name
  have hjudge : ∀ e ∈ es, ∀ metrics, e.judge L.name ((View.loaded ps).refresh metrics) =
      e.judge L.name ((View.loaded qs).refresh metrics) :=
    fun e he _ => checkPlugins_of_joined hseated.joined hname (undeclared e he)
  refine Pairs.modify_bind (S := L.Aside own extra)
    (fun s t hst => hst.of_keeps (log _ s) (log _ t)) ?_ s t hst
  exact Pairs.bind (pairs_notifying log checking .nil hjudge) fun _ _ =>
    Pairs.pure fun s t hst => ⟨hseated, hst⟩

theorem pairs_startAll (log : ∀ e s, L.Keeps own s (L.log e s)) (checking : L.Checking wrap)
    (hharness : L.MakesHarness own harness) (hseated : L.Seated own harness ps qs) :
    Pairs (L.Aside own []) ((L.hearing fun _ => es.map wrap).startAll ps)
      ((L.hearing fun _ => es.map wrap).startAll qs)
      (fun _ s _ t => L.Aside own [.harness] s t) (L.FailedAlike own harness) := by
  rw [startAll, startAll, hearing_startEach, hearing_startEach]
  refine Pairs.bind (pairs_startEach_seated hharness hseated) fun _ _ => ?_
  refine Pairs.get_bind fun s t hst => ?_
  rintro u v ⟨rfl, rfl⟩
  refine Pairs.modify_bind (S := L.Aside own [.harness])
    (fun s t hst => hst.of_keeps (log _ s) (log _ t)) ?_ u v hst
  exact pairs_notifying log checking hseated.joined fun e _ metrics => rfl

/-- Two agents, and what is registered besides their pipelines. -/
structure AgentsAlike (L : Lifecycle β π γ σ) (a : Agent π) (s : σ) (a' : Agent π) (t : σ) :
    Prop where
  metrics : (L.host s).metrics = (L.host t).metrics
  pipeline : ∀ kind, a.pipeline.names kind = counted kind (a'.pipeline.names kind)

theorem pairs_assemble (log : ∀ e s, L.Keeps own s (L.log e s)) (checking : L.Checking wrap)
    (hseated : L.Seated own harness ps qs) :
    Pairs (L.Aside own extra) ((L.hearing fun _ => es.map wrap).assemble ps)
      ((L.hearing fun _ => es.map wrap).assemble qs) L.AgentsAlike (L.FailedAlike own harness) := by
  refine Pairs.get_bind fun s t hst => ?_
  rintro u v ⟨rfl, rfl⟩
  have hjudge : ∀ e ∈ es, ∀ metrics,
      e.judge L.name ((View.assembled (L.host u).pipeline).refresh metrics) =
        e.judge L.name ((View.assembled (L.host v).pipeline).refresh metrics) :=
    fun e _ _ => checkElements_of_counted hst.host.names e
  refine Pairs.bind (pairs_notifying log checking hseated.joined hjudge) (fun _ _ => ?_) u v hst
  exact Pairs.pure fun s t hst' => ⟨hst'.host.metrics, hst.host.names⟩

theorem pairs_boot (log : ∀ e s, L.Keeps own s (L.log e s)) (checking : L.Checking wrap)
    (undeclared : ∀ e ∈ es, ElementName.harness.plugin ∉ e.plugins)
    (hbefore : ∀ b ∈ before, L.MakesGuests own b) (hafter : ∀ b ∈ after, L.MakesGuests own b)
    (hharness : L.MakesHarness own harness) :
    Pairs (L.Aside own []) ((L.hearing fun _ => es.map wrap).boot (before ++ after))
      ((L.hearing fun _ => es.map wrap).boot (before ++ harness :: after)) L.AgentsAlike
      (L.FailedAlike own harness) := by
  refine Pairs.bind (pairs_load log checking undeclared hbefore hafter hharness) ?_
  rintro ps qs s t ⟨hseated, hst⟩
  refine Pairs.bind (pairs_startAll log checking hharness hseated) (fun _ _ => ?_) s t hst
  exact pairs_assemble log checking hseated

/-! ## Stopping -/

variable (L) in
/-- Stopping the harness can end in the interrupt. -/
def InterruptedBy (harness : β) (f : Fault) : Prop :=
  f.isInterrupt = true ∧ ∃ q, L.Makes harness q ∧ ∃ u w, L.stop q u = .error f w

/-- Two stoppings have ended alike, or the second one was ended by the harness. -/
inductive StoppedAlike (P : Fault → Prop) : Except Fault α → Except Fault α → Prop where
  | ended (a a' : α) : StoppedAlike P (.ok a) (.ok a')
  | interrupted (f : Fault) : StoppedAlike P (.error f) (.error f)
  | hidden {f : Fault} (hf : P f) (r : Except Fault α) : StoppedAlike P r (.error f)

theorem StoppedAlike.map {P : Fault → Prop} {r r' : Except Fault α} (h : StoppedAlike P r r')
    (f g : α → α) : StoppedAlike P (r.map f) (r'.map g) := by
  cases h with
  | ended a a' => exact .ended _ _
  | interrupted f => exact .interrupted f
  | hidden hf r => exact .hidden hf _

theorem StoppedAlike.map_right {P : Fault → Prop} {r r' : Except Fault α}
    (h : StoppedAlike P r r') (g : α → α) : StoppedAlike P r (r'.map g) := by
  cases h with
  | ended a a' => exact .ended _ _
  | interrupted f => exact .interrupted f
  | hidden hf r => exact .hidden hf _

/-- What stopping comes to, by what stopping the first plugin comes to. -/
theorem outcome_stopEach_cons (p : π) (rest : List π) (s : σ) :
    (outcome (L.stopEach (p :: rest)) s).1 =
      match outcome (L.stop p) s with
      | (.ok _, t) => (outcome (L.stopEach rest) t).1
      | (.error f, t) =>
        if f.isInterrupt then .error f
        else (outcome (L.stopEach rest) (L.log (.stopFailed (L.name p) f) t)).1.map (L.name p :: ·)
    := by
  cases hp : L.stop p s with
  | ok u t => simp only [outcome, hp, L.stopEach_cons_of_ok hp]
  | error f t =>
    cases hf : f.isInterrupt with
    | true => simp [outcome, hp, L.stopEach_cons_of_interrupt hp hf, hf]
    | false =>
      have hcons : outcome (L.stopEach (p :: rest)) s = outcome
          ((L.name p :: ·) <$> L.stopEach rest) (L.log (.stopFailed (L.name p) f) t) := by
        rw [outcome, L.stopEach_cons_of_fault hp hf, outcome]
      simp [hcons, outcome_map, outcome_of_error hp, hf]

theorem stoppedAlike (log : ∀ e s, L.Keeps own s (L.log e s))
    (hharness : L.MakesHarness own harness)
    (h : Joined (L.Guest own) (L.Makes harness) ps qs) (hst : L.Aside own extra s t) :
    StoppedAlike (L.InterruptedBy harness) (outcome (L.stopEach ps) s).1
      (outcome (L.stopEach qs) t).1 := by
  induction h generalizing s t with
  | nil => exact .ended [] []
  | @guest p ps qs hp rest ih =>
    rw [outcome_stopEach_cons, outcome_stopEach_cons]
    have hstop := alongside_converses hp.stop hp.name s t hst
    generalize outcome (L.stop p) s = x at hstop
    generalize outcome (L.stop p) t = y at hstop
    cases hstop with
    | ok h => exact ih h.2
    | @error f s' f' t' h =>
      obtain ⟨rfl, hst'⟩ := h
      cases hf : f.isInterrupt with
      | true =>
        simp only [hf, if_true]
        exact .interrupted f
      | false =>
        simp only [hf, Bool.false_eq_true, if_false]
        exact (ih (hst'.of_keeps (log _ _) (log _ _))).map _ _
  | @host q ps qs hq rest ih =>
    rw [outcome_stopEach_cons]
    have hkeeps := (hharness.harness q hq).stop t
    cases hstop : L.stop q t with
    | ok u t' =>
      rw [outcome_of_ok hstop] at hkeeps ⊢
      exact ih (hst.of_keeps ⟨rfl, rfl⟩ hkeeps)
    | error f t' =>
      rw [outcome_of_error hstop] at hkeeps ⊢
      cases hf : f.isInterrupt with
      | true =>
        simp only [hf, if_true]
        exact .hidden ⟨hf, q, hq, t, t', hstop⟩ _
      | false =>
        simp only [hf, Bool.false_eq_true, if_false]
        have hst' : L.Aside own extra s t' := hst.of_keeps ⟨rfl, rfl⟩ hkeeps
        exact (ih (hst'.of_keeps ⟨rfl, rfl⟩ (log _ t'))).map_right _

/-! ## The launch -/

variable (L) in
/-- Two launches have ended alike, or the fault of the first one is hidden in the second one by an
interrupt from the harness. -/
inductive EndedAlike (harness : β) : Except Fault (Agent π) × σ → Except Fault (Agent π) × σ → Prop
  | returned {a a' : Agent π} {s t : σ} (h : L.AgentsAlike a s a' t) :
      EndedAlike harness (.ok a, s) (.ok a', t)
  | failed {f : Fault} {s t : σ} : EndedAlike harness (.error f, s) (.error f, t)
  | hidden {f g : Fault} {s t : σ} (hg : L.InterruptedBy harness g) :
      EndedAlike harness (.error f, s) (.error g, t)

theorem outcome_launch_of_ok {a : Agent π} (h : outcome (L.boot plan) s = (.ok a, t)) :
    outcome (L.launch plan) s = (.ok a, L.log (.agentStarted (L.host t).pipeline) t) :=
  outcome_of_ok (L.launch_of_ok (outcome_eq_ok h))

theorem outcome_launch_of_error {b : Setback π} (h : outcome (L.boot plan) s = (.error b, t)) :
    ∃ u, outcome (L.launch plan) s = (if b.fault.isInterrupt then .error b.fault else
      match (outcome (L.stopEach b.started.reverse)
        (L.log (.bootstrapFailed b.stage.word b.fault) t)).1 with
      | .ok _ => .error b.fault
      | .error f => .error f, u) := by
  have hboot := outcome_eq_error h
  cases hf : b.fault.isInterrupt with
  | true => exact ⟨t, outcome_of_error (L.launch_of_interrupt hboot hf)⟩
  | false =>
    cases hstop : L.stopEach b.started.reverse
        (L.log (.bootstrapFailed b.stage.word b.fault) t) with
    | ok failures u =>
      refine ⟨u, ?_⟩
      rw [outcome_of_error (L.launch_of_fault hboot hf hstop), outcome_of_ok hstop]
      rfl
    | error g u =>
      refine ⟨u, ?_⟩
      rw [outcome_of_error (L.launch_of_broken_stop hboot hf hstop), outcome_of_error hstop]
      rfl

theorem endedAlike_of_failedAlike (log : ∀ e s, L.Keeps own s (L.log e s))
    (hharness : L.MakesHarness own harness) {s₀ t₀ : σ} {b b' : Setback π}
    (hb : outcome (L.boot plan) s₀ = (.error b, s))
    (hb' : outcome (L.boot plan') t₀ = (.error b', t)) (h : L.FailedAlike own harness b s b' t) :
    L.EndedAlike harness (outcome (L.launch plan) s₀) (outcome (L.launch plan') t₀) := by
  obtain ⟨hfault, hstarted, extra, hst⟩ := h
  obtain ⟨u, hu⟩ := outcome_launch_of_error hb
  obtain ⟨v, hv⟩ := outcome_launch_of_error hb'
  rw [hu, hv, ← hfault]
  cases hf : b.fault.isInterrupt with
  | true => exact .failed
  | false =>
    have hstop := stoppedAlike log hharness hstarted.reverse
      (hst.of_keeps (log (.bootstrapFailed b.stage.word b.fault) s)
        (log (.bootstrapFailed b'.stage.word b.fault) t))
    generalize (outcome (L.stopEach b.started.reverse) _).1 = r at hstop ⊢
    generalize (outcome (L.stopEach b'.started.reverse) _).1 = r' at hstop ⊢
    cases hstop with
    | ended a a' => exact .failed
    | interrupted f => exact .failed
    | hidden hf r => cases r <;> exact .hidden hf

theorem endedAlike (log : ∀ e s, L.Keeps own s (L.log e s)) (checking : L.Checking wrap)
    (undeclared : ∀ e ∈ es, ElementName.harness.plugin ∉ e.plugins)
    (hbefore : ∀ b ∈ before, L.MakesGuests own b) (hafter : ∀ b ∈ after, L.MakesGuests own b)
    (hharness : L.MakesHarness own harness) (hst : L.Aside own [] s t)
    (heard : L.Heard (fun _ => es.map wrap) (L.journal (before ++ after) s))
    (heard' : L.Heard (fun _ => es.map wrap) (L.journal (before ++ harness :: after) t)) :
    L.EndedAlike harness (outcome (L.launch (before ++ after)) s)
      (outcome (L.launch (before ++ harness :: after)) t) := by
  have hboot := pairs_boot log checking undeclared hbefore hafter hharness s t hst
  rw [hearing_boot heard, hearing_boot heard'] at hboot
  generalize hx : outcome (L.boot (before ++ after)) s = x at hboot
  generalize hy : outcome (L.boot (before ++ harness :: after)) t = y at hboot
  cases hboot with
  | ok h =>
    rw [outcome_launch_of_ok hx, outcome_launch_of_ok hy]
    refine .returned ⟨?_, h.pipeline⟩
    rw [(log _ _).host, (log _ _).host, h.metrics]
  | error h => exact endedAlike_of_failedAlike log hharness hx hy h

/-- Wherever the harness stands among the plugins, the launch ends as it does without it: in agents
with the same metrics, transforms and outputs, and the same sources but for the harness's own; or in
the same fault. The one exception is a failed launch in which stopping the harness is interrupted:
the interrupt hides the fault. -/
theorem launch_beside_harness (log : ∀ e s, L.Keeps own s (L.log e s)) (checking : L.Checking wrap)
    (sets : List Expectations) {audience : Audience γ}
    (attached : attachAll wrap sets {} = .ok audience)
    (undeclared : ∀ e ∈ sets, ElementName.harness.plugin ∉ e.plugins)
    (hbefore : ∀ b ∈ before, L.MakesGuests own b) (hafter : ∀ b ∈ after, L.MakesGuests own b)
    (hharness : L.MakesHarness own harness)
    (fresh : L.host s = {}) (fresh' : L.host t = {}) (same : own s = own t)
    (heard : L.Heard (fun c => audience.callOrder c) (L.journal (before ++ after) s))
    (heard' : L.Heard (fun c => audience.callOrder c) (L.journal (before ++ harness :: after) t)) :
    (∃ a s' a' t', L.launch (before ++ after) s = .ok a s' ∧
      L.launch (before ++ harness :: after) t = .ok a' t' ∧
      (L.host s').metrics = (L.host t').metrics ∧
      a.pipeline.transforms = a'.pipeline.transforms ∧ a.pipeline.outputs = a'.pipeline.outputs ∧
      a.pipeline.sources = a'.pipeline.sources.filter (· ≠ .harness)) ∨
    (∃ f s' t', L.launch (before ++ after) s = .error f s' ∧
      L.launch (before ++ harness :: after) t = .error f t') ∨
    ∃ f s' g t', L.launch (before ++ after) s = .error f s' ∧
      L.launch (before ++ harness :: after) t = .error g t' ∧ g.isInterrupt = true ∧
      ∃ q, L.Makes harness q ∧ ∃ u w, L.stop q u = .error g w := by
  have hcalled : (fun c => audience.callOrder c) = fun _ => (sets.reverse.map closed).map wrap :=
    funext (callOrder_attachAll attached)
  rw [hcalled] at heard heard'
  have hundeclared : ∀ e ∈ sets.reverse.map closed, ElementName.harness.plugin ∉ e.plugins := by
    simpa [Expectations.closed] using undeclared
  have hst : L.Aside own [] s t := by
    refine ⟨?_, same⟩
    rw [fresh, fresh']
    exact .empty
  have hended :=
    endedAlike log checking hundeclared hbefore hafter hharness hst heard heard'
  generalize hx : outcome (L.launch (before ++ after)) s = x at hended
  generalize hy : outcome (L.launch (before ++ harness :: after)) t = y at hended
  cases hended with
  | returned h =>
    exact .inl ⟨_, _, _, _, outcome_eq_ok hx, outcome_eq_ok hy, h.metrics, h.pipeline .transform,
      h.pipeline .output, h.pipeline .source⟩
  | failed => exact .inr (.inl ⟨_, _, _, outcome_eq_error hx, outcome_eq_error hy⟩)
  | hidden hg =>
    exact .inr (.inr ⟨_, _, _, _, outcome_eq_error hx, outcome_eq_error hy, hg.1, hg.2⟩)

/-- A plugin that is made of its dialogues. -/
structure Player where
  name : String
  start : Dialogue Nat
  stop : Dialogue Nat := .finish (.ok ())

/-- Players that share a number, and expectations of them. -/
def playing (sets : List Expectations) : Lifecycle Player Player Expectations (Host × Nat) where
  name p := p.name
  construct p := pure p
  start p := p.start.act p.name
  stop p := p.stop.act p.name
  listeners _ _ := sets.reverse.map closed
  notify e view := e.check (·.name) (fun _ s => s) view
  host s := s.1
  log _ s := s

/-- The harness; `r` is what stopping it comes to. -/
def tester (r : Except Fault Unit) : Player where
  name := ElementName.harness.plugin
  start := .ask (.element .source ElementName.harness.label) fun reply =>
    .finish (reply.map fun _ => ())
  stop := .finish r

theorem playing_keeps (sets : List Expectations) (e : Log.Event) (s : Host × Nat) :
    (playing sets).Keeps Prod.snd s ((playing sets).log e s) := ⟨rfl, rfl⟩

theorem playing_makesGuests (sets : List Expectations) {p : Player}
    (hp : p.name ≠ ElementName.harness.plugin) : (playing sets).MakesGuests Prod.snd p where
  host _ := rfl
  kept _ _ h := ⟨rfl, h⟩
  guest := by
    rintro _ ⟨s, t, ⟨⟩⟩
    exact ⟨hp, ⟨p.start, fun s => (Dialogue.outcome_act _ _ s).symm⟩,
      ⟨p.stop, fun s => (Dialogue.outcome_act _ _ s).symm⟩⟩

theorem run_tester_start {h : Host} (hfree : ElementName.harness ∉ h.pipeline.sources)
    (r : Except Fault Unit) (n : Nat) : (tester r).start.run ElementName.harness.plugin (h, n) =
      (.ok (), (Host.answer ElementName.harness.plugin
        (.element .source ElementName.harness.label) h).2, n) := by
  have hadd : Host.addElement ElementName.harness.plugin .source ElementName.harness.label h =
      .ok .harness _ := Host.addElement_of_free hfree
  have hanswer : Host.answer ElementName.harness.plugin
      (.element .source ElementName.harness.label) h = _ :=
    outcome_of_ok (Host.serve_element_of_ok hadd)
  simp only [tester, Dialogue.run, hanswer]
  rfl

theorem playing_makesHarness (sets : List Expectations) (r : Except Fault Unit) :
    (playing sets).MakesHarness Prod.snd (tester r) where
  construct s := ⟨tester r, s, rfl, rfl, rfl⟩
  harness := by
    rintro _ ⟨s, t, ⟨⟩⟩
    refine ⟨rfl, fun s hfree => ⟨(_, s.2), ?_, rfl, rfl⟩, fun s => ?_⟩
    · exact outcome_eq_ok ((Dialogue.outcome_act _ _ s).trans (run_tester_start hfree r s.2))
    · have hstop : outcome ((playing sets).stop (tester r)) s = (r, s) :=
        Dialogue.outcome_act _ _ s
      rw [hstop]
      exact ⟨rfl, rfl⟩

/-- Counts cups, and may not come to rest. -/
def brewer : Player where
  name := "coffee"
  start := .ask (.metric "cups" (.type (.builtin "int")) (.text "1") "") fun _ =>
    .ask (.element .source "counter") fun _ => .keep 1 (.finish (.ok ()))
  stop := .look fun _ cups =>
    .finish (if cups = 0 then .ok () else .error (.raised "RuntimeError" "still brewing"))

theorem launch_beside_harness_brewer :
    let met : Expectations :=
      { metrics := [⟨"cups", .u64, ⟨.unity, .plain⟩⟩], plugins := ["coffee"],
        elements := { sources := [⟨"coffee", "counter"⟩] } }
    let L := playing [met]
    let s : Host × Nat := ({}, 0)
    L.MakesGuests Prod.snd brewer ∧ L.MakesHarness Prod.snd (tester (.ok ())) ∧ L.host s = {} ∧
      ElementName.harness.plugin ∉ met.plugins ∧
      ∃ audience, attachAll (fun e => e) [met] {} = .ok audience ∧
        L.Heard (fun c => audience.callOrder c) (L.journal [brewer] s) ∧
        L.Heard (fun c => audience.callOrder c) (L.journal [tester (.ok ()), brewer] s) ∧
        ∃ a s' a' t', L.launch [brewer] s = .ok a s' ∧
          L.launch [tester (.ok ()), brewer] s = .ok a' t' ∧
          (L.host s').metrics = (L.host t').metrics ∧
          a.pipeline.sources = [⟨"coffee", "counter"⟩] ∧
          a'.pipeline.sources = [.harness, ⟨"coffee", "counter"⟩] := by
  intro met L s
  have checking : L.Checking (fun e => e) := fun e c view => rfl
  have attached : attachAll (fun e => e) [met] {} = .ok _ := rfl
  have undeclared : ∀ e ∈ [met], ElementName.harness.plugin ∉ e.plugins := by decide
  have hguest : L.MakesGuests Prod.snd brewer := playing_makesGuests _ (by decide)
  have hharness : L.MakesHarness Prod.snd (tester (.ok ())) := playing_makesHarness _ _
  have heard (plan : List Player) : L.Heard (fun c => Audience.callOrder c _) (L.journal plan s) :=
    fun c n s _ => (callOrder_attachAll attached c).symm
  have nobody : ∀ b ∈ ([] : List Player), L.MakesGuests Prod.snd b := by simp
  have guests : ∀ b ∈ [brewer], L.MakesGuests Prod.snd b := by simpa using hguest
  have returns : (outcome (L.launch [brewer]) s).1.isOk = true := by decide +kernel
  have sources : (outcome (L.launch [tester (.ok ()), brewer]) s).1.toOption.map
      (·.pipeline.sources) = some [.harness, ⟨"coffee", "counter"⟩] := by decide +kernel
  refine ⟨hguest, hharness, rfl, by decide, _, attached, heard _, heard _, ?_⟩
  have hended := launch_beside_harness (playing_keeps [met]) checking [met] attached undeclared
    nobody guests hharness rfl rfl rfl (heard _) (heard _)
  rcases hended with ⟨a, s', a', t', ha, ha', hmetrics, -, -, hsources⟩ | ⟨f, s', t', hf, -⟩ |
    ⟨f, s', g, t', hf, -⟩
  · have ha'' : a'.pipeline.sources = [.harness, ⟨"coffee", "counter"⟩] := by
      rw [show outcome (L.launch [tester (.ok ()), brewer]) s = _ from outcome_of_ok ha'] at sources
      exact Option.some.inj sources
    refine ⟨a, s', a', t', ha, ha', hmetrics, ?_, ha''⟩
    rw [hsources, ha'']
    decide
  · rw [show outcome (L.launch [brewer]) s = _ from outcome_of_error hf] at returns
    cases returns
  · rw [show outcome (L.launch [brewer]) s = _ from outcome_of_error hf] at returns
    cases returns

/-- The expected metric is missing, and the launch says so; with a harness whose stop is interrupted
it only tells of the interrupt. -/
theorem harness_hides_violation :
    let unmet : Expectations := { metrics := [⟨"cups", .u64, ⟨.unity, .plain⟩⟩] }
    let L := playing [unmet]
    let harness := tester (.error (.raised "KeyboardInterrupt" "stop now"))
    let s : Host × Nat := ({}, 0)
    L.MakesHarness Prod.snd harness ∧ ElementName.harness.plugin ∉ unmet.plugins ∧
      ElementName.harness ∉ unmet.elements.sources ∧
      (∃ s', L.launch [] s = .error (.unmet (.missingMetric "cups")) s') ∧
      ∃ t', L.launch [harness] s = .error (.raised "KeyboardInterrupt" "stop now") t' := by
  refine ⟨playing_makesHarness _ _, by decide, by decide, ⟨_, rfl⟩, _, rfl⟩

end Lifecycle
end Preflight
