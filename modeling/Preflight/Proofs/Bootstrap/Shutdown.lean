import Preflight.Proofs.Bootstrap.Interrupt

/-! The life of an agent, from its launch to its last shutdown. Only the first shutdown does
anything: each plugin is asked to stop, the last one to start first, and those that fail are passed
over. An interrupt cuts it short, and no later shutdown takes up what it left. -/
namespace Preflight
variable {β π γ σ : Type}

/-- A change of the state that is no matter for the journal. -/
def unnoted (change : σ → σ) : σ × Journal β π γ σ → σ × Journal β π γ σ := Prod.map change id

namespace Lifecycle
variable (L : Lifecycle β π γ σ)

/-- A shutdown whose fault is caught, and the agent after it. -/
def tryShutdown (a : Agent π) : EStateM Fault σ (Except Fault Unit × Agent π) := fun s =>
  match a.shutdown L s with
  | (.ok u t, b) => .ok (.ok u, b) t
  | (.error f t, b) => .ok (.error f, b) t

/-- One shutdown after the other, each caught. Before each of them the state may have changed. -/
def shutdowns (a : Agent π) :
    List (σ → σ) → EStateM Fault σ (List (Except Fault Unit) × Agent π)
  | [] => pure ([], a)
  | change :: rest => do
    modify change
    let (first, b) ← L.tryShutdown a
    let (later, c) ← shutdowns b rest
    return (first :: later, c)

/-- What each shutdown came to, and the agent after them, if there has been one. -/
def life (plan : List β) (changes : List (σ → σ)) :
    EStateM Fault σ (List (Except Fault Unit) × Agent π) := do
  let agent ← L.launch plan
  L.shutdowns agent changes

/-- All that happens in a life. -/
def lifeJournal (plan : List β) (changes : List (σ → σ)) (s : σ) : Journal β π γ σ :=
  (outcome (L.journaled.life plan (changes.map unnoted)) (s, [])).2.2

end Lifecycle

namespace Journal

/-- Stopping comes last; the plugins that are stopped had started, and each is stopped once, the
last one to start first. -/
def StopsLast (j : Journal β π γ σ) : Prop :=
  ∃ before after, j = before ++ after ∧ before.stops = [] ∧ after.deeds = [] ∧
    after.stops <+: before.running.reverse

variable {i j : Journal β π γ σ} {plugins : List π} {name : π → String}

theorem stopsLast_of_no_stops (h : j.stops = []) : StopsLast j :=
  ⟨j, [], (List.append_nil j).symm, h, rfl, List.nil_prefix⟩

/-- How the first shutdown of an agent with these plugins reads, when `r` is what it comes to. -/
inductive Closing (name : π → String) (plugins : List π) :
    Except Fault Unit → Journal β π γ σ → Prop where
  | complete {failures : List String} {k : Journal β π γ σ} {s : σ}
      (stopping : Stopping name plugins.reverse (.ok failures) k) :
      Closing name plugins (.ok ())
        (k ++ [.logged (.agentStopped (plugins.map name) failures) s])
  | cut {f : Fault} {k : Journal β π γ σ}
      (stopping : Stopping name plugins.reverse (.error f) k) : Closing name plugins (.error f) k

theorem Closing.deeds_eq_nil {r : Except Fault Unit} (h : Closing name plugins r j) :
    deeds j = [] := by
  cases h with
  | complete stopping =>
    rw [deeds_append, stopping.deeds_eq_nil]
    rfl
  | cut stopping => exact stopping.deeds_eq_nil

theorem Closing.stops_prefix {r : Except Fault Unit} (h : Closing name plugins r j) :
    stops j <+: plugins.reverse := by
  cases h with
  | complete stopping =>
    rw [stops_append]
    simpa [stops, Entry.stopped?] using stopping.stops_prefix
  | cut stopping => exact stopping.stops_prefix

theorem Closing.stopsLast {r : Except Fault Unit} (h : Closing name plugins r j)
    (hi : i.stops = []) (hrun : i.running = plugins) : StopsLast (i ++ j) :=
  ⟨i, j, rfl, hi, h.deeds_eq_nil, hrun ▸ h.stops_prefix⟩

end Journal

namespace Lifecycle
open Journal
variable (L : Lifecycle β π γ σ)

theorem tells_change_bind {ε α : Type} {y : EStateM ε σ α}
    {x : EStateM ε (σ × Journal β π γ σ) α} {change : σ → σ} {s : σ}
    {Q : Except ε α → σ → Journal β π γ σ → Prop} (h : Tells y x (change s) Q) :
    Tells (modify change >>= fun _ => y) (modify (unnoted change) >>= fun _ => x) s Q :=
  fun past => h past

theorem tryShutdown_of_ended {a : Agent π} (h : a.running = false) :
    L.tryShutdown a = pure (.ok (), a) := by
  funext s
  simp [tryShutdown, Agent.shutdown, h]
  rfl

theorem tryShutdown_of_ok {a : Agent π} (h : a.running = true) {s t : σ} {failures : List String}
    (hstop : L.stopAll a.plugins s = .ok failures t) : L.tryShutdown a s =
      .ok (.ok (), { a with running := false })
        (L.log (.agentStopped (L.names a.plugins) failures) t) := by
  simp only [tryShutdown, Agent.shutdown, h, hstop, if_true]

theorem tryShutdown_of_error {a : Agent π} (h : a.running = true) {s t : σ} {f : Fault}
    (hstop : L.stopAll a.plugins s = .error f t) :
    L.tryShutdown a s = .ok (.error f, { a with running := false }) t := by
  simp only [tryShutdown, Agent.shutdown, h, hstop, if_true]

theorem tells_tryShutdown {a : Agent π} (h : a.running = true) (s : σ) :
    Tells (L.tryShutdown a) (L.journaled.tryShutdown a) s fun r _ j =>
      ∃ first, r = .ok (first, { a with running := false }) ∧
        Closing L.name a.plugins first j := by
  intro past
  obtain ⟨r, t, k, hy, hx, hk⟩ := L.tells_stopEach a.plugins.reverse s past
  cases r with
  | ok failures =>
    let report : Log.Event := .agentStopped (L.names a.plugins) failures
    have hy := L.tryShutdown_of_ok h (outcome_eq_ok hy)
    have hx := L.journaled.tryShutdown_of_ok h (outcome_eq_ok hx)
    refine ⟨_, L.log report t, k ++ [.logged report t], outcome_of_ok hy, ?_, .ok (), rfl,
      .complete hk⟩
    rw [outcome_of_ok hx, ← List.append_assoc]
    rfl
  | error f =>
    have hy := L.tryShutdown_of_error h (outcome_eq_error hy)
    have hx := L.journaled.tryShutdown_of_error h (outcome_eq_error hx)
    exact ⟨_, t, k, outcome_of_ok hy, outcome_of_ok hx, .error f, rfl, .cut hk⟩

/-- An agent that has been shut down is left alone. -/
theorem tells_shutdowns_of_ended {a : Agent π} (h : a.running = false) (changes : List (σ → σ))
    (s : σ) :
    Tells (L.shutdowns a changes) (L.journaled.shutdowns a (changes.map unnoted)) s fun r _ j =>
      r = .ok (List.replicate changes.length (.ok ()), a) ∧ j = [] := by
  induction changes generalizing s with
  | nil => exact .pure ⟨rfl, rfl⟩
  | cons change rest ih =>
    apply tells_change_bind
    simp only [tryShutdown_of_ended L h, tryShutdown_of_ended L.journaled h, pure_bind]
    refine Tells.bind (ih (change s)) ?_ ?_
    · rintro out t j ⟨hout, rfl⟩
      cases hout
      exact .pure ⟨rfl, rfl⟩
    · rintro f t j ⟨hf, -⟩
      cases hf

theorem tells_shutdowns {a : Agent π} (h : a.running = true) (change : σ → σ)
    (rest : List (σ → σ)) (s : σ) :
    Tells (L.shutdowns a (change :: rest))
      (L.journaled.shutdowns a ((change :: rest).map unnoted)) s fun r _ j =>
        ∃ first, r = .ok (first :: List.replicate rest.length (.ok ()),
          { a with running := false }) ∧ Closing L.name a.plugins first j := by
  apply tells_change_bind
  refine Tells.bind (L.tells_tryShutdown h (change s)) ?_ ?_
  · rintro out t j ⟨first, hout, hj⟩
    cases hout
    refine Tells.bind (L.tells_shutdowns_of_ended rfl rest t) ?_ ?_
    · rintro out u k ⟨hout, rfl⟩
      cases hout
      apply Tells.pure
      rw [List.append_nil, List.append_nil]
      exact ⟨first, rfl, hj⟩
    · rintro f u k ⟨hf, -⟩
      cases hf
  · rintro f t j ⟨first, hf, -⟩
    cases hf

/-! ## Whole lives -/

/-- A bootstrap that comes to its end has started the plugins of its agent, in their order. -/
theorem tells_boot_agent (plan : List β) (s : σ) :
    Tells (L.boot plan) (L.journaled.boot plan) s fun r _ j =>
      WhenOk r fun a => a.plugins = running j ∧ a.running = true := by
  refine Tells.bind (L.tells_load_any plan s) ?_ fun _ _ _ _ => trivial
  intro plugins t i hi
  refine Tells.bind (L.tells_startAll_any plugins t) ?_ fun _ _ _ _ => trivial
  intro u t' j hj
  refine Tells.get_bind fun past => ?_
  refine Tells.bind (L.tells_notifying_any plugins _ t') ?_ fun _ _ _ _ => trivial
  intro v w k hk
  have hrun : running j = plugins := hj.2
  apply Tells.pure
  refine ⟨?_, rfl⟩
  rw [running_append, running_append, List.append_nil, hi.2, hrun, hk.2]
  simp

theorem tells_launch_stopsLast (plan : List β) (s : σ) :
    Tells (L.launch plan) (L.journaled.launch plan) s fun r _ j => StopsLast j ∧
      WhenOk r fun a => a.plugins = running j ∧ a.running = true ∧ stops j = [] := by
  have hboot := (L.tells_boot_any plan s).both (L.tells_boot_agent plan s)
  refine L.tells_launch_stopping hboot ?_ ?_ ?_
  · rintro agent t i ⟨hi, hagent⟩
    have hi : Done (deeds i) i := hi
    have hstops : stops (i ++ [.logged (.agentStarted (L.host t).pipeline) t]) = [] := by
      rw [stops_append, hi.stops]
      rfl
    refine ⟨stopsLast_of_no_stops hstops, ?_, hagent.2, hstops⟩
    rw [running_append_of_no_deeds rfl]
    exact hagent.1
  · rintro setback t i ⟨⟨hi, -⟩, -⟩ -
    exact ⟨stopsLast_of_no_stops hi.stops, trivial⟩
  · rintro setback t i k r f ⟨⟨hi, hstarted⟩, -⟩ hk
    rw [List.nil_append] at hstarted
    exact ⟨⟨i, _, rfl, hi.stops, hk.deeds_eq_nil, hstarted ▸ hk.stops_prefix⟩, trivial⟩

/-- A launched agent stays as it is while it is not shut down. -/
theorem tells_life_unclosed (plan : List β) (s : σ) :
    Tells (L.life plan []) (L.journaled.life plan []) s fun _ _ j => StopsLast j := by
  refine Tells.bind (L.tells_launch_stopsLast plan s) ?_ fun _ _ _ h => h.1
  intro a t i hi
  apply Tells.pure
  rw [List.append_nil]
  exact hi.1

theorem tells_life (plan : List β) (change : σ → σ) (rest : List (σ → σ)) (s : σ) :
    Tells (L.life plan (change :: rest))
      (L.journaled.life plan ((change :: rest).map unnoted)) s fun r _ j => StopsLast j ∧
        ∀ a t, L.launch plan s = .ok a t → a.running = true ∧ a.plugins = running j ∧
          ∃ first i k, r = .ok (first :: List.replicate rest.length (.ok ()),
            { a with running := false }) ∧ j = i ++ k ∧ stops i = [] ∧
              Closing L.name a.plugins first k := by
  refine Tells.bind (L.tells_launch_stopsLast plan s).outcome_eq ?_ ?_
  · rintro a t i ⟨hlaunch, hlast, hplugins, hrunning, hstops⟩
    refine (L.tells_shutdowns hrunning change rest t).mono ?_
    rintro r u k ⟨first, rfl, hk⟩
    refine ⟨hk.stopsLast hstops hplugins.symm, ?_⟩
    intro b v hb
    cases (outcome_eq_ok hlaunch).symm.trans hb
    refine ⟨hrunning, ?_, first, i, k, rfl, rfl, hstops, hk⟩
    rw [running_append_of_no_deeds hk.deeds_eq_nil]
    exact hplugins
  · rintro f t i ⟨hlaunch, hlast, -⟩
    refine ⟨hlast, ?_⟩
    intro b v hb
    cases (outcome_eq_error hlaunch).symm.trans hb

theorem exists_tryShutdown (a : Agent π) (s : σ) :
    ∃ first b t, L.tryShutdown a s = .ok (first, b) t ∧ b.running = false := by
  cases ha : a.running with
  | false => exact ⟨.ok (), a, s, by rw [L.tryShutdown_of_ended ha]; rfl, ha⟩
  | true =>
    cases hstop : L.stopAll a.plugins s with
    | ok failures t => exact ⟨_, _, _, L.tryShutdown_of_ok ha hstop, rfl⟩
    | error f t => exact ⟨_, _, _, L.tryShutdown_of_error ha hstop, rfl⟩

/-- Nothing more happens after the first shutdown. -/
theorem journal_shutdowns (a : Agent π) (change : σ → σ) (rest : List (σ → σ))
    (u : σ × Journal β π γ σ) :
    (outcome (L.journaled.shutdowns a ((change :: rest).map unnoted)) u).2.2 =
      (outcome (L.journaled.tryShutdown a) (unnoted change u)).2.2 := by
  obtain ⟨first, b, t, hfirst, hb⟩ := L.journaled.exists_tryShutdown a (unnoted change u)
  obtain ⟨r, v, es, -, hrest, rfl, rfl⟩ := L.tells_shutdowns_of_ended hb rest t.1 t.2
  have hbind : (outcome (L.journaled.shutdowns a ((change :: rest).map unnoted)) u).2.2 =
      (outcome (L.journaled.tryShutdown a >>= fun out => do
        let (later, c) ← L.journaled.shutdowns out.2 (rest.map unnoted)
        return (out.1 :: later, c)) (unnoted change u)).2.2 := rfl
  rw [hbind, outcome_bind_of_ok (outcome_of_ok hfirst), outcome_bind_of_ok hrest,
    outcome_of_ok hfirst]
  exact List.append_nil t.2

theorem lifeJournal_cons (plan : List β) (change : σ → σ) (rest : List (σ → σ)) (s : σ) :
    L.lifeJournal plan (change :: rest) s = L.lifeJournal plan [change] s := by
  unfold lifeJournal life
  cases hlaunch : L.journaled.launch plan (s, []) with
  | ok a u =>
    rw [outcome_bind_of_ok (outcome_of_ok hlaunch), outcome_bind_of_ok (outcome_of_ok hlaunch),
      L.journal_shutdowns a change rest u, L.journal_shutdowns a change [] u]
  | error f u =>
    rw [outcome_bind_of_error (outcome_of_error hlaunch),
      outcome_bind_of_error (outcome_of_error hlaunch)]

/-- In any life a plugin is stopped at most once, and only after it has started. A launched agent
can be shut down again and again, whichever of its plugins fail to stop: no shutdown fails, and the
first one stops all plugins, the last one to start first, and reports those that failed. -/
theorem shutdowns_stop_each_once (plan : List β) (s : σ) (changes : List (σ → σ)) :
    let j := L.lifeJournal plan changes s
    (∃ r t, outcome (L.life plan changes) s = (r, t) ∧
      outcome (L.journaled.life plan (changes.map unnoted)) (s, []) = (r, t, j)) ∧
    StopsLast j ∧
    ∀ agent t, L.launch plan s = .ok agent t → j.Calm → changes ≠ [] →
      agent.running = true ∧ agent.plugins = j.running ∧
      (∃ u, L.life plan changes s =
        .ok (List.replicate changes.length (.ok ()), { agent with running := false }) u) ∧
      j.stops = agent.plugins.reverse ∧
      (∃ (before : Journal β π γ σ) (u : σ), j = before ++
        [.logged (.agentStopped (L.names agent.plugins) (L.names before.failedStops)) u]) ∧
      ∀ change ∈ changes.head?, j = L.lifeJournal plan [change] s := by
  intro j
  cases hchanges : changes with
  | nil =>
    subst hchanges
    obtain ⟨r, t, i, hy, hx, hlast⟩ := L.tells_life_unclosed plan s []
    have hj : j = i := congrArg (·.2.2) hx
    rw [hj]
    exact ⟨⟨r, t, hy, hx⟩, hlast, fun _ _ _ _ h => absurd rfl h⟩
  | cons change rest =>
    subst hchanges
    obtain ⟨r, t, i, hy, hx, hlast, hagent⟩ := L.tells_life plan change rest s []
    have hj : j = i := congrArg (·.2.2) hx
    refine ⟨⟨r, t, hy, hj ▸ hx⟩, hj ▸ hlast, ?_⟩
    intro agent u hlaunch calm _
    obtain ⟨hrunning, hplugins, first, before, k, rfl, rfl, hstops, hk⟩ := hagent agent u hlaunch
    rw [hj] at calm
    cases hk with
    | cut stopping =>
      -- The interrupt would be among the faults of the journal.
      rw [Calm, faults_append] at calm
      have hordinary := calm _ (List.mem_append_right _ stopping.fault_mem)
      rw [stopping.of_error.1] at hordinary
      cases hordinary
    | @complete failures k v stopping =>
      obtain ⟨hstopped, hfailures⟩ := stopping.of_ok
      refine ⟨hrunning, hj ▸ hplugins, ⟨t, outcome_eq_ok hy⟩, ?_, ⟨before ++ k, v, ?_⟩, ?_⟩
      · rw [hj, stops_append, hstops, stops_append, hstopped]
        simp [stops, Entry.stopped?]
      · rw [hj, hfailures, names, names, failedStops_append_of_no_stops hstops,
          List.append_assoc]
      · rintro _ ⟨⟩
        exact L.lifeJournal_cons plan change rest s

/-- The plugin b fails to stop; still a is stopped, and the second shutdown stops neither. -/
theorem shutdowns_stop_each_once_rehearsal :
    let j := rehearsal.lifeJournal ["a", "b"] [id, id] ()
    rehearsal.launch ["a", "b"] () = .ok ⟨["a", "b"], {}, true⟩ () ∧ j.Calm ∧
      j.stops = ["b", "a"] ∧ j.failedStops = ["b"] ∧
      ∃ u, rehearsal.life ["a", "b"] [id, id] () =
        .ok (List.replicate 2 (.ok ()), ⟨["a", "b"], {}, false⟩) u := by
  intro j
  have launched : rehearsal.launch ["a", "b"] () = .ok ⟨["a", "b"], {}, true⟩ () := rfl
  have calm : j.Calm := by decide +kernel
  obtain ⟨-, -, hagent⟩ := rehearsal.shutdowns_stop_each_once ["a", "b"] () [id, id]
  obtain ⟨-, -, hlife, hstops, -, -⟩ := hagent _ () launched calm (List.cons_ne_nil _ _)
  have hfailed : j.failedStops = ["b"] := by decide +kernel
  exact ⟨launched, calm, hstops, hfailed, hlife⟩

theorem allStopped_iff_of_split {j : Journal β π γ σ} {early late : List π} {p : π}
    (hrun : j.running = early ++ p :: late) (hstops : j.stops = late.reverse ++ [p])
    (nodup : (early ++ p :: late).Nodup) : AllStopped j ↔ early = [] := by
  rw [AllStopped, hrun, hstops]
  constructor
  · intro h
    refine List.eq_nil_iff_forall_not_mem.mpr fun q hq => ?_
    have hlate : q ∈ p :: late := by simpa [or_comm] using h q (List.mem_append_left _ hq)
    exact (List.nodup_append.mp nodup).2.2 q hq q hlate rfl
  · rintro rfl q hq
    simpa [or_comm] using hq

/-- An interrupt ends the first shutdown and is not followed up: every later shutdown returns, and
the plugins that had started before the interrupted one are never asked to stop. -/
theorem shutdowns_left_by_interrupt (plan : List β) (s : σ) (change : σ → σ)
    (rest : List (σ → σ)) (agent : Agent π) (t : σ) (launched : L.launch plan s = .ok agent t) :
    let j := L.lifeJournal plan (change :: rest) s
    ∃ first u, L.life plan (change :: rest) s =
        .ok (first :: List.replicate rest.length (.ok ()), { agent with running := false }) u ∧
      j.running = agent.plugins ∧
      (first = .ok () → j.stops = agent.plugins.reverse ∧ AllStopped j) ∧
      ∀ f, first = .error f → f.isInterrupt = true ∧
        ∃ early p late, agent.plugins = early ++ p :: late ∧ j.stops = late.reverse ++ [p] ∧
          (∃ before : Journal β π γ σ, j = before ++ [.stopped p (.error f)]) ∧
          (agent.plugins.Nodup → (AllStopped j ↔ early = [])) := by
  intro j
  obtain ⟨r, u, i, hy, hx, -, hagent⟩ := L.tells_life plan change rest s []
  have hj : j = i := congrArg (·.2.2) hx
  obtain ⟨-, hplugins, first, before, k, rfl, rfl, hstops, hk⟩ := hagent agent t launched
  rw [← hj] at hplugins
  refine ⟨first, u, outcome_eq_ok hy, hplugins.symm, ?_, ?_⟩
  · rintro rfl
    cases hk with
    | @complete failures k v stopping =>
      have hall : j.stops = agent.plugins.reverse := by
        rw [hj, stops_append, hstops, stops_append, stopping.of_ok.1]
        simp [stops, Entry.stopped?]
      refine ⟨hall, fun p hp => ?_⟩
      rw [hall, List.mem_reverse, hplugins]
      exact hp
  · rintro f rfl
    cases hk with
    | cut stopping =>
      obtain ⟨hf, asked, p, left, i, hreverse, rfl, hasked⟩ := stopping.of_error
      have hsplit : agent.plugins = left.reverse ++ p :: asked.reverse := by
        simpa using congrArg List.reverse hreverse
      have hall : j.stops = asked.reverse.reverse ++ [p] := by
        rw [hj, stops_append, hstops, stops_append, hasked, List.reverse_reverse]
        rfl
      refine ⟨hf, left.reverse, p, asked.reverse, hsplit, hall, ⟨before ++ i, ?_⟩, ?_⟩
      · rw [hj, List.append_assoc]
      · intro nodup
        exact allStopped_iff_of_split (hplugins.symm.trans hsplit) hall (hsplit ▸ nodup)

/-- The rehearsal, where it is an interrupt that b ends in when it is stopped. -/
def siege : Lifecycle String String String Unit :=
  { rehearsal with
    stop := fun p => if p = "b" then throw (.raised "KeyboardInterrupt" p) else pure () }

theorem shutdowns_left_by_interrupt_siege :
    siege.launch ["a", "b"] () = .ok ⟨["a", "b"], {}, true⟩ () ∧
      ∃ first u, siege.life ["a", "b"] [id, id] () =
          .ok (first :: List.replicate 1 (.ok ()), ⟨["a", "b"], {}, false⟩) u ∧
        ∀ f, first = .error f → f.isInterrupt = true := by
  have launched : siege.launch ["a", "b"] () = .ok ⟨["a", "b"], {}, true⟩ () := rfl
  obtain ⟨first, u, hlife, -, -, hfirst⟩ :=
    siege.shutdowns_left_by_interrupt ["a", "b"] () id [id] _ () launched
  exact ⟨launched, first, u, hlife, fun f hf => (hfirst f hf).1⟩

/-- The second shutdown returns, and a has never been stopped. -/
theorem siege_leaves_plugin_running :
    let j := siege.lifeJournal ["a", "b"] [id, id] ()
    siege.life ["a", "b"] [id, id] () =
        .ok ([.error (.raised "KeyboardInterrupt" "b"), .ok ()], ⟨["a", "b"], {}, false⟩) () ∧
      j.running = ["a", "b"] ∧ j.stops = ["b"] ∧ ¬ AllStopped j := by
  intro j
  have hrun : j.running = ["a", "b"] := by decide +kernel
  have hstops : j.stops = ["b"] := by decide +kernel
  refine ⟨rfl, hrun, hstops, fun hall => ?_⟩
  rw [AllStopped, hrun, hstops] at hall
  exact absurd hall (by decide)

end Lifecycle
end Preflight
