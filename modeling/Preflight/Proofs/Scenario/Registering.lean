import Preflight.Proofs.Bootstrap.Leading
import Preflight.Proofs.Scenario

/-! Plugins of a scenario register in dialogues: each move of a script is a request, and an attempt
is one whose answer is left aside. Listeners cannot change what they are shown after the start. So
what an agent has, and what its listeners were shown, is what the plugins were granted. -/
namespace Preflight
open Lifecycle Journal
variable {β π γ σ τ ε α δ : Type} {c : Checkpoint}

/-- Where the act returns, it returns `a`. -/
def Returns (a : α) (act : EStateM ε σ α) : Prop := ∀ s t b, act s = .ok b t → b = a

namespace Returns
variable {a : α} {b : δ} {act : EStateM ε σ α}

theorem pure (a : α) : Returns a (Pure.pure a : EStateM ε σ α) := by
  rintro s t b ⟨⟩
  rfl

theorem throw (e : ε) : Returns a (throw e : EStateM ε σ α) := nofun

theorem bind {next : α → EStateM ε σ δ} (h : ∀ x, Returns b (next x)) :
    Returns b (act >>= next) := by
  intro s u y hy
  cases hact : act s with
  | ok x t =>
    rw [bind_of_ok hact] at hy
    exact h x t u y hy
  | error e t =>
    rw [bind_of_error hact] at hy
    cases hy

theorem bind_of {next : α → EStateM ε σ δ} (hact : Returns a act) (h : Returns b (next a)) :
    Returns b (act >>= next) := by
  intro s u y hy
  cases hx : act s with
  | ok x t =>
    rw [bind_of_ok hx, hact s t x hx] at hy
    exact h t u y hy
  | error e t =>
    rw [bind_of_error hx] at hy
    cases hy

theorem foldlM {f : δ → α → EStateM ε σ δ} (h : ∀ a, Returns b (f b a)) (as : List α) :
    Returns b (as.foldlM f b) := by
  induction as with
  | nil => exact pure b
  | cons a rest ih =>
    rw [List.foldlM_cons]
    exact bind_of (h a) ih

end Returns

namespace Scenario
open Play (note find attempt)
variable {host : Nat} {name : String} {w : World}

/-- There is a host in the place. -/
def HasHost (host : Nat) (w : World) : Prop := host < w.hosts.length

/-- A builder finds a host for its agent, and nothing is registered there. -/
theorem hasHost_addHost (w : World) : HasHost w.hosts.length w.addHost := by
  simp [HasHost, World.addHost]

theorem host_addHost (w : World) : w.addHost.host w.hosts.length = {} := by
  simp [World.host, World.addHost]

/-- A move, and what comes after it. A request that fails ends the start. -/
def StartMove.dialogue : StartMove → Dialogue Unit → Dialogue Unit
  | .ask q, rest => .ask q fun
    | .ok _ => rest
    | .error f => .finish (.error f)
  | .attempt q, rest => .ask q fun _ => rest

def Plugin.dialogue (p : Plugin) : Dialogue Unit :=
  p.script.start.foldr StartMove.dialogue (.finish (.ok ()))

theorem HasHost.host_setHost (h : HasHost host w) (t : Host) :
    (w.setHost host t).host host = t := by
  have hlt : host < w.hosts.length := h
  simp [World.host, World.setHost, hlt]

theorem HasHost.setHost (h : HasHost host w) (t : Host) : HasHost host (w.setHost host t) := by
  have hlt : host < w.hosts.length := h
  simpa [HasHost, World.setHost] using hlt

section Move
variable {q : Request} {h : Host}

theorem outcome_move_of_granted {r : Reply}
    (hanswer : Host.answer name q (w.host host) = (.ok r, h)) :
    outcome (move host name (.ask q)) w = (.ok (), (w.setHost host h).note (.granted r)) := by
  have hrequest : outcome (request host name q) w = (.ok r, w.setHost host h) := by
    rw [outcome_request, hanswer]
  exact outcome_bind_of_ok hrequest

theorem outcome_move_of_refused {f : Fault}
    (hanswer : Host.answer name q (w.host host) = (.error f, h)) :
    outcome (move host name (.ask q)) w = (.error f, w.setHost host h) := by
  have hrequest : outcome (request host name q) w = (.error f, w.setHost host h) := by
    rw [outcome_request, hanswer]
  exact outcome_bind_of_error hrequest

theorem outcome_move_attempt {r : Except Fault Reply}
    (hanswer : Host.answer name q (w.host host) = (r, h)) :
    outcome (move host name (.attempt q)) w = (.ok (), (w.setHost host h).note (.attempted r)) := by
  have hattempt : outcome (attempt (request host name q)) w = (.ok r, w.setHost host h) := by
    rw [outcome_attempt, outcome_request, hanswer]
  exact outcome_bind_of_ok hattempt

end Move

/-- A script is run as the dialogue that it is. -/
theorem run_moves (moves : List StartMove) (hw : HasHost host w) :
    (moves.foldr StartMove.dialogue (.finish (.ok ()))).run name (w.host host, ()) =
        ((outcome (moves.forM (move host name)) w).1,
          (outcome (moves.forM (move host name)) w).2.host host, ()) ∧
      HasHost host (outcome (moves.forM (move host name)) w).2 := by
  induction moves generalizing w with
  | nil => exact ⟨rfl, hw⟩
  | cons m rest ih =>
    have hforM : (m :: rest).forM (move host name) =
        move host name m >>= fun _ => rest.forM (move host name) := rfl
    rw [hforM, List.foldr_cons]
    -- The host of the next world is the one that the request has left.
    have hnext (h : Host) (o : Occurrence) : ((w.setHost host h).note o).host host = h :=
      hw.host_setHost h
    cases m with
    | ask q =>
      rw [StartMove.dialogue, Dialogue.run]
      generalize hanswer : Host.answer name q (w.host host) = answer
      obtain ⟨r, h⟩ := answer
      cases r with
      | ok a =>
        have hrest := ih (w := (w.setHost host h).note (.granted a)) (hw.setHost h)
        rw [hnext] at hrest
        rw [outcome_bind_of_ok (outcome_move_of_granted hanswer)]
        exact hrest
      | error f =>
        rw [outcome_bind_of_error (outcome_move_of_refused hanswer), hw.host_setHost]
        exact ⟨rfl, hw.setHost h⟩
    | attempt q =>
      rw [StartMove.dialogue, Dialogue.run]
      generalize hanswer : Host.answer name q (w.host host) = answer
      obtain ⟨r, h⟩ := answer
      have hrest := ih (w := (w.setHost host h).note (.attempted r)) (hw.setHost h)
      rw [hnext] at hrest
      rw [outcome_bind_of_ok (outcome_move_attempt hanswer)]
      exact hrest

section Lifecycle
variable (play : Step → Play Answer) (builder host : Nat)

theorem conducts_start (p : Plugin) :
    (lifecycle play builder host).Conducts (HasHost host) (fun _ => ()) p.dialogue p where
  start w hw := (run_moves (w := { w.note (.starting p.name) with
    contexts := Entries.put p.name host w.contexts }) p.script.start hw).1
  ready w hw := (run_moves (w := { w.note (.starting p.name) with
    contexts := Entries.put p.name host w.contexts }) p.script.start hw).2

/-- What leaves all hosts alone leaves one of them alone. -/
theorem Aside.undisturbed {t : World} (h : Aside w t) :
    (lifecycle play builder host).Undisturbed (HasHost host) w t := by
  have hhosts : t.hosts = w.hosts := h
  refine ⟨congrArg (·.getD host {}) hhosts, fun hw => ?_⟩
  rwa [HasHost, hhosts]

theorem lifecycle_reserved (plan : List Plan) :
    (lifecycle play builder host).Reserved (HasHost host) (fun _ => ()) Plugin.dialogue plan where
  construct p _ w := (aside_construct p w).undisturbed play builder host
  start _ _ p _ := conducts_start play builder host p

/-! ## Listeners -/

theorem returns_act (hc : c ≠ .pluginsLoaded) (view : View Plugin c) (a : Action) :
    Returns view (act play view a) := by
  cases a with
  | fail f => exact .throw f
  | clear =>
    cases view with
    | loaded plugins => exact absurd rfl hc
    | started plugins metrics => exact .throw _
    | assembled pipeline => exact .pure _
  | ask plugin q => exact .bind fun _ => .bind fun _ => .pure view
  | play step => exact .bind fun _ => .bind fun _ => .pure view

theorem lifecycle_freezesViews : (lifecycle play builder host).FreezesViews := by
  intro c hc l view s view' t h
  cases l with
  | check e => exact Returns.bind (fun _ => .pure view) s t view' h
  | script script =>
    exact Returns.bind (fun _ => .foldlM (returns_act play hc view) script.actions) s t view' h

/-- The action concerns no one but the listeners. -/
def Action.isIdle : Action → Bool
  | .fail _ | .clear => true
  | _ => false

/-- The listener only checks, or does what concerns no one but the listeners. -/
def Listener.onlooks : Listener → Bool
  | .check _ => true
  | .script s => s.actions.all (·.isIdle)

theorem aside_act {a : Action} (ha : a.isIdle = true) (view : View Plugin c) :
    Leads Aside (act play view a) := by
  cases a with
  | fail f => exact Leads.throw Aside.refl f
  | clear => exact aside_ofExcept _
  | ask plugin q => cases ha
  | play step => cases ha

theorem aside_notify {l : Listener} (hl : l.onlooks = true) (view : View Plugin c) :
    Leads Aside (notify play l view) := by
  cases l with
  | check e =>
    exact Leads.bind Aside.trans (aside_conclude e c _) fun _ => Leads.pure Aside.refl view
  | script script =>
    have hidle : ∀ a ∈ script.actions, a.isIdle = true := List.all_eq_true.mp hl
    refine Leads.bind Aside.trans (aside_note _) fun _ => ?_
    exact Leads.foldlM Aside.refl Aside.trans (fun a ha => aside_act play (hidle a ha)) view

theorem lifecycle_onlookers {j : Journal Plan Plugin Listener World}
    (h : ∀ l ∈ j.listeners, l.onlooks = true) : (lifecycle play builder host).Onlookers
      ((lifecycle play builder host).Undisturbed (HasHost host)) j where
  log e w := (aside_log e w).undisturbed play builder host
  listeners l hl _ view w := (aside_notify play (h l hl) view w).undisturbed play builder host

/-- In the bootstrap of a build, plugins register only while they start, if its listeners are only
onlookers. -/
theorem build_onlyStartsRegister (w : World) (plan : List Plan)
    (h : ∀ l ∈ ((lifecycle play builder w.hosts.length).journal plan w.addHost).listeners,
      l.onlooks = true) :
    (lifecycle play builder w.hosts.length).OnlyStartsRegister (HasHost w.hosts.length)
      (fun _ => ()) Plugin.dialogue plan w.addHost where
  frozen := lifecycle_freezesViews play builder w.hosts.length
  reserved := lifecycle_reserved play builder w.hosts.length plan
  prepared := hasHost_addHost w
  fresh := host_addHost w
  onlookers := lifecycle_onlookers play builder w.hosts.length h

end Lifecycle
end Scenario

namespace Lifecycle
variable {L : Lifecycle β π γ σ} {ready : σ → Prop} {own : σ → τ} {script : π → Dialogue τ}
  {plan : List β} {s t : σ} {agent : Agent π}

/-- Where plugins register in dialogues with the host, and nothing else registers anything, a
started agent has what the plugins were granted: the metrics under the ids that were the answers,
which are the numbers from zero on, and the elements, each under the name of the plugin that asked
for it; all of it in the order of the plugins, and within a plugin in the order of its requests. The
listeners called after the start have been shown all of it. Those called before it have been shown
all plugins, up to the first that changed the list. -/
theorem launch_registers_granted (only : L.OnlyStartsRegister ready own script plan s)
    (h : L.launch plan s = .ok agent t) :
    let j := L.journal plan s
    let asked := Dialogue.logAll (L.scripts script agent.plugins)
      ({}, own (outcome (L.load plan) s).2)
    outcome (L.journaled.launch plan) (s, []) = (.ok agent, t, j) ∧
    List.Forall₂ L.Makes plan agent.plugins ∧
    (L.host t).metrics.entries = asked.entries ∧
    asked.entries.map (·.1) = List.range asked.entries.length ∧
    (∀ kind, agent.pipeline.names kind = asked.names kind) ∧
    (∀ l view r, .notified l view r ∈ j → view = .started agent.plugins (L.host t).metrics) ∧
    (∀ l view r, .notified l view r ∈ j → view = .assembled agent.pipeline) ∧
    ∀ before l view r after, noticesAt .pluginsLoaded j = before ++ .notified l view r :: after →
      (∀ e ∈ before, e.LeavesView) → view = .loaded agent.plugins := by
  intro j asked
  obtain ⟨u, hboot, rfl⟩ := boot_of_launch_ok h
  obtain ⟨r, v, i, hy, hx, hroll⟩ := tells_boot_roll only.frozen only.reserved s []
  rw [outcome_of_ok hboot] at hy
  cases hy
  let report : Log.Event := .agentStarted (L.host u).pipeline
  have hlaunch : outcome (L.journaled.launch plan) (s, []) =
      (.ok agent, L.log report u, i ++ [.logged report u]) :=
    outcome_of_ok (L.journaled.launch_of_ok (outcome_eq_ok hx))
  have hj : j = i ++ [.logged report u] := congrArg (·.2.2) hlaunch
  have hlog : L.host (L.log report u) = L.host u := (only.onlookers.log report u).1
  have onlookers := only.onlookers
  rw [show L.journal plan s = _ from hj] at onlookers
  have hroll : L.Roll own script plan s agent u i := hroll onlookers.left only.prepared
  have hrecords := Dialogue.records_runAll (L.scripts script agent.plugins)
    (s := ({}, own (outcome (L.load plan) s).2)) Host.records_empty
  rw [← only.fresh, ← hroll.host, only.fresh, List.nil_append] at hrecords
  have hentries : (L.host u).metrics.entries = asked.entries := hrecords.entries
  rw [hlog, hj]
  refine ⟨hlaunch, hroll.made, hentries, ?_, fun kind => ?_, ?_, ?_, ?_⟩
  · rw [← hentries, Registry.map_fst_entries, Registry.entries_length]
  · rw [hroll.pipeline, hrecords.names kind]
  · exact (hroll.shows .pluginsStarted nofun).append (shows_logged report u)
  · rw [hroll.pipeline]
    exact (hroll.shows .operationBegins nofun).append (shows_logged report u)
  · exact hroll.opens.before_silent (silent_logged (e := report) rfl u _)

section Coffeehouse
open Scenario

/-- Counts cups, and does not mind that they cannot be counted twice. -/
def coffee : PluginScript :=
  let cups : Request := .metric "cups" (.measurement .u64) (.base .unity) ""
  { name := "coffee", start := [.ask cups, .attempt cups, .ask (.element .source "counter")] }

def milk : PluginScript :=
  let litres : Request := .metric "litres" (.measurement .f64) (.base .unity) ""
  { name := "milk", start := [.ask litres, .ask (.element .source "counter")] }

/-- A builder with both plugins and with listeners, each called before those named before it. -/
def coffeehouse (guests : List (ListenerScript Action)) : World :=
  let w := ((World.addBuilder "coffeehouse" [(coffee, []), (milk, [])]).run {}).2
  w.setAudience 0 (guests.foldl (fun a l => a.listen .pluginsLoaded (.script l)) {})

/-- The builder's lifecycle, in which listeners take no steps of their own. -/
def catering (guests : List (ListenerScript Action)) : Lifecycle Plan Plugin Listener World :=
  lifecycle (fun _ => throw .nestedTooDeep) 0 (coffeehouse guests).hosts.length

/-- The names of the plugins that a listener is shown before the start. -/
def loadedNames? : Entry Plan Plugin Listener World → Option (List String)
  | .notified _ (.loaded plugins) _ => some (plugins.map (·.name))
  | _ => none

theorem launch_registers_granted_coffeehouse :
    let guests : List (ListenerScript Action) := [⟨"guest", []⟩]
    let L := catering guests
    let w := (coffeehouse guests).addHost
    let plan := (w.builder 0).plans
    L.OnlyStartsRegister (HasHost 0) (fun _ => ()) Plugin.dialogue plan w ∧
      ∃ agent t, L.launch plan w = .ok agent t ∧
        (L.host t).metrics.entries =
          [(0, ⟨"cups", .u64, ⟨.unity, .plain⟩, ""⟩), (1, ⟨"litres", .f64, ⟨.unity, .plain⟩, ""⟩)] ∧
        agent.pipeline.sources = [⟨"coffee", "counter"⟩, ⟨"milk", "counter"⟩] ∧
        (Dialogue.logAll (L.scripts Plugin.dialogue agent.plugins) ({}, ())).entries =
          (L.host t).metrics.entries := by
  intro guests L w plan
  have only : L.OnlyStartsRegister (HasHost 0) (fun _ => ()) Plugin.dialogue plan w :=
    build_onlyStartsRegister _ 0 (coffeehouse guests) plan (by decide +kernel)
  have hpipeline : (outcome (L.launch plan) w).1.toOption.map (·.pipeline.sources) =
      some [⟨"coffee", "counter"⟩, ⟨"milk", "counter"⟩] := by decide +kernel
  have hmetrics : (L.host (outcome (L.launch plan) w).2).metrics.entries =
      [(0, ⟨"cups", .u64, ⟨.unity, .plain⟩, ""⟩), (1, ⟨"litres", .f64, ⟨.unity, .plain⟩, ""⟩)] := by
    decide +kernel
  cases h : L.launch plan w with
  | ok agent t =>
    rw [outcome_of_ok h] at hpipeline hmetrics
    obtain ⟨-, -, hentries, -⟩ := launch_registers_granted only h
    exact ⟨only, agent, t, rfl, hmetrics, Option.some.inj hpipeline, hentries.symm⟩
  | error f t =>
    rw [outcome_of_error h] at hpipeline
    cases hpipeline

/-- Plugins register only while they start, and the agent starts; yet of two listeners that are
called before the start, the first empties the list and the other one is shown no plugin. -/
theorem emptied_list_is_shown :
    let guests : List (ListenerScript Action) := [⟨"late", []⟩, ⟨"early", [.clear]⟩]
    let L := catering guests
    let w := (coffeehouse guests).addHost
    let plan := (w.builder 0).plans
    L.OnlyStartsRegister (HasHost 0) (fun _ => ()) Plugin.dialogue plan w ∧
      ∃ agent t, L.launch plan w = .ok agent t ∧ L.names agent.plugins = ["coffee", "milk"] ∧
        (L.journal plan w).filterMap loadedNames? = [["coffee", "milk"], []] ∧
        ¬ ∀ names ∈ (L.journal plan w).filterMap loadedNames?, names = L.names agent.plugins := by
  intro guests L w plan
  have only : L.OnlyStartsRegister (HasHost 0) (fun _ => ()) Plugin.dialogue plan w :=
    build_onlyStartsRegister _ 0 (coffeehouse guests) plan (by decide +kernel)
  have hagent : (outcome (L.launch plan) w).1.toOption.map (L.names ·.plugins) =
      some ["coffee", "milk"] := by decide +kernel
  have hshown : (L.journal plan w).filterMap loadedNames? = [["coffee", "milk"], []] := by
    decide +kernel
  cases h : L.launch plan w with
  | ok agent t =>
    rw [outcome_of_ok h] at hagent
    have hnames : L.names agent.plugins = ["coffee", "milk"] := Option.some.inj hagent
    refine ⟨only, agent, t, rfl, hnames, hshown, ?_⟩
    rw [hshown, hnames]
    decide
  | error f t =>
    rw [outcome_of_error h] at hagent
    cases hagent

end Coffeehouse
end Lifecycle
end Preflight
