import Preflight.Proofs.Expectation.ElementReport
import Preflight.Proofs.Scenario.Chosen
import Preflight.Proofs.Scenario.Registering

/-! Whatever happens in a scenario, hosts are changed by requests and by nothing else. So no name
stands for two elements of a kind in a picture of the pipeline, and where the check of elements
refuses a picture, some name is missing or unexpected. -/
namespace Preflight

namespace Host

/-- The host has served some requests, whoever made them, and is as they have left it. -/
def Reaches (h t : Host) : Prop :=
  ∃ calls : List (String × Request), t = (outcomes (fun c => serve c.1 c.2) calls h).2

theorem Reaches.refl (h : Host) : h.Reaches h := ⟨[], rfl⟩

theorem Reaches.trans {h t u : Host} (first : h.Reaches t) (second : t.Reaches u) :
    h.Reaches u := by
  obtain ⟨calls, rfl⟩ := first
  obtain ⟨more, rfl⟩ := second
  exact ⟨calls ++ more, (outcomes_append _ calls more h).symm⟩

theorem reaches_answer (plugin : String) (q : Request) (h : Host) :
    h.Reaches (answer plugin q h).2 := ⟨[(plugin, q)], rfl⟩

theorem Sound.of_reaches {h t : Host} (hh : h.Sound) (reaches : h.Reaches t) : t.Sound := by
  obtain ⟨calls, rfl⟩ := reaches
  exact outcomes_induction (fun _ => Sound)
    (fun _ _ c ht => ht.after_served (served_serve ht.consistent c.1 c.2)) hh calls

end Host

namespace Scenario
open Play (note find attempt)
variable {w t u : World} {host : Nat} {α β : Type}

/-- Every host has served some requests. Where there was none, it is a new one that has. -/
def Requested (w t : World) : Prop := ∀ place, (w.host place).Reaches (t.host place)

theorem Requested.refl (w : World) : Requested w w := fun _ => .refl _

theorem Requested.trans (w t u : World) (h : Requested w t) (h' : Requested t u) :
    Requested w u := fun place => (h place).trans (h' place)

theorem Aside.requested (h : Aside w t) : Requested w t := by
  intro place
  have hhosts : t.hosts = w.hosts := h
  rw [show t.host place = w.host place from congrArg (·.getD place {}) hhosts]
  exact .refl _

theorem requested_of_aside {act : Play α} (h : Leads Aside act) : Leads Requested act :=
  fun w => (h w).requested

theorem requested_addHost (w : World) : Requested w w.addHost := by
  intro place
  have hplace : w.addHost.host place = w.host place := by
    simp only [World.host, World.addHost, List.concat_eq_append, List.getD_eq_getElem?_getD]
    rcases Nat.lt_trichotomy place w.hosts.length with h | rfl | h
    · rw [List.getElem?_append_left h]
    · simp
    · rw [List.getElem?_eq_none (by simp; omega), List.getElem?_eq_none (by omega)]
  rw [hplace]
  exact .refl _

theorem requested_request (plugin : String) (q : Request) :
    Leads Requested (request host plugin q) := by
  intro w place
  rw [outcome_request]
  by_cases hplace : place = host
  · subst hplace
    rcases host_setHost place (Host.answer plugin q (w.host place)).2 w with h | h
    · rw [h]
      exact Host.reaches_answer plugin q _
    · rw [h]
      exact .refl _
  · have hsame (h : Host) : (w.setHost host h).host place = w.host place := by
      simp [World.host, World.setHost, List.getElem?_set_ne (Ne.symm hplace)]
    rw [hsame]
    exact .refl _

theorem admits_requested (plugin : String) : Admits host plugin Requested where
  trans := Requested.trans
  aside _ _ h := h.requested
  request := requested_request plugin

theorem requested_find (table : World → List (String × α)) (id : String) :
    Leads Requested (find table id) :=
  requested_of_aside (aside_find table id)

theorem aside_addBuilder (id : String) (plugins : List (PluginScript × Config)) (w : World) :
    Aside w ((World.addBuilder id plugins).run w).2 := by
  have hplaceEdit (e : Edit Datum) (w : World) : Aside w ((World.placeEdit e).run w).2 := by
    cases e <;> rfl
  let slot (field : String × Datum) : StateM World (String × Nat) :=
    return (field.1, ← World.newCell field.2)
  have hslot (field : String × Datum) (w : World) : Aside w ((slot field).run w).2 := rfl
  have hplan (plugin : PluginScript × Config) (w : World) :
      Aside w ((World.plan plugin.1 plugin.2).run w).2 :=
    Aside.trans w ((plugin.2.mapM slot).run w).2 _
      (after_mapM Aside.refl Aside.trans hslot plugin.2 w)
      (after_mapM Aside.refl Aside.trans hplaceEdit plugin.1.construct _)
  exact after_mapM Aside.refl Aside.trans hplan plugins w

/-! ## Steps -/

section Steps
variable {play : Step → Play Answer} {builder : Nat} {c : Checkpoint}

theorem requested_act (h : ∀ step, Leads Requested (play step)) (view : View Plugin c)
    (a : Action) : Leads Requested (act play view a) := by
  cases a with
  | fail f => exact .throw Requested.refl f
  | clear => exact requested_of_aside (aside_ofExcept _)
  | ask plugin q =>
    refine .bind Requested.trans (leads_attempt ?_) fun _ =>
      .bind Requested.trans (requested_of_aside (aside_note _)) fun _ => .pure Requested.refl view
    exact .bind Requested.trans (requested_find _ plugin) fun _ => requested_request plugin q
  | play step =>
    exact .bind Requested.trans (leads_attempt (h step)) fun _ =>
      .bind Requested.trans (requested_of_aside (aside_note _)) fun _ => .pure Requested.refl view

theorem requested_notify (h : ∀ step, Leads Requested (play step)) (l : Listener)
    (view : View Plugin c) : Leads Requested (notify play l view) := by
  cases l with
  | check e =>
    exact .bind Requested.trans (requested_of_aside (aside_conclude e c _)) fun _ =>
      .pure Requested.refl view
  | script s =>
    exact .bind Requested.trans (requested_of_aside (aside_note _)) fun _ =>
      .foldlM Requested.refl Requested.trans (fun a _ view => requested_act h view a) view

theorem lifecycle_leading (h : ∀ step, Leads Requested (play step)) (builder host : Nat) :
    (lifecycle play builder host).Leading Requested where
  refl := Requested.refl
  trans := Requested.trans
  construct p := requested_of_aside (aside_construct p)
  start p := (admits_requested p.name).start
  stop p := requested_of_aside (aside_stop p)
  notify _ l view := requested_notify h l view
  log e w := (aside_log e w).requested

theorem requested_build (h : ∀ step, Leads Requested (play step)) (builder : Nat)
    (agent : String) : Leads Requested (build play builder agent) := by
  refine .get_bind fun w => ?_
  refine Requested.trans w w.addHost _ (requested_addHost w) ?_
  refine Leads.bind Requested.trans ((lifecycle_leading h builder w.hosts.length).launch _)
    (fun a => ?_) w.addHost
  refine .bind Requested.trans (.modify fun w => Aside.requested rfl) fun _ => ?_
  exact .get_bind fun w => Requested.refl w

theorem requested_shutdown (h : ∀ step, Leads Requested (play step)) (id : String) (r : Run) :
    Leads Requested (shutdown play id r) := by
  intro w
  have hshutdown := (lifecycle_leading h r.builder r.host).tryShutdown r.agent w
  cases hresult : r.agent.shutdown (lifecycle play r.builder r.host) w with
  | mk result a =>
    have hafter (t : World) :
        Requested t ((t.putRun id { r with agent := a }).note (.running a.running)) :=
      Aside.requested rfl
    cases result with
    | ok u t =>
      have ht : Requested w t := by
        simpa only [Lifecycle.tryShutdown, outcome, hresult] using hshutdown
      simpa only [shutdown, outcome, hresult] using ht.trans _ _ _ (hafter t)
    | error f t =>
      have ht : Requested w t := by
        simpa only [Lifecycle.tryShutdown, outcome, hresult] using hshutdown
      simpa only [shutdown, outcome, hresult] using ht.trans _ _ _ (hafter t)

theorem requested_builderFromSettings (id : String) (settings : Datum)
    (available : List PluginScript) :
    Leads Requested (builderFromSettings id settings available) := by
  refine .bind Requested.trans (requested_of_aside (aside_ofExcept _)) fun settings => ?_
  refine .get_bind fun w => Aside.requested ?_
  cases hconfigure : (w.routing.getD {}).configure settings.logging with
  | error f => rfl
  | ok routing =>
    cases hselect : Selection.select (·.name) available settings with
    | error f => rfl
    | ok chosen => exact aside_addBuilder id chosen { w with routing := some routing }

theorem aside_attach (builder : Nat) (id : String) (e : Expectations) :
    Leads Aside (attach builder id e) := by
  refine .get_bind fun w => ?_
  cases e.attachTo Listener.check (w.builder builder).audience <;> rfl

theorem requested_perform (h : ∀ step, Leads Requested (play step)) (step : Step) :
    Leads Requested (perform play step) := by
  have hchecked (e : Expectations) (c : Checkpoint) (verdict : Except Violation Unit) :
      Leads Requested (conclude e c verdict) :=
    .bind Requested.trans (requested_of_aside (aside_conclude e c verdict)) fun _ =>
      .pure Requested.refl _
  cases step with
  | expectations id => exact fun w => Aside.requested rfl
  | declared id =>
    exact .bind Requested.trans (requested_find _ id) fun _ => .pure Requested.refl _
  | declare id d =>
    refine .bind Requested.trans (requested_find _ id) fun e => ?_
    exact .bind Requested.trans (requested_of_aside (aside_ofExcept (e.declare d))) fun _ w =>
      Aside.requested rfl
  | checkPlugins id loaded =>
    exact .bind Requested.trans (requested_find _ id) fun e => hchecked e _ _
  | checkMetrics id registered =>
    refine .bind Requested.trans (requested_find _ id) fun e => ?_
    exact .bind Requested.trans (requested_of_aside (aside_ofExcept _)) fun _ => hchecked e _ _
  | checkAnswers id answers =>
    exact .bind Requested.trans (requested_find _ id) fun e => hchecked e _ _
  | checkElements id pipeline =>
    exact .bind Requested.trans (requested_find _ id) fun e => hchecked e _ _
  | builder id plugins =>
    refine .bind Requested.trans (.modify fun w => ?_) fun _ => .pure Requested.refl _
    exact (aside_addBuilder id plugins w).requested
  | builderFromSettings id settings available =>
    exact requested_builderFromSettings id settings available
  | expect builder id =>
    refine .bind Requested.trans (requested_find _ builder) fun b => ?_
    exact .bind Requested.trans (requested_find _ id) fun e =>
      requested_of_aside (aside_attach b id e)
  | callback builder c script =>
    exact .bind Requested.trans (requested_find _ builder) fun b w => Aside.requested rfl
  | observer id handlers => exact fun w => Aside.requested rfl
  | observe builder id =>
    refine .bind Requested.trans (requested_find _ builder) fun b => ?_
    refine .bind Requested.trans (requested_find _ id) fun o => .get_bind fun w => ?_
    cases (w.builder b).audience.register ⟨some o.serial, o.handlers⟩ <;> exact Aside.requested rfl
  | build builder agent =>
    exact .bind Requested.trans (requested_find _ builder) fun b => requested_build h b agent
  | inspect agent =>
    exact .bind Requested.trans (requested_find _ agent) fun r => .get_bind Requested.refl
  | shutdown agent =>
    exact .bind Requested.trans (requested_find _ agent) fun r => requested_shutdown h agent r

end Steps

theorem requested_play (depth : Nat) (step : Step) : Leads Requested (play depth step) := by
  induction depth generalizing step with
  | zero => exact .throw Requested.refl _
  | succ depth ih => exact requested_perform ih step

/-! ## Pictures of the pipeline -/

variable {depth builder : Nat} {plan : List Plan} {pipeline : Pipeline}

/-- No name stands for two elements of a kind in a picture that is taken in a build. -/
theorem nodup_of_takes
    (taken : (lifecycle (play depth) builder w.hosts.length).Takes plan w.addHost pipeline)
    (kind : ElementKind) : (pipeline.names kind).Nodup := by
  obtain ⟨t, ht, rfl⟩ :=
    (lifecycle_leading (requested_play depth) builder w.hosts.length).exists_of_takes taken
  have hreaches := ht w.hosts.length
  rw [host_addHost] at hreaches
  exact (Host.sound_empty.of_reaches hreaches).nodup kind

/-- Where the check refuses a picture of the pipeline that is taken in a build, whatever the plugins
and the listeners do, the report shows no registered name twice, and some name is missing or
unexpected. -/
theorem refused_picture_differs {e : Expectations} {v : Violation}
    (taken : (lifecycle (play depth) builder w.hosts.length).Takes plan w.addHost pipeline)
    (h : e.checkElements pipeline = .error v) :
    ∃ kind expected found, Expectations.Mismatch e pipeline kind expected found v ∧
      found.Nodup ∧ (expected.filter (· ∉ found) ≠ [] ∨ found.filter (· ∉ expected) ≠ []) := by
  obtain ⟨_, kind, _, -, -, hkind⟩ := exists_of_forM_eq_error h
  obtain ⟨expected, found, mismatch⟩ := Expectations.exists_mismatch_of_checkKind hkind
  have registered := nodup_of_takes taken kind
  have refused := (Expectations.checkKind_eq_error_iff.mp hkind).1
  exact ⟨kind, expected, found, mismatch, mismatch.nodup_found registered,
    mismatch.differs registered refused⟩

theorem refused_picture_differs_coffeehouse :
    let w := Lifecycle.coffeehouse []
    let L := lifecycle (play 0) 0 w.hosts.length
    let plan := (w.builder 0).plans
    let e : Expectations := { elements := { sources := [⟨"milk", "counter"⟩, ⟨"milk", "jug"⟩] } }
    ∃ agent t, L.launch plan w.addHost = .ok agent t ∧ L.Takes plan w.addHost agent.pipeline ∧
      ∃ v, e.checkElements agent.pipeline = .error v ∧ ∃ kind expected found,
        Expectations.Mismatch e agent.pipeline kind expected found v ∧ found.Nodup ∧
          (expected.filter (· ∉ found) ≠ [] ∨ found.filter (· ∉ expected) ≠ []) := by
  intro w L plan e
  have hpipeline : (outcome (L.launch plan) w.addHost).1.toOption.map (·.pipeline) =
      some { sources := [⟨"coffee", "counter"⟩, ⟨"milk", "counter"⟩] } := by decide +kernel
  obtain ⟨agent, t, h, hagent⟩ := exists_of_toOption hpipeline
  have taken := Lifecycle.takes_of_launch_ok h
  have hdiffers : ¬ e.Matches agent.pipeline .source := by
    intro matched
    rw [hagent] at matched
    exact absurd ((matched.2 ⟨"milk", "jug"⟩).mpr (by decide)) (by decide)
  have refused := Expectations.checkElements_of_sources
    (Expectations.checkKind_eq_error_iff.mpr ⟨hdiffers, rfl⟩)
  exact ⟨agent, t, h, taken, _, refused, refused_picture_differs taken refused⟩

end Scenario
end Preflight
