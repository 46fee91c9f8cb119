import Preflight.Proofs.Outcomes
import Preflight.Proofs.Selection
import Preflight.Proofs.Settings.Reading
import Preflight.Scenario.Play

/-! Builders that settings make. What a world stores for the plans of a builder stays where it is
put, so that each plan has its own configuration; and the plans of a builder from settings are the
plugins that the settings choose. -/
namespace Preflight.Scenario
open Settings (AgentSettings levelNames)

/-! ## Stores -/

/-- What is stored stays in its place. -/
structure Grows (w t : World) : Prop where
  cells : w.cells <+: t.cells
  configs : w.configs <+: t.configs

theorem Grows.refl (w : World) : Grows w w := ⟨List.prefix_rfl, List.prefix_rfl⟩

theorem Grows.trans {w t u : World} (h : Grows w t) (h' : Grows t u) : Grows w u :=
  ⟨h.cells.trans h'.cells, h.configs.trans h'.configs⟩

section Rows
variable {α β : Type} {act : α → StateM World β}

theorem run_mapM_cons (act : α → StateM World β) (a : α) (as : List α) (w : World) :
    ((a :: as).mapM act).run w =
      (((act a).run w).1 :: ((as.mapM act).run ((act a).run w).2).1,
        ((as.mapM act).run ((act a).run w).2).2) := by
  rw [List.mapM_cons]
  rfl

theorem after_mapM {R : World → World → Prop} (refl : ∀ w, R w w)
    (trans : ∀ w t u, R w t → R t u → R w u) (step : ∀ a w, R w ((act a).run w).2) (as : List α)
    (w : World) : R w ((as.mapM act).run w).2 := by
  induction as generalizing w with
  | nil => exact refl w
  | cons a as ih =>
    rw [run_mapM_cons]
    exact trans w _ _ (step a w) (ih _)

theorem grows_mapM (step : ∀ a w, Grows w ((act a).run w).2) (as : List α) (w : World) :
    Grows w ((as.mapM act).run w).2 :=
  after_mapM Grows.refl (fun _ _ _ => Grows.trans) step as w

/-- What each act makes of its part is there after all of them. -/
theorem forall₂_mapM {Made : World → α → β → Prop}
    (step : ∀ a w, Grows w ((act a).run w).2 ∧ Made ((act a).run w).2 a ((act a).run w).1)
    (stays : ∀ {w t a b}, Made w a b → Grows w t → Made t a b) (as : List α) (w : World) :
    List.Forall₂ (Made ((as.mapM act).run w).2) as ((as.mapM act).run w).1 := by
  induction as generalizing w with
  | nil => exact .nil
  | cons a as ih =>
    rw [run_mapM_cons]
    exact .cons (stays (step a w).2 (grows_mapM (fun a w => (step a w).1) as _)) (ih _)

end Rows

/-- The cell of a slot holds the value of a field. -/
def Filled (w : World) (field : String × Datum) (slot : String × Nat) : Prop :=
  slot.1 = field.1 ∧ w.cells[slot.2]? = some field.2

/-- A configuration is stored in a place. -/
def Stored (w : World) (config : Config) (place : Nat) : Prop :=
  ∃ slots, w.configs[place]? = some slots ∧ List.Forall₂ (Filled w) config slots

/-- A plan for a plugin and its configuration. -/
def Planned (w : World) (plugin : PluginScript × Config) (p : Plan) : Prop :=
  p.script = plugin.1 ∧ Stored w plugin.2 p.config

section Places
variable {w t : World}

theorem getElem?_of_prefix {α : Type} {xs ys : List α} {i : Nat} {x : α} (h : xs <+: ys)
    (hx : xs[i]? = some x) : ys[i]? = some x := by
  obtain ⟨more, rfl⟩ := h
  rw [List.getElem?_append_left (List.getElem?_eq_some_iff.mp hx).1, hx]

theorem Filled.grow {field : String × Datum} {slot : String × Nat} (h : Filled w field slot)
    (grows : Grows w t) : Filled t field slot := ⟨h.1, getElem?_of_prefix grows.cells h.2⟩

theorem Stored.grow {config : Config} {place : Nat} (h : Stored w config place)
    (grows : Grows w t) : Stored t config place := by
  obtain ⟨slots, hslots, hfilled⟩ := h
  exact ⟨slots, getElem?_of_prefix grows.configs hslots, hfilled.imp fun _ _ h => h.grow grows⟩

theorem Planned.grow {plugin : PluginScript × Config} {p : Plan} (h : Planned w plugin p)
    (grows : Grows w t) : Planned t plugin p := ⟨h.1, h.2.grow grows⟩

theorem Stored.config_eq {config : Config} {place : Nat} (h : Stored w config place) :
    w.config place = config := by
  obtain ⟨slots, hslots, hfilled⟩ := h
  have hplace : w.slots place = slots := by
    rw [World.slots, List.getD_eq_getElem?_getD, hslots, Option.getD_some]
  rw [World.config, hplace]
  clear hslots hplace
  induction hfilled with
  | nil => rfl
  | @cons field slot fields slots hfirst _ ih =>
    have hcell : w.cell slot.2 = field.2 := by
      rw [World.cell, List.getD_eq_getElem?_getD, hfirst.2, Option.getD_some]
    exact congrArg₂ List.cons (Prod.ext hfirst.1 hcell) ih

end Places

/-! ## Plans -/

theorem grows_newCell (d : Datum) (w : World) : Grows w ((World.newCell d).run w).2 :=
  ⟨⟨[d], List.concat_eq_append.symm⟩, List.prefix_rfl⟩

theorem grows_newConfig (slots : Slots) (w : World) : Grows w ((World.newConfig slots).run w).2 :=
  ⟨List.prefix_rfl, ⟨[slots], List.concat_eq_append.symm⟩⟩

theorem grows_placeEdit (e : Edit Datum) (w : World) : Grows w ((World.placeEdit e).run w).2 := by
  cases e with
  | set key d => exact grows_newCell d w
  | append key d => exact Grows.refl w
  | fail f => exact Grows.refl w

theorem filled_newCell (field : String × Datum) (w : World) :
    Filled ((World.newCell field.2).run w).2 field
      (field.1, ((World.newCell field.2).run w).1) := by
  refine ⟨rfl, ?_⟩
  change (w.cells.concat field.2)[w.cells.length]? = some field.2
  rw [List.concat_eq_append, List.getElem?_concat_length]

/-- The slots come first, then what the script sets, and then the configuration itself. -/
theorem plan_spec (plugin : PluginScript × Config) (w : World) :
    Grows w ((World.plan plugin.1 plugin.2).run w).2 ∧
      Planned ((World.plan plugin.1 plugin.2).run w).2 plugin
        ((World.plan plugin.1 plugin.2).run w).1 := by
  obtain ⟨script, config⟩ := plugin
  let slot (field : String × Datum) : StateM World (String × Nat) :=
    return (field.1, ← World.newCell field.2)
  have hslot (field : String × Datum) (w : World) : Grows w ((slot field).run w).2 ∧
      Filled ((slot field).run w).2 field ((slot field).run w).1 :=
    ⟨grows_newCell field.2 w, filled_newCell field w⟩
  let filled := (config.mapM slot).run w
  let edited := (script.construct.mapM World.placeEdit).run filled.2
  have hfilled : List.Forall₂ (Filled filled.2) config filled.1 :=
    forall₂_mapM hslot Filled.grow config w
  have hfirst : Grows w filled.2 := grows_mapM (fun field w => (hslot field w).1) config w
  have hlast : Grows filled.2 ((World.newConfig filled.1).run edited.2).2 :=
    (grows_mapM grows_placeEdit script.construct filled.2).trans (grows_newConfig filled.1 edited.2)
  refine ⟨hfirst.trans hlast, rfl, filled.1, ?_, hfilled.imp fun _ _ h => h.grow hlast⟩
  change (edited.2.configs.concat filled.1)[edited.2.configs.length]? = some filled.1
  rw [List.concat_eq_append, List.getElem?_concat_length]

/-- The plugins that a builder loads, each with its configuration as it stands. -/
def loads (w : World) (b : Nat) : List (PluginScript × Config) :=
  (w.builder b).plans.map fun p => (p.script, w.config p.config)

theorem map_planned {w : World} {plugins : List (PluginScript × Config)} {plans : List Plan}
    (h : List.Forall₂ (Planned w) plugins plans) :
    plans.map (fun p => (p.script, w.config p.config)) = plugins := by
  induction h with
  | nil => rfl
  | cons hfirst _ ih => exact congrArg₂ List.cons (Prod.ext hfirst.1 hfirst.2.config_eq) ih

theorem exists_loads_of_addBuilder (id : String) (plugins : List (PluginScript × Config))
    (w : World) :
    ∃ b, Entries.get? id ((World.addBuilder id plugins).run w).2.builderPlaces = some b ∧
      loads ((World.addBuilder id plugins).run w).2 b = plugins := by
  let planned := (plugins.mapM fun plugin => World.plan plugin.1 plugin.2).run w
  have hplans : List.Forall₂ (Planned planned.2) plugins planned.1 :=
    forall₂_mapM plan_spec Planned.grow plugins w
  have hbuilder : ((World.addBuilder id plugins).run w).2.builder planned.2.builders.length =
      { plans := planned.1 } := by
    change (planned.2.builders.concat { plans := planned.1 }).getD planned.2.builders.length {} = _
    rw [List.concat_eq_append, List.getD_eq_getElem?_getD, List.getElem?_concat_length,
      Option.getD_some]
  refine ⟨planned.2.builders.length, Entries.get?_put_self .., ?_⟩
  rw [loads, hbuilder]
  exact map_planned (hplans.imp fun _ _ h => h.grow ⟨List.prefix_rfl, List.prefix_rfl⟩)

/-! ## Settings -/

variable {id : String} {w : World} {available available' : List PluginScript} {d d' : Datum}
  {a a' : AgentSettings} {routing : Log.Routing}

/-- Every level that settings may name can be configured. -/
theorem exists_configure (valid : Settings.readAgent d = .ok a) (r : Log.Routing) :
    ∃ routing, r.configure a.logging = .ok routing := by
  have hranks : ∀ level ∈ levelNames, (Log.rankOf? level).isSome = true := by decide +kernel
  obtain ⟨rank, hrank⟩ := Option.isSome_iff_exists.mp
    (hranks _ (Settings.level_mem_of_readAgent valid))
  rw [Log.Routing.configure, hrank]
  exact ⟨_, rfl⟩

/-- Settings that were read always configure logging, and then the choice decides. -/
theorem outcome_builderFromSettings (valid : Settings.readAgent d = .ok a)
    (hrouting : (w.routing.getD {}).configure a.logging = .ok routing) :
    outcome (builderFromSettings id d available) w =
      match Selection.select (·.name) available a with
      | .ok chosen =>
        (.ok .nothing, ((World.addBuilder id chosen).run { w with routing := some routing }).2)
      | .error f => (.error f, { w with routing := some routing }) := by
  have hread : (Settings.readAgent d).orFault .agent = .ok a :=
    Settings.orFault_eq_ok_iff.mpr valid
  have hsteps : outcome (builderFromSettings id d available) w =
      outcome (do
        let chosen ← ofExcept (Selection.select (·.name) available a)
        modify fun w => ((World.addBuilder id chosen).run w).2
        return .nothing) { w with routing := some routing } := by
    rw [builderFromSettings, hread, outcome_bind_of_ok rfl, outcome_bind_of_ok rfl, hrouting,
      outcome_bind_of_ok rfl, outcome_bind_of_ok rfl]
  rw [hsteps]
  cases Selection.select (·.name) available a <;> rfl

/-- Of the settings only the enabled entries count and how to log, and of the available plugins
only how those of each name follow one another. -/
theorem outcome_builderFromSettings_congr (valid : Settings.readAgent d = .ok a)
    (valid' : Settings.readAgent d' = .ok a') (hlogging : a'.logging = a.logging)
    (hentries : a'.plugins.filter (·.2.enabled) = a.plugins.filter (·.2.enabled))
    (h : Selection.SameByName (·.name) available available') :
    outcome (builderFromSettings id d' available') w =
      outcome (builderFromSettings id d available) w := by
  obtain ⟨routing, hrouting⟩ := exists_configure valid (w.routing.getD {})
  have hrouting' := hrouting
  rw [← hlogging] at hrouting'
  rw [outcome_builderFromSettings valid hrouting, outcome_builderFromSettings valid' hrouting',
    Selection.select_congr hentries h]

theorem builderFromSettings_cases (id : String) (w : World) (available : List PluginScript)
    (valid : Settings.readAgent d = .ok a) :
    (∃ chosen t, Selection.select (·.name) available a = .ok chosen ∧
      outcome (builderFromSettings id d available) w =
        (.ok .nothing, ((World.addBuilder id chosen).run t).2)) ∨
    ∃ f t, Selection.select (·.name) available a = .error f ∧
      outcome (builderFromSettings id d available) w = (.error f, t) := by
  obtain ⟨routing, hrouting⟩ := exists_configure valid (w.routing.getD {})
  rw [outcome_builderFromSettings valid hrouting]
  cases Selection.select (·.name) available a with
  | ok chosen => exact .inl ⟨chosen, _, rfl, rfl⟩
  | error f => exact .inr ⟨f, _, rfl, rfl⟩

/-- A builder from settings comes to be just when every enabled plugin is available by its name. It
loads one plugin for each enabled entry, in the order of the settings: the last available one of
the name, with the configuration of the entry. Else the first enabled name that is not available is
reported, with the names that are. What the settings say of other plugins does not count, and
neither does the order among available plugins of different names. -/
theorem builder_from_settings (id : String) (w : World) (available : List PluginScript)
    (valid : Settings.readAgent d = .ok a) :
    let step (d : Datum) (available : List PluginScript) :=
      outcome (builderFromSettings id d available) w
    let r := step d available
    let names := available.map (·.name)
    ((∃ x, r.1 = .ok x) ↔ ∀ n ∈ a.enabledPlugins, n ∈ names) ∧
      (∀ x, r.1 = .ok x → ∃ b, Entries.get? id r.2.builderPlaces = some b ∧
        List.Forall₂ (Selection.Chosen (·.name) available) (a.plugins.filter (·.2.enabled))
          (loads r.2 b) ∧
        (loads r.2 b).map (·.1.name) = a.enabledPlugins ∧
        ((Entries.keys a.plugins).Nodup → ((loads r.2 b).map (·.1.name)).Nodup)) ∧
      (∀ f, r.1 = .error f → ∃ before n after offered,
        a.enabledPlugins = before ++ n :: after ∧ (∀ m ∈ before, m ∈ names) ∧ n ∉ names ∧
        f.kind = "ValueError" ∧
        f.message = "Unknown plugin '" ++ n ++ "'. Available: " ++ Text.quoteList offered ∧
        offered.Pairwise (· < ·) ∧ ∀ m, m ∈ offered ↔ m ∈ names) ∧
      (∀ d' a', Settings.readAgent d' = .ok a' → a'.logging = a.logging →
        a'.plugins.filter (·.2.enabled) = a.plugins.filter (·.2.enabled) →
          step d' available = r) ∧
      (∀ available', Selection.SameByName (·.name) available available' →
        step d available' = r) ∧
      ∀ available', available'.Perm available → names.Nodup → step d available' = r := by
  intro step r names
  refine ⟨?_, ?_, ?_, ?_, ?_, ?_⟩
  · rw [← Selection.exists_select_iff]
    rcases builderFromSettings_cases id w available valid with
      ⟨chosen, t, hchosen, hr⟩ | ⟨f, t, hchosen, hr⟩ <;> simp [r, step, hr, hchosen]
  · intro x hx
    rcases builderFromSettings_cases id w available valid with
      ⟨chosen, t, hchosen, hr⟩ | ⟨f, t, -, hr⟩
    · obtain ⟨b, hplace, hloads⟩ := exists_loads_of_addBuilder id chosen t
      have hworld : r.2 = ((World.addBuilder id chosen).run t).2 := congrArg Prod.snd hr
      have hchoices := Selection.select_eq_ok_iff.mp hchosen
      have hnames : chosen.map (·.1.name) = a.enabledPlugins := Selection.names_of_chosen hchoices
      rw [hworld]
      refine ⟨b, hplace, ?_⟩
      rw [hloads, hnames]
      exact ⟨hchoices, rfl, fun distinct => distinct.sublist (List.filter_sublist.map _)⟩
    · cases hx.symm.trans (congrArg Prod.fst hr)
  · intro f hf
    rcases builderFromSettings_cases id w available valid with
      ⟨chosen, t, -, hr⟩ | ⟨f', t, hchosen, hr⟩
    · cases hf.symm.trans (congrArg Prod.fst hr)
    · cases hf.symm.trans (congrArg Prod.fst hr)
      obtain ⟨before, n, after, hlist, hbefore, hn, rfl⟩ :=
        Selection.exists_of_select_eq_error hchosen
      exact ⟨before, n, after, _, hlist, hbefore, hn, rfl, rfl, Selection.pairwise_lt_offered,
        fun m => Selection.mem_offered⟩
  · intro d' a' valid' hlogging hentries
    exact outcome_builderFromSettings_congr valid valid' hlogging hentries fun _ => rfl
  · intro available' h
    exact outcome_builderFromSettings_congr valid valid rfl rfl h
  · intro available' h distinct
    exact outcome_builderFromSettings_congr valid valid rfl rfl
      (Selection.sameByName_of_perm h distinct)

/-- A ghost that is switched off, and two machines of one name. -/
def kitchenSettings : Datum :=
  .record [("plugins", .record [("ghost", .record [("enabled", .bool false)]), ("tea", .record []),
    ("coffee", .record [("config", .record [("grind", .int 3)])])])]

def kitchen : AgentSettings where
  plugins :=
    [("ghost", { enabled := false }), ("tea", {}), ("coffee", { config := [("grind", .int 3)] })]

def machines : List PluginScript :=
  [{ name := "coffee" }, { name := "tea" }, { name := "coffee", goesBy := some "espresso" }]

theorem builder_from_settings_kitchen :
    Settings.readAgent kitchenSettings = .ok kitchen ∧
      ∃ b, Entries.get? "kitchen" (outcome (builderFromSettings "kitchen" kitchenSettings machines)
          {}).2.builderPlaces = some b ∧
        (loads (outcome (builderFromSettings "kitchen" kitchenSettings machines) {}).2 b).map
          (·.1.name) = ["tea", "coffee"] := by
  have hread : Settings.readAgent kitchenSettings = .ok kitchen := rfl
  obtain ⟨hreturns, hloads, -⟩ := builder_from_settings "kitchen" {} machines hread
  obtain ⟨x, hx⟩ := hreturns.mpr (by decide)
  obtain ⟨b, hplace, -, hnames, -⟩ := hloads x hx
  exact ⟨hread, b, hplace, hnames⟩

end Preflight.Scenario
