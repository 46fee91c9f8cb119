import Mathlib.Data.List.Nodup
import Preflight.Host
import Preflight.Proofs.Registry

/-! What starting plugins leave with their host, for any requests of any plugins in any order. The
host holds what was granted, each kind apart, in the order of the requests and nothing twice; a
request that fails leaves all of it alone. -/
namespace Preflight

/-- The metric that a request describes, if its type and its unit can be read. -/
def Request.metric? : Request → Option Metric
  | .metric name type unit description =>
    match Measurement.ofValue type, ScaledUnit.ofValue unit with
    | .ok measurement, .ok unit => some { name, measurement, unit, description }
    | _, _ => none
  | _ => none

/-- The name that a request of a plugin asks for among the elements of a kind. -/
def Request.elementName? (kind : ElementKind) (plugin : String) : Request → Option ElementName
  | .element k label => if k = kind then some ⟨plugin, label⟩ else none
  | _ => none

namespace Host

section Metrics
variable {name description : String} {type unit : Value} {measurement : Measurement}
  {scaled : ScaledUnit} {f : Fault} {h : Host}

theorem createMetric_of_bad_type (hm : Measurement.ofValue type = .error f) :
    createMetric name type unit description h = .error f h := by
  simp only [createMetric, hm]
  rfl

theorem createMetric_of_bad_unit (hm : Measurement.ofValue type = .ok measurement)
    (hu : ScaledUnit.ofValue unit = .error f) :
    createMetric name type unit description h = .error f h := by
  simp only [createMetric, hm, hu]
  rfl

theorem createMetric_of_read (hm : Measurement.ofValue type = .ok measurement)
    (hu : ScaledUnit.ofValue unit = .ok scaled) :
    createMetric name type unit description h =
      onPart metrics setMetrics (Registry.register ⟨name, measurement, scaled, description⟩) h := by
  simp only [createMetric, hm, hu]
  rfl

theorem createMetric_of_taken (hh : h.metrics.Consistent)
    (hm : Measurement.ofValue type = .ok measurement) (hu : ScaledUnit.ofValue unit = .ok scaled)
    (hname : name ∈ h.metrics.names) :
    ∃ existing ∈ h.metrics.metrics, existing.name = name ∧
      createMetric name type unit description h = .error (.duplicateMetric existing) h := by
  obtain ⟨existing, hmem, he, hfail⟩ :=
    Registry.register_of_taken (m := ⟨name, measurement, scaled, description⟩) hh hname
  refine ⟨existing, hmem, he, ?_⟩
  rw [createMetric_of_read hm hu, onPart_of_error hfail]
  rfl

theorem createMetric_of_free (hh : h.metrics.Consistent)
    (hm : Measurement.ofValue type = .ok measurement) (hu : ScaledUnit.ofValue unit = .ok scaled)
    (hname : name ∉ h.metrics.names) :
    createMetric name type unit description h = .ok h.metrics.size
      (h.setMetrics (h.metrics.push ⟨name, measurement, scaled, description⟩)) := by
  rw [createMetric_of_read hm hu, onPart_of_ok (Registry.register_of_free hh hname)]

end Metrics

section Elements
variable {plugin label : String} {kind : ElementKind} {h : Host}

theorem addElement_of_taken (hn : ⟨plugin, label⟩ ∈ h.pipeline.names kind) :
    addElement plugin kind label h = .error (.duplicateElement ⟨kind, ⟨plugin, label⟩⟩) h := by
  have hadd : Pipeline.add kind ⟨plugin, label⟩ h.pipeline =
      .error (.duplicateElement ⟨kind, ⟨plugin, label⟩⟩) h.pipeline := if_pos hn
  exact bind_of_error (onPart_of_error hadd)

theorem addElement_of_free (hn : ⟨plugin, label⟩ ∉ h.pipeline.names kind) :
    addElement plugin kind label h = .ok ⟨plugin, label⟩
      (h.setPipeline (h.pipeline.push kind ⟨plugin, label⟩)) := by
  have hadd : Pipeline.add kind ⟨plugin, label⟩ h.pipeline =
      .ok () (h.pipeline.push kind ⟨plugin, label⟩) := if_neg hn
  exact bind_of_ok (onPart_of_ok hadd)

end Elements

/-- What serving a request can come to. -/
inductive Served (plugin : String) (h : Host) : Request → Except Fault Reply → Host → Prop
  | refused (q : Request) (f : Fault) : Served plugin h q (.error f) h
  | metric {q : Request} {m : Metric} (described : q.metric? = some m)
      (free : m.name ∉ h.metrics.names) :
      Served plugin h q (.ok (.id h.metrics.size)) (h.setMetrics (h.metrics.push m))
  | element {kind : ElementKind} {label : String}
      (free : ⟨plugin, label⟩ ∉ h.pipeline.names kind) :
      Served plugin h (.element kind label) (.ok (.element ⟨kind, ⟨plugin, label⟩⟩))
        (h.setPipeline (h.pipeline.push kind ⟨plugin, label⟩))
  | read {q : Request} (r : Reply) (noMetric : q.metric? = none)
      (noElement : ∀ kind, q.elementName? kind plugin = none) : Served plugin h q (.ok r) h

theorem serve_metric_of_ok {plugin name description : String} {type unit : Value} {h t : Host}
    {id : Nat} (hc : createMetric name type unit description h = .ok id t) :
    serve plugin (.metric name type unit description) h = .ok (.id id) t := bind_of_ok hc

theorem serve_metric_of_error {plugin name description : String} {type unit : Value} {h t : Host}
    {f : Fault} (hc : createMetric name type unit description h = .error f t) :
    serve plugin (.metric name type unit description) h = .error f t := bind_of_error hc

theorem serve_element_of_ok {plugin label : String} {kind : ElementKind} {h t : Host}
    {n : ElementName} (ha : addElement plugin kind label h = .ok n t) :
    serve plugin (.element kind label) h = .ok (.element ⟨kind, n⟩) t := bind_of_ok ha

theorem serve_element_of_error {plugin label : String} {kind : ElementKind} {h t : Host} {f : Fault}
    (ha : addElement plugin kind label h = .error f t) :
    serve plugin (.element kind label) h = .error f t := bind_of_error ha

theorem served_metric {h : Host} (hh : h.metrics.Consistent) (plugin name description : String)
    (type unit : Value) :
    let q := Request.metric name type unit description
    Served plugin h q (outcome (serve plugin q) h).1 (outcome (serve plugin q) h).2 := by
  intro q
  cases hm : Measurement.ofValue type with
  | error f =>
    rw [outcome_of_error (serve_metric_of_error (createMetric_of_bad_type hm))]
    exact .refused q f
  | ok measurement =>
    cases hu : ScaledUnit.ofValue unit with
    | error f =>
      rw [outcome_of_error (serve_metric_of_error (createMetric_of_bad_unit hm hu))]
      exact .refused q f
    | ok scaled =>
      by_cases hname : name ∈ h.metrics.names
      · obtain ⟨existing, -, -, hfail⟩ := createMetric_of_taken hh hm hu hname
        rw [outcome_of_error (serve_metric_of_error hfail)]
        exact .refused q _
      · rw [outcome_of_ok (serve_metric_of_ok (createMetric_of_free hh hm hu hname))]
        exact .metric (by simp [q, Request.metric?, hm, hu]) hname

theorem served_element (plugin label : String) (kind : ElementKind) (h : Host) :
    let q := Request.element kind label
    Served plugin h q (outcome (serve plugin q) h).1 (outcome (serve plugin q) h).2 := by
  intro q
  by_cases hn : ⟨plugin, label⟩ ∈ h.pipeline.names kind
  · rw [outcome_of_error (serve_element_of_error (addElement_of_taken hn))]
    exact .refused q _
  · rw [outcome_of_ok (serve_element_of_ok (addElement_of_free hn))]
    exact .element hn

/-- A request that looks something up either finds an answer or fails. -/
theorem served_look {α : Type} {plugin : String} {q : Request} (h : Host)
    (look : Host → Except Fault α) (tell : α → Reply)
    (hq : serve plugin q = do return tell (← ofExcept (look (← get))))
    (noMetric : q.metric? = none) (noElement : ∀ kind, q.elementName? kind plugin = none) :
    Served plugin h q (outcome (serve plugin q) h).1 (outcome (serve plugin q) h).2 := by
  have hget : (get : EStateM Fault Host Host) h = .ok h h := rfl
  cases hl : look h with
  | error f =>
    have hs : serve plugin q h = .error f h := by
      rw [hq, bind_of_ok hget, hl]
      rfl
    rw [outcome_of_error hs]
    exact .refused q f
  | ok a =>
    have hs : serve plugin q h = .ok (tell a) h := by
      rw [hq, bind_of_ok hget, hl]
      rfl
    rw [outcome_of_ok hs]
    exact .read (tell a) noMetric noElement

theorem served_serve {h : Host} (hh : h.metrics.Consistent) (plugin : String) (q : Request) :
    Served plugin h q (outcome (serve plugin q) h).1 (outcome (serve plugin q) h).2 := by
  cases q with
  | metric name type unit description => exact served_metric hh plugin name description type unit
  | element kind label => exact served_element plugin label kind h
  | byName name =>
    exact served_look h (fun h => h.metrics.find name) .entry rfl rfl fun _ => rfl
  | byId id => exact served_look h (fun h => h.metrics.metricAt id) .metric rfl rfl fun _ => rfl
  | pluginName => exact .read (.name plugin) rfl fun _ => rfl
  | fail f => exact .refused _ f

/-- What one request preserves: no name stands for two metrics, or for two elements of a kind. -/
structure Sound (h : Host) : Prop where
  consistent : h.metrics.Consistent
  nodup : ∀ kind, (h.pipeline.names kind).Nodup

theorem sound_empty : Sound {} :=
  ⟨Registry.consistent_empty, fun kind => by cases kind <;> exact List.nodup_nil⟩

theorem Sound.after_served {h t : Host} (hh : h.Sound) {plugin : String} {q : Request}
    {r : Except Fault Reply} (hs : Served plugin h q r t) : t.Sound := by
  cases hs with
  | refused => exact hh
  | metric described free => exact ⟨hh.consistent.push free, hh.nodup⟩
  | @element kind label free =>
    refine ⟨hh.consistent, fun k => ?_⟩
    by_cases hk : kind = k
    · subst hk
      simp only [setPipeline, Pipeline.names_push_self]
      simpa using List.Nodup.concat free (hh.nodup kind)
    · simp only [setPipeline, Pipeline.names_push_of_ne (Ne.symm hk)]
      exact hh.nodup k
  | read => exact hh

theorem Sound.after_requests {h : Host} (hh : h.Sound) (plugin : String) (requests : List Request) :
    (outcomes (serve plugin) requests h).2.Sound :=
  outcomes_induction (fun _ => Sound)
    (fun _ _ q ht => ht.after_served (served_serve ht.consistent plugin q)) hh requests

/-- Requests of plugins, each with what it came to. -/
abbrev Log := List ((String × Request) × Except Fault Reply)

/-- The metrics that were granted, in the order of the requests. -/
def Log.metrics (log : Log) : List Metric := (granted log).filterMap fun g => g.1.2.metric?

/-- The names of a kind that were granted, each under its plugin, in the order of the requests. -/
def Log.names (kind : ElementKind) (log : Log) : List ElementName :=
  (granted log).filterMap fun g => g.1.2.elementName? kind g.1.1

/-- The host holds what was granted. -/
structure Holds (log : Log) (h : Host) : Prop where
  sound : h.Sound
  metrics : h.metrics.metrics = log.metrics
  names : ∀ kind, h.pipeline.names kind = log.names kind

theorem Log.metrics_append_ok (log : Log) (c : String × Request) (r : Reply) :
    Log.metrics (log ++ [(c, .ok r)]) = log.metrics ++ c.2.metric?.toList := by
  rw [Log.metrics, granted_append_ok, List.filterMap_append]
  cases h : c.2.metric? <;> simp [Log.metrics, h]

theorem Log.names_append_ok (kind : ElementKind) (log : Log) (c : String × Request) (r : Reply) :
    Log.names kind (log ++ [(c, .ok r)]) =
      log.names kind ++ (c.2.elementName? kind c.1).toList := by
  rw [Log.names, granted_append_ok, List.filterMap_append]
  cases h : c.2.elementName? kind c.1 <;> simp [Log.names, h]

theorem elementName?_of_metric {q : Request} {m : Metric} (h : q.metric? = some m)
    (kind : ElementKind) (plugin : String) : q.elementName? kind plugin = none := by
  cases q <;> simp_all [Request.metric?, Request.elementName?]

theorem Holds.after_served {log : Log} {h t : Host} (hh : Holds log h) {c : String × Request}
    {r : Except Fault Reply} (hs : Served c.1 h c.2 r t) : Holds (log ++ [(c, r)]) t := by
  obtain ⟨plugin, q⟩ := c
  refine ⟨hh.sound.after_served hs, ?_, fun k => ?_⟩
  · cases hs with
    | refused _ f =>
      rw [hh.metrics, Log.metrics, Log.metrics, granted_append_error]
    | @metric _ m described free =>
      rw [Log.metrics_append_ok, described, ← hh.metrics]
      rfl
    | element free =>
      rw [Log.metrics_append_ok, ← hh.metrics]
      simp [setPipeline, Request.metric?]
    | read _ noMetric noElement =>
      rw [Log.metrics_append_ok, noMetric, hh.metrics]
      simp
  · cases hs with
    | refused _ f =>
      rw [hh.names, Log.names, Log.names, granted_append_error]
    | metric described free =>
      rw [Log.names_append_ok, elementName?_of_metric described, ← hh.names]
      simp [setMetrics]
    | @element kind label free =>
      rw [Log.names_append_ok, ← hh.names]
      by_cases hk : kind = k
      · subst hk
        simp [setPipeline, Pipeline.names_push_self, Request.elementName?]
      · simp [setPipeline, Pipeline.names_push_of_ne (Ne.symm hk), Request.elementName?, hk]
    | read _ noMetric noElement =>
      rw [Log.names_append_ok, noElement, hh.names]
      simp

theorem holds_empty : Holds [] {} := ⟨sound_empty, rfl, fun kind => by cases kind <;> rfl⟩

theorem holds_run (calls : List (String × Request)) :
    let run := outcomes (fun c => serve c.1 c.2) calls {}
    Holds run.1 run.2 :=
  outcomes_induction Holds
    (fun _ _ c h => h.after_served (served_serve h.sound.consistent c.1 c.2)) holds_empty calls

/-- A metric is created exactly if its type and unit can be read and its name is free. Otherwise the
fault is that of the type, else that of the unit, else that the name is taken. -/
theorem serve_metric_iff {h : Host} (hh : h.metrics.Consistent) (plugin name description : String)
    (type unit : Value) :
    let act := serve plugin (.metric name type unit description)
    ((∃ r t, act h = .ok r t) ↔ (∃ m, Measurement.ofValue type = .ok m) ∧
      (∃ u, ScaledUnit.ofValue unit = .ok u) ∧ name ∉ h.metrics.names) ∧
    ∀ f t, act h = .error f t → t = h ∧ (Measurement.ofValue type = .error f ∨
      (∃ m, Measurement.ofValue type = .ok m) ∧ (ScaledUnit.ofValue unit = .error f ∨
        (∃ u, ScaledUnit.ofValue unit = .ok u) ∧ ∃ existing ∈ h.metrics.metrics,
          existing.name = name ∧ f = .duplicateMetric existing)) := by
  intro act
  cases hm : Measurement.ofValue type with
  | error g =>
    have hact : act h = .error g h := serve_metric_of_error (createMetric_of_bad_type hm)
    simp [hact]
  | ok measurement =>
    cases hu : ScaledUnit.ofValue unit with
    | error g =>
      have hact : act h = .error g h := serve_metric_of_error (createMetric_of_bad_unit hm hu)
      simp [hact]
    | ok scaled =>
      by_cases hname : name ∈ h.metrics.names
      · obtain ⟨existing, hmem, he, hfail⟩ := createMetric_of_taken hh hm hu hname
        have hact : act h = .error (.duplicateMetric existing) h := serve_metric_of_error hfail
        simp only [hact, hname]
        refine ⟨by simp, ?_⟩
        rintro f t ⟨⟩
        exact ⟨rfl, Or.inr ⟨⟨_, rfl⟩, Or.inr ⟨⟨_, rfl⟩, existing, hmem, he, rfl⟩⟩⟩
      · obtain ⟨t, hact⟩ : ∃ t, act h = .ok (.id h.metrics.size) t :=
          ⟨_, serve_metric_of_ok (createMetric_of_free hh hm hu hname)⟩
        simp [hact, hname]

theorem serve_element_iff (plugin label : String) (kind : ElementKind) (h : Host) :
    let act := serve plugin (.element kind label)
    ((∃ r t, act h = .ok r t) ↔ ⟨plugin, label⟩ ∉ h.pipeline.names kind) ∧
    ∀ f t, act h = .error f t → t = h ∧ f = .duplicateElement ⟨kind, ⟨plugin, label⟩⟩ := by
  intro act
  by_cases hn : ⟨plugin, label⟩ ∈ h.pipeline.names kind
  · have hact : act h = .error (.duplicateElement ⟨kind, ⟨plugin, label⟩⟩) h :=
      serve_element_of_error (addElement_of_taken hn)
    simp only [hact, hn]
    refine ⟨by simp, ?_⟩
    rintro f t ⟨⟩
    exact ⟨rfl, rfl⟩
  · obtain ⟨t, hact⟩ : ∃ t, act h = .ok (.element ⟨kind, ⟨plugin, label⟩⟩) t :=
      ⟨_, serve_element_of_ok (addElement_of_free hn)⟩
    simp [hact, hn]

/-- After any requests of any plugins the host holds the granted metrics and, for each kind, the
granted names, in the order of the requests. The next request is granted exactly if it can be read
and its name is free for it; otherwise its first fault is raised and the host stays as it is. -/
theorem registrations_of_run (calls : List (String × Request)) :
    let run := outcomes (fun c => serve c.1 c.2) calls {}
    let h := run.2
    h.metrics.metrics = Log.metrics run.1 ∧
    (∀ kind, h.pipeline.names kind = Log.names kind run.1 ∧ (h.pipeline.names kind).Nodup) ∧
    (∀ plugin name type unit description,
      let act := serve plugin (.metric name type unit description)
      ((∃ r t, act h = .ok r t) ↔ (∃ m, Measurement.ofValue type = .ok m) ∧
        (∃ u, ScaledUnit.ofValue unit = .ok u) ∧ name ∉ h.metrics.names) ∧
      ∀ f t, act h = .error f t → t = h ∧ (Measurement.ofValue type = .error f ∨
        (∃ m, Measurement.ofValue type = .ok m) ∧ (ScaledUnit.ofValue unit = .error f ∨
          (∃ u, ScaledUnit.ofValue unit = .ok u) ∧ ∃ existing ∈ h.metrics.metrics,
            existing.name = name ∧ f = .duplicateMetric existing))) ∧
    ∀ plugin kind label,
      let act := serve plugin (.element kind label)
      ((∃ r t, act h = .ok r t) ↔ ⟨plugin, label⟩ ∉ h.pipeline.names kind) ∧
      ∀ f t, act h = .error f t →
        t = h ∧ f = .duplicateElement ⟨kind, ⟨plugin, label⟩⟩ := by
  intro run h
  have hh := holds_run calls
  exact ⟨hh.metrics, fun kind => ⟨hh.names kind, hh.sound.nodup kind⟩,
    fun plugin name type unit description =>
      serve_metric_iff hh.sound.consistent plugin name description type unit,
    fun plugin kind label => serve_element_iff plugin label kind h⟩

end Host
end Preflight
