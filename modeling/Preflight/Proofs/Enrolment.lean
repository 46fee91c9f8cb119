import Preflight.Proofs.Host

/-! Scripts of registrations. A script is served request by request, and the first one that is
refused ends it. Whether all are granted depends on which requests there are and not on their
order, and so does what the host then answers to those who look something up. -/
namespace Preflight

namespace Request

/-- A request for a metric or an element to be registered. -/
def Registers : Request → Prop
  | .metric .. | .element .. => True
  | _ => False

/-- A metric has a type and a unit that can be read. -/
def Readable : Request → Prop
  | .metric name type unit description =>
    (Request.metric name type unit description).metric?.isSome
  | _ => True

end Request

namespace Host
variable {h t u : Host} {plugin : String} {q : Request} {f : Fault}
  {calls more : List (String × Request)}

/-- Serves requests of plugins one after the other. -/
def serveAll (calls : List (String × Request)) : EStateM Fault Host Unit :=
  calls.forM fun c => discard (serve c.1 c.2)

def metricsOf (calls : List (String × Request)) : List Metric := calls.filterMap (·.2.metric?)

def namesOf (kind : ElementKind) (calls : List (String × Request)) : List ElementName :=
  calls.filterMap fun c => c.2.elementName? kind c.1

theorem metricsOf_cons (c : String × Request) (calls : List (String × Request)) :
    metricsOf (c :: calls) = metricsOf [c] ++ metricsOf calls := by
  rw [metricsOf, metricsOf, metricsOf, ← List.filterMap_append]
  rfl

theorem namesOf_cons (kind : ElementKind) (c : String × Request)
    (calls : List (String × Request)) :
    namesOf kind (c :: calls) = namesOf kind [c] ++ namesOf kind calls := by
  rw [namesOf, namesOf, namesOf, ← List.filterMap_append]
  rfl

theorem namesOf_element (k kind : ElementKind) (plugin label : String) :
    namesOf k [(plugin, .element kind label)] = if kind = k then [⟨plugin, label⟩] else [] := by
  by_cases hk : kind = k <;> simp [namesOf, Request.elementName?, hk]

/-- A host that has taken in all of `calls` leads to `t`. -/
structure Enrolled (h : Host) (calls : List (String × Request)) (t : Host) : Prop where
  sound : t.Sound
  metrics : t.metrics.metrics = h.metrics.metrics ++ metricsOf calls
  names : ∀ kind, t.pipeline.names kind = h.pipeline.names kind ++ namesOf kind calls

/-- All of `calls` can be read, and no two of them, or of them and the host, are in conflict. -/
structure Room (h : Host) (calls : List (String × Request)) : Prop where
  readable : ∀ c ∈ calls, c.2.Readable
  metrics : ((h.metrics.metrics ++ metricsOf calls).map (·.name)).Nodup
  names : ∀ kind, (h.pipeline.names kind ++ namesOf kind calls).Nodup

theorem Enrolled.nil (hh : h.Sound) : Enrolled h [] h :=
  ⟨hh, by simp [metricsOf], fun kind => by simp [namesOf]⟩

theorem Enrolled.cons {c : String × Request} (ht : Enrolled h [c] t) (hu : Enrolled t calls u) :
    Enrolled h (c :: calls) u := by
  refine ⟨hu.sound, ?_, fun kind => ?_⟩
  · rw [hu.metrics, ht.metrics, metricsOf_cons c calls, List.append_assoc]
  · rw [hu.names, ht.names, namesOf_cons kind c calls, List.append_assoc]

/-- In what has come to be registered nothing is in conflict. -/
theorem Enrolled.room (ht : Enrolled h calls t) (readable : ∀ c ∈ calls, c.2.Readable) :
    Room h calls := by
  refine ⟨readable, ?_, fun kind => ?_⟩
  · rw [← ht.metrics]
    exact ht.sound.consistent.nodup_names
  · rw [← ht.names]
    exact ht.sound.nodup kind

theorem Room.head {c : String × Request} (hroom : Room h (c :: calls)) : Room h [c] := by
  refine ⟨fun d hd => ?_, ?_, fun kind => ?_⟩
  · rw [List.mem_singleton.mp hd]
    exact hroom.readable c List.mem_cons_self
  · have hall := hroom.metrics
    rw [metricsOf_cons, ← List.append_assoc, List.map_append] at hall
    exact hall.of_append_left
  · have hall := hroom.names kind
    rw [namesOf_cons, ← List.append_assoc] at hall
    exact hall.of_append_left

theorem Room.tail {c : String × Request} (hroom : Room h (c :: calls)) (ht : Enrolled h [c] t) :
    Room t calls := by
  refine ⟨fun d hd => hroom.readable d (List.mem_cons_of_mem c hd), ?_, fun kind => ?_⟩
  · rw [ht.metrics, List.append_assoc, ← metricsOf_cons]
    exact hroom.metrics
  · rw [ht.names, List.append_assoc, ← namesOf_cons]
    exact hroom.names kind

theorem enrolled_of_served (hh : h.Sound) {r : Reply} (hs : Served plugin h q (.ok r) t) :
    Enrolled h [(plugin, q)] t := by
  refine ⟨hh.after_served hs, ?_, fun kind => ?_⟩
  · cases hs with
    | metric described free => simp [metricsOf, described, setMetrics, Registry.metrics_push]
    | element free => simp [metricsOf, Request.metric?, setPipeline]
    | read _ noMetric noElement => simp [metricsOf, noMetric]
  · cases hs with
    | metric described free => simp [namesOf, elementName?_of_metric described, setMetrics]
    | @element k label free =>
      rw [namesOf_element]
      by_cases hk : k = kind
      · subst hk
        simp [setPipeline, Pipeline.names_push_self]
      · simp [setPipeline, Pipeline.names_push_of_ne (Ne.symm hk), hk]
    | read _ noMetric noElement => simp [namesOf, noElement]

theorem serve_enrols (hh : h.Sound) {r : Reply} (hs : serve plugin q h = .ok r t) :
    Enrolled h [(plugin, q)] t := by
  have hserved := served_serve hh.consistent plugin q
  rw [outcome_of_ok hs] at hserved
  exact enrolled_of_served hh hserved

theorem readable_of_serve (hh : h.Sound) {r : Reply} (hs : serve plugin q h = .ok r t) :
    q.Readable := by
  cases q with
  | metric name type unit description =>
    have hread := (serve_metric_iff hh.consistent plugin name description type unit).1.mp ⟨r, t, hs⟩
    obtain ⟨⟨m, hm⟩, ⟨v, hv⟩, -⟩ := hread
    simp [Request.Readable, Request.metric?, hm, hv]
  | _ => trivial

/-- The one request for which there is room is granted. -/
theorem Room.serve (hroom : Room h [(plugin, q)]) (hh : h.Sound) (hq : q.Registers) :
    ∃ r t, Host.serve plugin q h = .ok r t := by
  cases q with
  | metric name type unit description =>
    refine (serve_metric_iff hh.consistent plugin name description type unit).1.mpr ?_
    have hreadable := hroom.readable _ (List.mem_singleton_self _)
    have hnodup := hroom.metrics
    cases hm : Measurement.ofValue type with
    | error f => simp [Request.Readable, Request.metric?, hm] at hreadable
    | ok m =>
      cases hu : ScaledUnit.ofValue unit with
      | error f => simp [Request.Readable, Request.metric?, hm, hu] at hreadable
      | ok v =>
        have hasked : metricsOf [(plugin, .metric name type unit description)] =
            [⟨name, m, v, description⟩] := by
          simp [metricsOf, Request.metric?, hm, hu]
        rw [hasked, List.map_append, List.nodup_append'] at hnodup
        exact ⟨⟨m, rfl⟩, ⟨v, rfl⟩, fun hname => hnodup.2.2 hname (by simp)⟩
  | element kind label =>
    refine (serve_element_iff plugin label kind h).1.mpr fun hmem => ?_
    have hnodup := hroom.names kind
    rw [namesOf_element, if_pos rfl, List.nodup_append'] at hnodup
    exact hnodup.2.2 hmem (List.mem_singleton_self _)
  | byName name => cases hq
  | byId id => cases hq
  | pluginName => cases hq
  | fail f => cases hq

/-- What a refusal is not: a verdict on expectations. -/
def Plain (f : Fault) : Prop := ∀ v, f ≠ .unmet v

theorem plain_ofValue_measurement {v : Value} (h : Measurement.ofValue v = .error f) : Plain f := by
  intro w hw
  subst hw
  unfold Measurement.ofValue at h
  split at h
  · cases h
  · split at h <;> cases h
  · split at h
    · split at h <;> cases h
    · cases h

theorem plain_ofValue_unit {v : Value} (h : ScaledUnit.ofValue v = .error f) : Plain f := by
  intro w hw
  subst hw
  unfold ScaledUnit.ofValue at h
  split at h
  · cases h
  · cases h
  · split at h
    · unfold ScaledUnit.parse at h
      split at h
      · split at h <;> cases h
      all_goals cases h
    · cases h

theorem plain_serve (hh : h.Sound) (hq : q.Registers) (hs : serve plugin q h = .error f t) :
    Plain f := by
  cases q with
  | metric name type unit description =>
    obtain ⟨-, hf⟩ := (serve_metric_iff hh.consistent plugin name description type unit).2 f t hs
    rcases hf with hf | ⟨-, hf | ⟨-, existing, -, -, rfl⟩⟩
    · exact plain_ofValue_measurement hf
    · exact plain_ofValue_unit hf
    · intro v hv
      cases hv
  | element kind label =>
    obtain ⟨-, rfl⟩ := (serve_element_iff plugin label kind h).2 f t hs
    intro v hv
    cases hv
  | byName name => cases hq
  | byId id => cases hq
  | pluginName => cases hq
  | fail f => cases hq

theorem serveAll_cons_of_ok {r : Reply} (hs : serve plugin q h = .ok r t)
    (calls : List (String × Request)) :
    serveAll ((plugin, q) :: calls) h = serveAll calls t := by
  have hd : (discard (serve plugin q) : EStateM Fault Host PUnit) h = .ok () t := bind_of_ok hs
  exact bind_of_ok hd

theorem serveAll_cons_of_error (hs : serve plugin q h = .error f t)
    (calls : List (String × Request)) : serveAll ((plugin, q) :: calls) h = .error f t := by
  have hd : (discard (serve plugin q) : EStateM Fault Host PUnit) h = .error f t := bind_of_error hs
  exact bind_of_error hd

theorem serveAll_append_of_ok (hs : serveAll calls h = .ok () t)
    (more : List (String × Request)) : serveAll (calls ++ more) h = serveAll more t := by
  rw [serveAll, List.forM_eq_forM, List.forM_append, ← List.forM_eq_forM]
  exact bind_of_ok hs

theorem serveAll_append_of_error (hs : serveAll calls h = .error f t)
    (more : List (String × Request)) : serveAll (calls ++ more) h = .error f t := by
  rw [serveAll, List.forM_eq_forM, List.forM_append, ← List.forM_eq_forM]
  exact bind_of_error hs

/-- What serving a script comes to: everything is registered, for which there was room; or there
was no room, and some request was refused. -/
inductive Enrolment (h : Host) (calls : List (String × Request)) :
    Except Fault Unit → Host → Prop where
  | complete {t : Host} (room : Room h calls) (enrolled : Enrolled h calls t) :
      Enrolment h calls (.ok ()) t
  | refused {f : Fault} {t : Host} (crowded : ¬ Room h calls) (plain : Plain f) :
      Enrolment h calls (.error f) t

theorem enrolment (hh : h.Sound) (registers : ∀ c ∈ calls, c.2.Registers) :
    Enrolment h calls (outcome (serveAll calls) h).1 (outcome (serveAll calls) h).2 := by
  induction calls generalizing h with
  | nil =>
    have hroom : Room h [] := (Enrolled.nil hh).room (by simp)
    exact .complete hroom (.nil hh)
  | cons c rest ih =>
    obtain ⟨plugin, q⟩ := c
    have hq : q.Registers := registers _ List.mem_cons_self
    cases hs : serve plugin q h with
    | ok r t =>
      have ht : Enrolled h [(plugin, q)] t := serve_enrols hh hs
      have hrest := ih ht.sound fun d hd => registers d (List.mem_cons_of_mem _ hd)
      have hcons : outcome (serveAll ((plugin, q) :: rest)) h = outcome (serveAll rest) t := by
        simp only [outcome, serveAll_cons_of_ok hs]
      rw [hcons]
      generalize (outcome (serveAll rest) t).1 = r' at hrest
      generalize (outcome (serveAll rest) t).2 = u at hrest
      cases hrest with
      | complete room enrolled =>
        have hall : Enrolled h ((plugin, q) :: rest) u := ht.cons enrolled
        have hreadable : ∀ d ∈ (plugin, q) :: rest, d.2.Readable :=
          List.forall_mem_cons.mpr ⟨readable_of_serve hh hs, room.readable⟩
        exact .complete (hall.room hreadable) hall
      | refused crowded plain => exact .refused (fun hroom => crowded (hroom.tail ht)) plain
    | error f t =>
      rw [outcome_of_error (serveAll_cons_of_error hs rest)]
      refine .refused (fun hroom => ?_) (plain_serve hh hq hs)
      obtain ⟨r, t', hok⟩ := hroom.head.serve hh hq
      rw [hs] at hok
      cases hok

/-! ## Scripts in another order -/

theorem Room.perm (hroom : Room h calls) (hperm : calls.Perm more) : Room h more := by
  refine ⟨fun c hc => hroom.readable c (hperm.mem_iff.mpr hc), ?_, fun kind => ?_⟩
  · have hmetrics : (metricsOf calls).Perm (metricsOf more) := hperm.filterMap _
    exact ((hmetrics.append_left _).map _).nodup_iff.mp hroom.metrics
  · have hnames : (namesOf kind calls).Perm (namesOf kind more) := hperm.filterMap _
    exact (hnames.append_left _).nodup_iff.mp (hroom.names kind)

/-- Hosts that answer alike: to a name with the same metric, if any, and with the same elements,
which they may list in another order. -/
structure Alike (h t : Host) : Prop where
  lookup : h.metrics.lookup = t.metrics.lookup
  names : ∀ kind, (h.pipeline.names kind).Perm (t.pipeline.names kind)

theorem lookup_eq_of_perm {r r' : Registry} (hr : r.Consistent) (hr' : r'.Consistent)
    (hperm : r.metrics.Perm r'.metrics) : r.lookup = r'.lookup := by
  funext name
  refine Option.ext fun m => ?_
  rw [hr.lookup_eq_some_iff, hr'.lookup_eq_some_iff, hperm.mem_iff]

theorem Enrolled.alike (ht : Enrolled h calls t) (hu : Enrolled h more u)
    (hperm : calls.Perm more) : Alike t u := by
  constructor
  · have hmetrics : t.metrics.metrics.Perm u.metrics.metrics := by
      rw [ht.metrics, hu.metrics]
      exact (hperm.filterMap _).append_left _
    exact lookup_eq_of_perm ht.sound.consistent hu.sound.consistent hmetrics
  · intro kind
    rw [ht.names, hu.names]
    exact (hperm.filterMap _).append_left _

end Host

end Preflight
