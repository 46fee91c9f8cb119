import Mathlib.Data.List.Forall2
import Preflight.Proofs.Host

/-! What a plugin notices of other plugins. Hosts that hold the same elements of a plugin answer
alike when it adds elements, whatever else they hold; and others, when they are served, leave its
elements as they are. So however the requests of plugins are mixed, each is told of its elements
what it is told when it is alone. -/
namespace Preflight

/-- The request is to create or to look up a metric. -/
def Request.concernsMetrics : Request → Bool
  | .metric .. | .byName _ | .byId _ => true
  | _ => false

namespace Host
variable {plugin other label : String} {kind : ElementKind} {q : Request} {h t : Host}

/-- The requests of a plugin among those of all. -/
def requestsOf (plugin : String) (calls : List (String × Request)) : List Request :=
  (calls.filter (·.1 = plugin)).map (·.2)

/-- The requests of a plugin, each with what it came to. -/
def Log.of (plugin : String) (log : Log) : List (Request × Except Fault Reply) :=
  (log.filter (·.1.1 = plugin)).map fun e => (e.1.2, e.2)

/-- The elements of a plugin. -/
def ownNames (plugin : String) (kind : ElementKind) (h : Host) : List ElementName :=
  (h.pipeline.names kind).filter (·.plugin = plugin)

/-- The hosts hold the same elements of a plugin, in the same order. -/
def SameFor (plugin : String) (h t : Host) : Prop :=
  ∀ kind, ownNames plugin kind h = ownNames plugin kind t

theorem SameFor.refl (plugin : String) (h : Host) : SameFor plugin h h := fun _ => rfl

theorem SameFor.symm (hs : SameFor plugin h t) : SameFor plugin t h := fun kind => (hs kind).symm

theorem SameFor.trans {u : Host} (hs : SameFor plugin h t) (ht : SameFor plugin t u) :
    SameFor plugin h u := fun kind => (hs kind).trans (ht kind)

theorem SameFor.of_pipeline_eq (hp : h.pipeline = t.pipeline) : SameFor plugin h t :=
  fun kind => by rw [ownNames, ownNames, hp]

theorem mem_ownNames : ⟨plugin, label⟩ ∈ ownNames plugin kind h ↔
    (⟨plugin, label⟩ : ElementName) ∈ h.pipeline.names kind := by
  simp [ownNames]

theorem SameFor.mem_iff (hs : SameFor plugin h t) :
    (⟨plugin, label⟩ : ElementName) ∈ h.pipeline.names kind ↔
      ⟨plugin, label⟩ ∈ t.pipeline.names kind := by
  rw [← mem_ownNames, ← mem_ownNames, hs kind]

theorem ownNames_push (plugin : String) (k kind : ElementKind) (n : ElementName) (h : Host) :
    ownNames plugin k (h.setPipeline (h.pipeline.push kind n)) =
      ownNames plugin k h ++ if k = kind ∧ n.plugin = plugin then [n] else [] := by
  by_cases hk : k = kind
  · subst hk
    by_cases hn : n.plugin = plugin <;>
      simp [ownNames, setPipeline, Pipeline.names_push_self, hn]
  · simp [ownNames, setPipeline, Pipeline.names_push_of_ne hk, hk]

/-! ## One request -/

theorem outcome_element_of_taken (hn : ⟨plugin, label⟩ ∈ h.pipeline.names kind) :
    outcome (serve plugin (.element kind label)) h =
      (.error (.duplicateElement ⟨kind, ⟨plugin, label⟩⟩), h) :=
  outcome_of_error (serve_element_of_error (addElement_of_taken hn))

theorem outcome_element_of_free (hn : ⟨plugin, label⟩ ∉ h.pipeline.names kind) :
    outcome (serve plugin (.element kind label)) h =
      (.ok (.element ⟨kind, ⟨plugin, label⟩⟩),
        h.setPipeline (h.pipeline.push kind ⟨plugin, label⟩)) :=
  outcome_of_ok (serve_element_of_ok (addElement_of_free hn))

/-- The elements are as they were. -/
def KeepsPipeline (h t : Host) : Prop := t.pipeline = h.pipeline

theorem KeepsPipeline.refl (h : Host) : KeepsPipeline h h := rfl

theorem KeepsPipeline.trans (h t u : Host) (ht : KeepsPipeline h t) (hu : KeepsPipeline t u) :
    KeepsPipeline h u := Eq.trans hu ht

theorem leads_keepsPipeline_ofExcept {α : Type} (r : Except Fault α) :
    Leads KeepsPipeline (ofExcept r : EStateM Fault Host α) := fun h => by cases r <;> rfl

theorem leads_keepsPipeline_onMetrics {α : Type} (act : EStateM Fault Registry α) :
    Leads KeepsPipeline (onPart metrics setMetrics act) := fun h => by
  cases hact : act h.metrics with
  | ok a r => rw [outcome_of_ok (onPart_of_ok hact)]; rfl
  | error f r => rw [outcome_of_error (onPart_of_error hact)]; rfl

/-- Only a request for an element changes the elements. -/
theorem leads_keepsPipeline_serve (plugin : String) (hq : ∀ kind label, q ≠ .element kind label) :
    Leads KeepsPipeline (serve plugin q) := by
  have hlook {α β : Type} (look : Host → Except Fault α) (tell : α → β) : Leads KeepsPipeline
      (do return tell (← ofExcept (look (← get))) : EStateM Fault Host β) :=
    Leads.get_bind fun h => Leads.bind KeepsPipeline.trans (leads_keepsPipeline_ofExcept _)
      (fun _ => Leads.pure KeepsPipeline.refl _) h
  cases q with
  | metric name type unit description =>
    refine Leads.bind KeepsPipeline.trans ?_ fun _ => Leads.pure KeepsPipeline.refl _
    refine Leads.bind KeepsPipeline.trans (leads_keepsPipeline_ofExcept _) fun _ => ?_
    refine Leads.bind KeepsPipeline.trans (leads_keepsPipeline_ofExcept _) fun _ => ?_
    exact leads_keepsPipeline_onMetrics _
  | element kind label => exact absurd rfl (hq kind label)
  | byName name => exact hlook (fun h => h.metrics.find name) Reply.entry
  | byId id => exact hlook (fun h => h.metrics.metricAt id) Reply.metric
  | pluginName => exact Leads.pure KeepsPipeline.refl _
  | fail f => exact Leads.throw KeepsPipeline.refl f

/-- What another plugin is served leaves a plugin's elements as they are. -/
theorem sameFor_serve_other (hother : other ≠ plugin) (q : Request) (h : Host) :
    SameFor plugin (outcome (serve other q) h).2 h := by
  by_cases hq : ∃ kind label, q = .element kind label
  · obtain ⟨kind, label, rfl⟩ := hq
    by_cases hn : (⟨other, label⟩ : ElementName) ∈ h.pipeline.names kind
    · rw [outcome_element_of_taken hn]
      exact .refl plugin h
    · rw [outcome_element_of_free hn]
      intro k
      rw [ownNames_push, if_neg fun hk => hother hk.2, List.append_nil]
  · push Not at hq
    exact .of_pipeline_eq (leads_keepsPipeline_serve other hq h)

/-- The plugin itself is served alike, unless it asks for metrics. -/
theorem SameFor.serve (hs : SameFor plugin h t) (q : Request) :
    (q.concernsMetrics = false →
      (outcome (Host.serve plugin q) h).1 = (outcome (Host.serve plugin q) t).1) ∧
    SameFor plugin (outcome (Host.serve plugin q) h).2 (outcome (Host.serve plugin q) t).2 := by
  by_cases hq : ∃ kind label, q = .element kind label
  · obtain ⟨kind, label, rfl⟩ := hq
    by_cases hn : (⟨plugin, label⟩ : ElementName) ∈ h.pipeline.names kind
    · rw [outcome_element_of_taken hn, outcome_element_of_taken (hs.mem_iff.mp hn)]
      exact ⟨fun _ => rfl, hs⟩
    · rw [outcome_element_of_free hn, outcome_element_of_free fun hn' => hn (hs.mem_iff.mpr hn')]
      refine ⟨fun _ => rfl, fun k => ?_⟩
      rw [ownNames_push, ownNames_push, hs k]
  · push Not at hq
    have hh : SameFor plugin (outcome (Host.serve plugin q) h).2 h :=
      .of_pipeline_eq (leads_keepsPipeline_serve plugin hq h)
    have ht : SameFor plugin (outcome (Host.serve plugin q) t).2 t :=
      .of_pipeline_eq (leads_keepsPipeline_serve plugin hq t)
    refine ⟨fun hmetrics => ?_, hh.trans (hs.trans ht.symm)⟩
    cases q with
    | pluginName => rfl
    | fail f => rfl
    | element kind label => exact absurd rfl (hq kind label)
    | _ => cases hmetrics

/-! ## All requests -/

/-- The same request has come to the same, if it is none for metrics. -/
def AnsweredAlike (x y : Request × Except Fault Reply) : Prop :=
  x.1 = y.1 ∧ (x.1.concernsMetrics = false → x.2 = y.2)

theorem alone_of_run (plugin : String) (calls : List (String × Request))
    (hs : SameFor plugin h t) :
    List.Forall₂ AnsweredAlike
        (Log.of plugin (outcomes (fun c => Host.serve c.1 c.2) calls h).1)
        (outcomes (Host.serve plugin) (requestsOf plugin calls) t).1 ∧
      SameFor plugin (outcomes (fun c => Host.serve c.1 c.2) calls h).2
        (outcomes (Host.serve plugin) (requestsOf plugin calls) t).2 := by
  induction calls generalizing h t with
  | nil => exact ⟨.nil, hs⟩
  | cons c rest ih =>
    obtain ⟨name, q⟩ := c
    by_cases hname : name = plugin
    · subst hname
      obtain ⟨hanswer, hafter⟩ := hs.serve q
      obtain ⟨hrest, hlast⟩ := ih hafter
      simp only [requestsOf, Log.of, outcomes, List.filter_cons, decide_true, if_true,
        List.map_cons] at hrest ⊢
      exact ⟨.cons ⟨rfl, hanswer⟩ hrest, hlast⟩
    · obtain ⟨hrest, hlast⟩ := ih ((sameFor_serve_other hname q h).trans hs)
      simp only [requestsOf, Log.of, outcomes, List.filter_cons, hname, decide_false,
        Bool.false_eq_true, if_false] at hrest hlast ⊢
      exact ⟨hrest, hlast⟩

/-- The metric that shows one plugin to another. -/
def beacon : Request := .metric "beacon" (.measurement .u64) (.base .unity) ""

theorem outcomes_beside_beacon (hother : other ≠ plugin) (q : Request) :
    (Log.of plugin (outcomes (fun c => Host.serve c.1 c.2) [(other, beacon), (plugin, q)] {}).1) =
      [(q, (outcome (Host.serve plugin q) (outcome (Host.serve other beacon) {}).2).1)] := by
  simp [Log.of, outcomes, hother]

/-- Whatever plugins ask for, and however their requests are mixed: each request of a plugin that is
none for metrics comes to what it comes to when the plugin alone makes its requests, and in the end
the plugin has the same elements of each kind, in the same order. Each kind of request for metrics
can come to something else beside another plugin. -/
theorem elements_as_alone (plugin : String) (calls : List (String × Request)) (h : Host) :
    let shared := outcomes (fun c => serve c.1 c.2) calls h
    let alone := outcomes (serve plugin) (requestsOf plugin calls) h
    List.Forall₂ (fun x y => x.1 = y.1 ∧ (x.1.concernsMetrics = false → x.2 = y.2))
      (Log.of plugin shared.1) alone.1 ∧
    (∀ kind, (shared.2.pipeline.names kind).filter (·.plugin = plugin) =
      (alone.2.pipeline.names kind).filter (·.plugin = plugin)) ∧
    ∀ other, other ≠ plugin → ∀ q ∈ [beacon, .byName (.text "beacon"), .byId (.int 0)],
      Log.of plugin (outcomes (fun c => serve c.1 c.2) [(other, beacon), (plugin, q)] {}).1 ≠
        (outcomes (serve plugin) [q] {}).1 := by
  intro shared alone
  obtain ⟨hanswers, hnames⟩ := alone_of_run plugin calls (.refl plugin h)
  refine ⟨hanswers, hnames, fun other hother q hq => ?_⟩
  rw [outcomes_beside_beacon hother]
  intro hsame
  have hanswer := congrArg (·.map (·.2)) hsame
  simp only [List.mem_cons, List.not_mem_nil, or_false] at hq
  rcases hq with rfl | rfl | rfl
  · cases hanswer
  · cases hanswer
  · cases hanswer

end Host
end Preflight
