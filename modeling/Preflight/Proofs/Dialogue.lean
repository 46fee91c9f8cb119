import Preflight.Proofs.Expectation.Met
import Preflight.Proofs.Pairs

/-! Plugins as dialogues with the host. A plugin can look at the registered metrics and at a state
of its own, and make requests; what it does next may depend on all it has seen. The source of the
test harness is nothing that a plugin of another name can come across. -/
namespace Preflight
variable {α τ : Type}

namespace Host
open Expectations (counted counted_concat)

/-- The second host holds what the first one does, in the same order, except that of the harness's
own source it holds `own`. -/
structure Besides (own : List ElementName) (h t : Host) : Prop where
  metrics : h.metrics = t.metrics
  names : ∀ kind, h.pipeline.names kind = counted kind (t.pipeline.names kind)
  own : t.pipeline.sources.filter (· = .harness) = own

variable {own : List ElementName} {h t : Host} {plugin : String}

theorem Besides.empty : Besides [] {} {} := ⟨rfl, fun kind => by cases kind <;> rfl, rfl⟩

theorem Besides.mem_iff (hb : Besides own h t) (kind : ElementKind) {n : ElementName}
    (hn : n ≠ .harness) : n ∈ h.pipeline.names kind ↔ n ∈ t.pipeline.names kind := by
  rw [hb.names]
  cases kind <;> simp [counted, hn]

theorem Besides.push (hb : Besides own h t) (kind : ElementKind) {n : ElementName}
    (hn : n ≠ .harness) : Besides own (h.setPipeline (h.pipeline.push kind n))
      (t.setPipeline (t.pipeline.push kind n)) where
  metrics := hb.metrics
  names k := by
    simp only [setPipeline]
    by_cases hk : k = kind
    · rw [hk, Pipeline.names_push_self, Pipeline.names_push_self, counted_concat hn, hb.names]
    · rw [Pipeline.names_push_of_ne hk, Pipeline.names_push_of_ne hk, hb.names]
  own := by
    rw [← hb.own]
    cases kind <;> simp [setPipeline, Pipeline.push, hn]

/-- The harness's source, once it is registered, is what the second host holds besides. -/
theorem Besides.add_harness (hb : Besides [] h t)
    (hfree : ElementName.harness ∉ t.pipeline.sources) : Besides [.harness] h
      (answer ElementName.harness.plugin (.element .source ElementName.harness.label) t).2 := by
  have hadd : addElement ElementName.harness.plugin .source ElementName.harness.label t =
      .ok .harness (t.setPipeline (t.pipeline.push .source .harness)) := addElement_of_free hfree
  rw [answer, outcome_of_ok (serve_element_of_ok hadd)]
  refine ⟨hb.metrics, fun kind => ?_, ?_⟩
  · rw [hb.names]
    cases kind <;> simp [counted, setPipeline, Pipeline.push, Pipeline.names]
  · simp [setPipeline, Pipeline.push, hb.own]

/-- What is done with the metrics alone. -/
theorem alongside_metrics (act : EStateM Fault Registry α) :
    Alongside (Besides own) (onPart metrics setMetrics act) (onPart metrics setMetrics act) := by
  intro h t hb
  cases hact : act h.metrics with
  | ok a r =>
    have hact' : act t.metrics = .ok a r := hb.metrics ▸ hact
    rw [outcome_of_ok (onPart_of_ok hact), outcome_of_ok (onPart_of_ok hact')]
    exact .ok ⟨rfl, rfl, hb.names, hb.own⟩
  | error f r =>
    have hact' : act t.metrics = .error f r := hb.metrics ▸ hact
    rw [outcome_of_error (onPart_of_error hact), outcome_of_error (onPart_of_error hact')]
    exact .error ⟨rfl, rfl, hb.names, hb.own⟩

theorem alongside_add (kind : ElementKind) {n : ElementName} (hn : n ≠ .harness) :
    Alongside (Besides own) (onPart pipeline setPipeline (Pipeline.add kind n))
      (onPart pipeline setPipeline (Pipeline.add kind n)) := by
  intro h t hb
  by_cases hmem : n ∈ h.pipeline.names kind
  · have hadd : Pipeline.add kind n h.pipeline =
        .error (.duplicateElement ⟨kind, n⟩) h.pipeline := if_pos hmem
    have hadd' : Pipeline.add kind n t.pipeline =
        .error (.duplicateElement ⟨kind, n⟩) t.pipeline := if_pos ((hb.mem_iff kind hn).mp hmem)
    rw [outcome_of_error (onPart_of_error hadd), outcome_of_error (onPart_of_error hadd')]
    exact .error ⟨rfl, hb⟩
  · have hadd : Pipeline.add kind n h.pipeline = .ok () (h.pipeline.push kind n) := if_neg hmem
    have hadd' : Pipeline.add kind n t.pipeline = .ok () (t.pipeline.push kind n) :=
      if_neg fun hmem' => hmem ((hb.mem_iff kind hn).mpr hmem')
    rw [outcome_of_ok (onPart_of_ok hadd), outcome_of_ok (onPart_of_ok hadd')]
    exact .ok ⟨rfl, hb.push kind hn⟩

theorem pure_alongside {R : Host → Host → Prop} (a : α) :
    Alongside R (pure a : EStateM Fault Host α) (pure a) := Pairs.pure fun _ _ hR => ⟨rfl, hR⟩

theorem alongside_look {β : Type} (look : Registry → Except Fault α) (tell : α → β) :
    Alongside (Besides own)
      (do return tell (← ofExcept (look (← get).metrics)) : EStateM Fault Host β)
      (do return tell (← ofExcept (look (← get).metrics))) := by
  refine Pairs.get_bind fun h t hb => ?_
  rw [hb.metrics]
  rintro u v ⟨rfl, rfl⟩
  exact Pairs.bind_same (Pairs.ofExcept _) (fun _ => pure_alongside _) u v hb

/-- A plugin of another name is served alike, whether the harness's source is there or not. -/
theorem alongside_serve (hplugin : plugin ≠ ElementName.harness.plugin) (q : Request) :
    Alongside (Besides own) (serve plugin q) (serve plugin q) := by
  cases q with
  | metric name type unit description =>
    refine Pairs.bind_same ?_ fun _ => pure_alongside _
    refine Pairs.bind_same (Pairs.ofExcept _) fun _ => ?_
    exact Pairs.bind_same (Pairs.ofExcept _) fun _ => alongside_metrics _
  | element kind label =>
    have hn : (⟨plugin, label⟩ : ElementName) ≠ .harness := by
      intro hn
      exact hplugin (congrArg ElementName.plugin hn)
    refine Pairs.bind_same ?_ fun _ => pure_alongside _
    exact Pairs.bind_same (alongside_add kind hn) fun _ => pure_alongside _
  | byName name => exact alongside_look (fun r => r.find name) Reply.entry
  | byId id => exact alongside_look (fun r => r.metricAt id) Reply.metric
  | pluginName => exact pure_alongside _
  | fail f => exact Pairs.throw fun _ _ hb => ⟨rfl, hb⟩

end Host

/-- What a plugin does, step by step; `τ` is a state of its own, which it finds again later. -/
inductive Dialogue (τ : Type) where
  | finish (r : Except Fault Unit)
  | look (next : Registry → τ → Dialogue τ)
  | keep (own : τ) (next : Dialogue τ)
  | ask (q : Request) (next : Except Fault Reply → Dialogue τ)

namespace Dialogue

/-- Runs a dialogue of the plugin that goes by the name. -/
def run (name : String) : Dialogue τ → Host × τ → Except Fault Unit × (Host × τ)
  | finish r, s => (r, s)
  | look next, s => (next s.1.metrics s.2).run name s
  | keep own next, s => next.run name (s.1, own)
  | ask q next, s =>
    let (r, h) := Host.answer name q s.1
    (next r).run name (h, s.2)

/-- The dialogue as a program. -/
def act (name : String) (d : Dialogue τ) : EStateM Fault (Host × τ) Unit := fun s =>
  match d.run name s with
  | (.ok u, t) => .ok u t
  | (.error f, t) => .error f t

theorem outcome_act (name : String) (d : Dialogue τ) (s : Host × τ) :
    outcome (d.act name) s = d.run name s := by
  unfold outcome act
  generalize d.run name s = x
  obtain ⟨r, t⟩ := x
  cases r <;> rfl

variable {name : String} {own : List ElementName} {h t : Host}

theorem answer_besides (hname : name ≠ ElementName.harness.plugin) (hb : h.Besides own t)
    (q : Request) : ∃ r h' t', Host.answer name q h = (r, h') ∧ Host.answer name q t = (r, t') ∧
      h'.Besides own t' := by
  have hserve := Host.alongside_serve hname q h t hb
  unfold Host.answer
  generalize outcome (Host.serve name q) h = x at hserve
  generalize outcome (Host.serve name q) t = y at hserve
  cases hserve with
  | ok hr =>
    obtain ⟨rfl, hb'⟩ := hr
    exact ⟨_, _, _, rfl, rfl, hb'⟩
  | error hr =>
    obtain ⟨rfl, hb'⟩ := hr
    exact ⟨_, _, _, rfl, rfl, hb'⟩

/-- The harness's source makes no difference to a dialogue of another plugin. -/
theorem run_besides (hname : name ≠ ElementName.harness.plugin) (d : Dialogue τ)
    (hb : h.Besides own t) (s : τ) : ∃ r h' t' s', d.run name (h, s) = (r, h', s') ∧
      d.run name (t, s) = (r, t', s') ∧ h'.Besides own t' := by
  induction d generalizing h t s with
  | finish r => exact ⟨r, h, t, s, rfl, rfl, hb⟩
  | look next ih =>
    rw [run, run, hb.metrics]
    exact ih t.metrics s hb s
  | keep s' next ih => exact ih hb s'
  | ask q next ih =>
    obtain ⟨r, h', t', hh, ht, hb'⟩ := answer_besides hname hb q
    rw [run, run, hh, ht]
    exact ih r hb' s

end Dialogue
end Preflight
