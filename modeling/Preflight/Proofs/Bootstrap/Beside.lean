import Preflight.Proofs.Bootstrap.Hearing
import Preflight.Proofs.Bootstrap.Notices
import Preflight.Proofs.Dialogue

/-! The phases of two bootstraps side by side, the second with the test harness among its plugins.
The other plugins converse with the host and find the same in both. They make, start and register
the same, and the checks come to the same: the harness's source is left out of the comparison, and a
plugin more is allowed. -/
namespace Preflight
variable {β π γ σ τ α : Type} {c : Checkpoint}

/-- The first list is the second one without the elements in `H`; the others are in `G`. -/
inductive Joined (G H : π → Prop) : List π → List π → Prop where
  | nil : Joined G H [] []
  | guest {p : π} {ps qs : List π} (hp : G p) (rest : Joined G H ps qs) :
      Joined G H (p :: ps) (p :: qs)
  | host {q : π} {ps qs : List π} (hq : H q) (rest : Joined G H ps qs) : Joined G H ps (q :: qs)

namespace Joined
variable {G H : π → Prop} {ps qs ps' qs' : List π}

theorem refl (h : ∀ p ∈ ps, G p) : Joined G H ps ps := by
  induction ps with
  | nil => exact .nil
  | cons p rest ih =>
    exact .guest (h p List.mem_cons_self) (ih fun q hq => h q (List.mem_cons_of_mem p hq))

theorem append (h : Joined G H ps qs) (h' : Joined G H ps' qs') :
    Joined G H (ps ++ ps') (qs ++ qs') := by
  induction h with
  | nil => exact h'
  | guest hp rest ih => exact .guest hp ih
  | host hq rest ih => exact .host hq ih

theorem reverse (h : Joined G H ps qs) : Joined G H ps.reverse qs.reverse := by
  induction h with
  | nil => exact .nil
  | guest hp rest ih =>
    rw [List.reverse_cons, List.reverse_cons]
    exact ih.append (.guest hp .nil)
  | host hq rest ih =>
    rw [List.reverse_cons]
    simpa using ih.append (.host hq .nil)

end Joined

namespace Lifecycle
open Expectations (counted closed)
variable (L : Lifecycle β π γ σ) (own : σ → τ)

/-- The second state is like the first one for the plugins: the host is the same, and so is what
they keep for themselves. -/
structure Keeps (s t : σ) : Prop where
  host : L.host t = L.host s
  kept : own t = own s

/-- Two states in which a plugin other than the harness finds the same. -/
structure Aside (extra : List ElementName) (s t : σ) : Prop where
  host : (L.host s).Besides extra (L.host t)
  kept : own s = own t

/-- The act is a dialogue of the plugin that goes by the name, whatever else is in the state. -/
def Converses (name : String) (act : EStateM Fault σ Unit) : Prop :=
  ∃ d : Dialogue τ, ∀ s, d.run name (L.host s, own s) =
    ((outcome act s).1, L.host (outcome act s).2, own (outcome act s).2)

/-- A plugin other than the harness. -/
structure Guest (p : π) : Prop where
  name : L.name p ≠ ElementName.harness.plugin
  start : L.Converses own (L.name p) (L.start p)
  stop : L.Converses own (L.name p) (L.stop p)

/-- The harness. Its start does nothing but register its source, and its stop, whatever it comes to,
leaves the others alone. -/
structure Harness (q : π) : Prop where
  name : L.name q = ElementName.harness.plugin
  start : ∀ s, ElementName.harness ∉ (L.host s).pipeline.sources → ∃ t, L.start q s = .ok () t ∧
    L.host t = (Host.answer (L.name q) (.element .source ElementName.harness.label) (L.host s)).2 ∧
      own t = own s
  stop : ∀ s, L.Keeps own s (outcome (L.stop q) s).2

/-- What other plugins are made from. A constructor has no host to converse with. -/
structure MakesGuests (b : β) : Prop where
  host : ∀ s, L.host (outcome (L.construct b) s).2 = L.host s
  kept : ∀ s t, own s = own t → (outcome (L.construct b) s).1 = (outcome (L.construct b) t).1 ∧
    own (outcome (L.construct b) s).2 = own (outcome (L.construct b) t).2
  guest : ∀ p, L.Makes b p → L.Guest own p

/-- What the harness is made from. -/
structure MakesHarness (b : β) : Prop where
  construct : ∀ s, ∃ q t, L.construct b s = .ok q t ∧ L.Keeps own s t
  harness : ∀ q, L.Makes b q → L.Harness own q

variable {L own} {extra : List ElementName} {s t s' t' : σ} {harness : β}

theorem Aside.of_keeps (h : L.Aside own extra s t) (hs : L.Keeps own s s')
    (ht : L.Keeps own t t') : L.Aside own extra s' t' where
  host := by
    rw [hs.host, ht.host]
    exact h.host
  kept := by rw [hs.kept, ht.kept, h.kept]

/-- A guest does the same in both. -/
theorem alongside_converses {name : String} {act : EStateM Fault σ Unit}
    (h : L.Converses own name act) (hname : name ≠ ElementName.harness.plugin) :
    Alongside (L.Aside own extra) act act := by
  obtain ⟨d, hd⟩ := h
  intro s t hst
  obtain ⟨r, hs, ht, o, hrun, hrun', hb⟩ := d.run_besides hname hst.host (own s)
  rw [hst.kept] at hrun'
  have hleft := (hd s).symm.trans hrun
  have hright := (hd t).symm.trans hrun'
  simp only [Prod.mk.injEq] at hleft hright
  obtain ⟨hr, hhost, hown⟩ := hleft
  obtain ⟨hr', hhost', hown'⟩ := hright
  have haside : L.Aside own extra (outcome act s).2 (outcome act t).2 := by
    refine ⟨?_, hown.trans hown'.symm⟩
    rw [hhost, hhost']
    exact hb
  exact .of_same (hr.trans hr'.symm) (fun _ _ => ⟨rfl, haside⟩) fun _ _ => ⟨rfl, haside⟩

/-! ## Constructing -/

theorem pairs_construct {b : β} (hb : L.MakesGuests own b) :
    Pairs (L.Aside own extra) (L.construct b) (L.construct b)
      (fun p s p' t => (p = p' ∧ L.Guest own p) ∧ L.Aside own extra s t)
      (fun e s e' t => e = e' ∧ L.Aside own extra s t) := by
  intro s t hst
  obtain ⟨hsame, hown⟩ := hb.kept s t hst.kept
  have haside : L.Aside own extra (outcome (L.construct b) s).2 (outcome (L.construct b) t).2 := by
    refine ⟨?_, hown⟩
    rw [hb.host, hb.host]
    exact hst.host
  refine .of_same hsame (fun p hp => ⟨⟨rfl, hb.guest p ?_⟩, haside⟩) fun _ _ => ⟨rfl, haside⟩
  exact ⟨s, _, outcome_eq_ok (Prod.ext hp rfl)⟩

theorem pairs_mapM_construct {plan : List β} (h : ∀ b ∈ plan, L.MakesGuests own b) :
    Pairs (L.Aside own extra) (plan.mapM L.construct) (plan.mapM L.construct)
      (fun ps s ps' t => (ps = ps' ∧ ∀ p ∈ ps, L.Guest own p) ∧ L.Aside own extra s t)
      (fun e s e' t => e = e' ∧ L.Aside own extra s t) := by
  induction plan with
  | nil => exact Pairs.pure fun s t hst => ⟨⟨rfl, by simp⟩, hst⟩
  | cons b rest ih =>
    simp only [List.mapM_cons]
    refine Pairs.bind (pairs_construct (h b List.mem_cons_self)) ?_
    rintro p p' s t ⟨⟨rfl, hp⟩, hst⟩
    refine Pairs.bind (ih fun b' hb' => h b' (List.mem_cons_of_mem b hb')) ?_ s t hst
    rintro ps ps' u v ⟨⟨rfl, hps⟩, huv⟩
    exact .ok ⟨⟨rfl, List.forall_mem_cons.mpr ⟨hp, hps⟩⟩, huv⟩

variable (L own) in
/-- The plugins of the second launch: those of the first one, and somewhere the harness. -/
def Seated (harness : β) (ps qs : List π) : Prop := ∃ before q after, ps = before ++ after ∧
  qs = before ++ q :: after ∧ (∀ p ∈ before, L.Guest own p) ∧ (∀ p ∈ after, L.Guest own p) ∧
    L.Makes harness q

theorem Seated.joined {ps qs : List π} (h : L.Seated own harness ps qs) :
    Joined (L.Guest own) (L.Makes harness) ps qs := by
  obtain ⟨before, q, after, rfl, rfl, hbefore, hafter, hq⟩ := h
  exact (Joined.refl hbefore).append (.host hq (.refl hafter))

theorem pairs_mapM_seated {before after : List β} (hbefore : ∀ b ∈ before, L.MakesGuests own b)
    (hafter : ∀ b ∈ after, L.MakesGuests own b) (hharness : L.MakesHarness own harness) :
    Pairs (L.Aside own extra) ((before ++ after).mapM L.construct)
      ((before ++ harness :: after).mapM L.construct)
      (fun ps s qs t => L.Seated own harness ps qs ∧ L.Aside own extra s t)
      (fun e s e' t => e = e' ∧ L.Aside own extra s t) := by
  rw [List.mapM_append, List.mapM_append, List.mapM_cons]
  refine Pairs.bind (pairs_mapM_construct hbefore) ?_
  rintro ps ps' s t ⟨⟨rfl, hps⟩, hst⟩
  obtain ⟨q, t', hq, hkeeps⟩ := hharness.construct t
  have hst' : L.Aside own extra s t' := hst.of_keeps ⟨rfl, rfl⟩ hkeeps
  simp only [bind_assoc]
  rw [outcome_bind_of_ok (outcome_of_ok hq)]
  refine Pairs.bind (pairs_mapM_construct hafter) ?_ s t' hst'
  rintro qs qs' u v ⟨⟨rfl, hqs⟩, huv⟩
  exact .ok ⟨⟨ps, q, qs, rfl, rfl, hps, hqs, t, t', hq⟩, huv⟩

/-! ## Checking -/

variable {wrap : Expectations → γ} {es : List Expectations}

theorem mem_names_of_joined {G H : π → Prop} {ps qs : List π} (h : Joined G H ps qs)
    (hH : ∀ q, H q → L.name q = ElementName.harness.plugin) {name : String}
    (hname : name ≠ ElementName.harness.plugin) : name ∈ L.names ps ↔ name ∈ L.names qs := by
  induction h with
  | nil => exact Iff.rfl
  | guest hp rest ih =>
    simp only [names, List.map_cons, List.mem_cons] at ih ⊢
    rw [ih]
  | host hq rest ih =>
    simp only [names, List.map_cons, List.mem_cons, hH _ hq, hname, false_or] at ih ⊢
    exact ih

/-- A plugin more is allowed, unless the set asks for it. -/
theorem checkPlugins_of_joined {G H : π → Prop} {ps qs : List π} (h : Joined G H ps qs)
    (hH : ∀ q, H q → L.name q = ElementName.harness.plugin) {e : Expectations}
    (he : ElementName.harness.plugin ∉ e.plugins) :
    e.checkPlugins (L.names ps) = e.checkPlugins (L.names qs) := by
  refine e.checkPlugins_congr fun name hname => mem_names_of_joined h hH ?_
  rintro rfl
  exact he hname

/-- The harness's source is left out on both sides. -/
theorem checkElements_of_counted {p q : Pipeline}
    (h : ∀ kind, p.names kind = counted kind (q.names kind)) (e : Expectations) :
    e.checkElements p = e.checkElements q := by
  refine e.checkElements_congr fun kind => ?_
  rw [h kind, Expectations.counted_counted]

theorem pairs_notify (log : ∀ e s, L.Keeps own s (L.log e s)) (checking : L.Checking wrap)
    (e : Expectations) {view view' : View π c} (h : e.judge L.name view = e.judge L.name view') :
    Pairs (L.Aside own extra) (L.notify (wrap e) view) (L.notify (wrap e) view')
      (fun v s v' t => (v = view ∧ v' = view') ∧ L.Aside own extra s t)
      (fun e s e' t => e = e' ∧ L.Aside own extra s t) := by
  intro s t hst
  rw [checking, checking, Expectations.outcome_check, Expectations.outcome_check, h]
  cases e.judge L.name view' with
  | ok u => exact .ok ⟨⟨rfl, rfl⟩, hst.of_keeps (log _ s) (log _ t)⟩
  | error v => exact .error ⟨rfl, hst⟩

/-- Sets that judge the two views alike, in whatever state, come to the same. -/
theorem alongside_notifyAll (log : ∀ e s, L.Keeps own s (L.log e s)) (checking : L.Checking wrap)
    {view view' : View π c} (h : ∀ e ∈ es, ∀ metrics,
      e.judge L.name (view.refresh metrics) = e.judge L.name (view'.refresh metrics)) :
    Alongside (L.Aside own extra) (L.notifyAll (es.map wrap) view)
      (L.notifyAll (es.map wrap) view') := by
  induction es generalizing view view' with
  | nil => exact Pairs.pure fun s t hst => ⟨rfl, hst⟩
  | cons e rest ih =>
    refine Pairs.get_bind fun s t hst => ?_
    rw [hst.host.metrics]
    rintro u v ⟨rfl, rfl⟩
    refine Pairs.bind (pairs_notify log checking e (h e List.mem_cons_self _)) ?_ u v hst
    rintro w w' s t ⟨⟨rfl, rfl⟩, hst⟩
    refine ih (fun e' he' metrics => ?_) s t hst
    rw [View.refresh_refresh, View.refresh_refresh]
    exact h e' (List.mem_cons_of_mem e he') metrics

theorem alongside_reach (log : ∀ e s, L.Keeps own s (L.log e s)) (checking : L.Checking wrap)
    {view view' : View π c} (h : ∀ e ∈ es, ∀ metrics,
      e.judge L.name (view.refresh metrics) = e.judge L.name (view'.refresh metrics)) :
    Alongside (L.Aside own extra) ((L.hearing fun _ => es.map wrap).reach view)
      ((L.hearing fun _ => es.map wrap).reach view') := by
  refine Pairs.get_bind fun s t hst => ?_
  rintro u v ⟨rfl, rfl⟩
  refine Pairs.modify_bind (S := L.Aside own extra)
    (fun s t hst => hst.of_keeps (log _ s) (log _ t)) ?_ u v hst
  rw [hearing_notifyAll, hearing_notifyAll]
  exact alongside_notifyAll log checking h

variable (L own) in
/-- Two bootstraps have failed alike, at a time at which the same guests had started. -/
structure FailedAlike (harness : β) (b : Setback π) (s : σ) (b' : Setback π) (t : σ) : Prop where
  fault : b.fault = b'.fault
  started : Joined (L.Guest own) (L.Makes harness) b.started b'.started
  aside : ∃ extra, L.Aside own extra s t

/-- An act of a bootstrap that fails tells of the plugins that had started. -/
theorem pairs_during {x y : EStateM Fault σ α} {P : α → σ → α → σ → Prop} {stage : Stage}
    {started started' : List π} (hstarted : Joined (L.Guest own) (L.Makes harness) started started')
    (h : Pairs (L.Aside own extra) x y P fun e s e' t => e = e' ∧ ∃ extra, L.Aside own extra s t) :
    Pairs (L.Aside own extra) (Lifecycle.during stage started x)
      (Lifecycle.during stage started' y) P (L.FailedAlike own harness) := by
  intro s t hst
  have hxy := h s t hst
  generalize hx : outcome x s = rs at hxy
  generalize hy : outcome y t = rt at hxy
  cases hxy with
  | ok hok =>
    rw [outcome_during hx, outcome_during hy]
    exact .ok hok
  | error herror =>
    rw [outcome_during hx, outcome_during hy]
    exact .error ⟨herror.1, hstarted, herror.2⟩

theorem pairs_notifying (log : ∀ e s, L.Keeps own s (L.log e s)) (checking : L.Checking wrap)
    {started started' : List π} (hstarted : Joined (L.Guest own) (L.Makes harness) started started')
    {view view' : View π c} (h : ∀ e ∈ es, ∀ metrics,
      e.judge L.name (view.refresh metrics) = e.judge L.name (view'.refresh metrics)) :
    Pairs (L.Aside own extra) ((L.hearing fun _ => es.map wrap).notifying started view)
      ((L.hearing fun _ => es.map wrap).notifying started' view')
      (fun _ s _ t => L.Aside own extra s t) (L.FailedAlike own harness) :=
  pairs_during hstarted <| (alongside_reach log checking h).mono (fun _ _ _ _ h => h.2)
    fun _ _ _ _ h => ⟨h.1, extra, h.2⟩

/-! ## Starting -/

theorem startEach_append (started ps qs : List π) :
    L.startEach started (ps ++ qs) =
      L.startEach started ps >>= fun _ => L.startEach (started ++ ps) qs := by
  induction ps generalizing started with
  | nil => simp [startEach]
  | cons p rest ih => simp [startEach, ih]

theorem pairs_startEach {started started' ps : List π} (hps : ∀ p ∈ ps, L.Guest own p)
    (hstarted : Joined (L.Guest own) (L.Makes harness) started started') :
    Pairs (L.Aside own extra) (L.startEach started ps) (L.startEach started' ps)
      (fun _ s _ t => L.Aside own extra s t) (L.FailedAlike own harness) := by
  induction ps generalizing started started' with
  | nil => exact Pairs.pure fun s t hst => hst
  | cons p rest ih =>
    have hp := hps p List.mem_cons_self
    have hstart : Pairs (L.Aside own extra) (during .starting started (L.start p))
        (during .starting started' (L.start p)) (fun _ s _ t => L.Aside own extra s t)
          (L.FailedAlike own harness) :=
      pairs_during hstarted <| (alongside_converses hp.start hp.name).mono (fun _ _ _ _ h => h.2)
        fun _ _ _ _ h => ⟨h.1, extra, h.2⟩
    refine Pairs.bind hstart fun _ _ => ?_
    exact ih (fun q hq => hps q (List.mem_cons_of_mem p hq))
      (hstarted.append (.guest hp .nil))

/-- The harness finds the place of its source free. -/
theorem start_harness {q : π} (hq : L.Harness own q) (hst : L.Aside own [] s t) :
    ∃ t', L.start q t = .ok () t' ∧ L.Aside own [.harness] s t' := by
  have hfree : ElementName.harness ∉ (L.host t).pipeline.sources := by
    intro hmem
    have hfilter : ElementName.harness ∈ (L.host t).pipeline.sources.filter (· = .harness) := by
      simpa using hmem
    rw [hst.host.own] at hfilter
    cases hfilter
  obtain ⟨t', ht', hhost, hown⟩ := hq.start t hfree
  refine ⟨t', ht', ?_, hst.kept.trans hown.symm⟩
  rw [hhost, hq.name]
  exact hst.host.add_harness hfree

theorem pairs_startEach_seated {ps qs : List π} (hharness : L.MakesHarness own harness)
    (h : L.Seated own harness ps qs) :
    Pairs (L.Aside own []) (L.startEach [] ps) (L.startEach [] qs)
      (fun _ s _ t => L.Aside own [.harness] s t) (L.FailedAlike own harness) := by
  obtain ⟨before, q, after, rfl, rfl, hbefore, hafter, hq⟩ := h
  rw [startEach_append, startEach_append]
  refine Pairs.bind (pairs_startEach hbefore .nil) fun _ _ s t hst => ?_
  obtain ⟨t', ht', hst'⟩ := start_harness (hharness.harness q hq) hst
  have hstarted : outcome (L.startEach ([] ++ before) (q :: after)) t =
      outcome (L.startEach ([] ++ before ++ [q]) after) t' := by
    rw [startEach, outcome_bind_of_ok (outcome_during (outcome_of_ok ht'))]
  rw [hstarted]
  refine pairs_startEach hafter ?_ s t' hst'
  simpa using (Joined.refl hbefore).append (.host hq .nil)

end Lifecycle
end Preflight
