import Preflight.Proofs.Expectation.Met
import Preflight.Proofs.Expectation.Refusal
import Preflight.Proofs.Host

/-! The spellings of a metric. A plugin gives a type and a unit when it creates a metric, and a test
gives them when it expects one. Both are read alike: a spelling is accepted on both sides, or
refused on both for the same reason, and two spellings stand for the same metric exactly if they are
read as the same. -/
namespace Preflight
variable {name description plugin : String} {type unit type' unit' : Value} {f : Fault}

namespace ExpectedMetric
variable {m m' : ExpectedMetric}

theorem ofValues_eq_ok_iff : ofValues name type unit = .ok m ↔
    Measurement.ofValue type = .ok m.measurement ∧ ScaledUnit.ofValue unit = .ok m.unit ∧
      m.name = name := by
  constructor
  · intro h
    obtain ⟨⟨measurement, htype⟩, scaled, hunit⟩ := exists_ofValues_eq_ok_iff.mp ⟨m, h⟩
    rw [ofValues_of_read htype hunit] at h
    cases h
    exact ⟨htype, hunit, rfl⟩
  · rintro ⟨htype, hunit, rfl⟩
    exact ofValues_of_read htype hunit

/-- Two spellings of one name are read as the same exactly if their types and their units are. -/
theorem same_reading_iff (h : ofValues name type unit = .ok m)
    (h' : ofValues name type' unit' = .ok m') :
    m.unit = m'.unit ∧ m.measurement = m'.measurement ↔
      (∃ k, Measurement.ofValue type = .ok k ∧ Measurement.ofValue type' = .ok k) ∧
        ∃ u, ScaledUnit.ofValue unit = .ok u ∧ ScaledUnit.ofValue unit' = .ok u := by
  obtain ⟨htype, hunit, -⟩ := ofValues_eq_ok_iff.mp h
  obtain ⟨htype', hunit', -⟩ := ofValues_eq_ok_iff.mp h'
  simp [htype, hunit, htype', hunit', eq_comm, and_comm]

/-- The metric that is created from what was read. -/
def described (description : String) (m : ExpectedMetric) : Metric where
  name := m.name
  measurement := m.measurement
  unit := m.unit
  description

end ExpectedMetric

namespace Host
variable {h : Host}

theorem serve_metric_of_read {m : ExpectedMetric} (hh : h.metrics.Consistent)
    (hm : ExpectedMetric.ofValues name type unit = .ok m) (free : name ∉ h.metrics.names) :
    serve plugin (.metric name type unit description) h =
      .ok (.id h.metrics.size) (h.setMetrics (h.metrics.push (m.described description))) := by
  obtain ⟨htype, hunit, rfl⟩ := ExpectedMetric.ofValues_eq_ok_iff.mp hm
  exact serve_metric_of_ok (createMetric_of_free hh htype hunit free)

theorem serve_metric_of_unread (hf : ExpectedMetric.ofValues name type unit = .error f) :
    serve plugin (.metric name type unit description) h = .error f h := by
  cases htype : Measurement.ofValue type with
  | error g =>
    cases (ExpectedMetric.ofValues_of_bad_type htype).symm.trans hf
    exact serve_metric_of_error (createMetric_of_bad_type htype)
  | ok m =>
    cases hunit : ScaledUnit.ofValue unit with
    | error g =>
      cases (ExpectedMetric.ofValues_of_bad_unit htype hunit).symm.trans hf
      exact serve_metric_of_error (createMetric_of_bad_unit htype hunit)
    | ok u => cases (ExpectedMetric.ofValues_of_read htype hunit).symm.trans hf

end Host

namespace Expectations
variable {e : Expectations}

theorem declare_metric_of_read {m : ExpectedMetric} (isOpen : e.attached = false)
    (hm : ExpectedMetric.ofValues name type unit = .ok m) :
    e.declare (.metric name type unit) = .ok { e with metrics := e.metrics ++ [m] } := by
  have hopen : e.open? = .ok e := by simp [open?, isOpen]
  simp [declare, hm, addMetric, hopen, bind, Except.bind, pure, Except.pure]

theorem declare_metric_of_unread (hf : ExpectedMetric.ofValues name type unit = .error f) :
    e.declare (.metric name type unit) = .error f := by
  simp [declare, hf, bind, Except.bind]

theorem exists_read_of_declare {e' : Expectations} (isOpen : e.attached = false)
    (h : e.declare (.metric name type unit) = .ok e') :
    ∃ m, ExpectedMetric.ofValues name type unit = .ok m ∧ e'.metrics = e.metrics ++ [m] := by
  cases hm : ExpectedMetric.ofValues name type unit with
  | error f => cases (declare_metric_of_unread hm).symm.trans h
  | ok m =>
    cases (declare_metric_of_read isOpen hm).symm.trans h
    exact ⟨m, rfl, rfl⟩

/-- A lone expectation is met by the metric that is found under its name. -/
theorem checkMetrics_of_found {lookup : String → Option Metric} {m : ExpectedMetric}
    {found : Metric} (hmetrics : e.metrics = [m]) (hfound : lookup m.name = some found)
    (hname : found.name = m.name) :
    e.checkMetrics lookup = .ok () ↔ found.unit = m.unit ∧ found.measurement = m.measurement := by
  rw [checkMetrics, hmetrics, forM_eq_ok_iff, List.forall_mem_singleton, checkMetric_eq_ok_iff]
  constructor
  · rintro ⟨other, hother, -, h⟩
    cases hfound.symm.trans hother
    exact h
  · intro h
    exact ⟨found, hfound, hname, h⟩

/-- What a plugin spells and what a test spells agree. A spelling makes a metric of a name that is
free exactly if it makes an expectation in a set that is open, and is refused by both with the same
fault. A metric that was created meets an expectation of its name, the only one of a set and
whatever else is registered before or later, exactly if both spellings are read as the same; the
spelling that it was created by always is. -/
theorem spellings_agree (before : List Metric) (pipeline : Pipeline)
    (plugin name description : String) (type unit : Value) (e : Expectations)
    (free : name ∉ (outcomes Registry.register before {}).2.names) (isOpen : e.attached = false) :
    let h : Host := { metrics := (outcomes Registry.register before {}).2, pipeline }
    let create := Host.serve plugin (.metric name type unit description)
    ((∃ r t, create h = .ok r t) ↔ ∃ e', e.declare (.metric name type unit) = .ok e') ∧
    (∀ f, (∃ t, create h = .error f t) ↔ e.declare (.metric name type unit) = .error f) ∧
    ∀ r t, create h = .ok r t → ∀ later, e.metrics = [] →
      let lookup := (outcomes Registry.register later t.metrics).2.lookup
      (∀ type' unit' e', e.declare (.metric name type' unit') = .ok e' →
        (e'.checkMetrics lookup = .ok () ↔
          (∃ m, Measurement.ofValue type = .ok m ∧ Measurement.ofValue type' = .ok m) ∧
            ∃ u, ScaledUnit.ofValue unit = .ok u ∧ ScaledUnit.ofValue unit' = .ok u)) ∧
      ∃ e', e.declare (.metric name type unit) = .ok e' ∧ e'.checkMetrics lookup = .ok () := by
  intro h create
  have hh : h.metrics.Consistent := (Registry.holds_run before).consistent
  cases hm : ExpectedMetric.ofValues name type unit with
  | error f =>
    have hcreate : create h = .error f h := Host.serve_metric_of_unread hm
    have hdeclare : e.declare (.metric name type unit) = .error f := declare_metric_of_unread hm
    simp [hcreate, hdeclare]
  | ok m =>
    obtain ⟨htype, hunit, rfl⟩ := ExpectedMetric.ofValues_eq_ok_iff.mp hm
    have hcreate : create h = .ok (.id h.metrics.size)
        (h.setMetrics (h.metrics.push (m.described description))) :=
      Host.serve_metric_of_read hh hm free
    have hdeclare := declare_metric_of_read isOpen hm
    refine ⟨by simp [hcreate, hdeclare], by simp [hcreate, hdeclare], ?_⟩
    rintro r t ht later hempty lookup
    obtain ⟨-, rfl⟩ : .id h.metrics.size = r ∧
        h.setMetrics (h.metrics.push (m.described description)) = t := by
      simpa [hcreate] using ht
    have hfound : lookup m.name = some (m.described description) :=
      Registry.lookup_after_push hh free later
    have hchecked : ∀ type' unit' e', e.declare (.metric m.name type' unit') = .ok e' →
        (e'.checkMetrics lookup = .ok () ↔
          (∃ k, Measurement.ofValue type = .ok k ∧ Measurement.ofValue type' = .ok k) ∧
            ∃ u, ScaledUnit.ofValue unit = .ok u ∧ ScaledUnit.ofValue unit' = .ok u) := by
      intro type' unit' e' he'
      obtain ⟨m', hm', hmetrics⟩ := exists_read_of_declare isOpen he'
      obtain ⟨-, -, hname⟩ := ExpectedMetric.ofValues_eq_ok_iff.mp hm'
      rw [hempty, List.nil_append] at hmetrics
      rw [checkMetrics_of_found hmetrics (hname ▸ hfound) hname.symm]
      exact ExpectedMetric.same_reading_iff hm hm'
    exact ⟨hchecked, _, hdeclare,
      (hchecked _ _ _ hdeclare).mpr ⟨⟨_, htype, htype⟩, _, hunit, hunit⟩⟩

/-- A type and a code on the one side, a kind and a unit on the other. -/
theorem spellings_agree_of_watts :
    let before : List Metric := [⟨"beans", .f64, .ofBase .unity, ""⟩]
    let h : Host := { metrics := (outcomes Registry.register before {}).2 }
    let type : Value := .type (.builtin "int")
    let unit : Value := .text "mW"
    "cups" ∉ h.metrics.names ∧ ({} : Expectations).attached = false ∧
    ∃ r t e', Host.serve "coffee" (.metric "cups" type unit "") h = .ok r t ∧
      ({} : Expectations).declare (.metric "cups" (.text "U64") (.unit ⟨.watt, .milli⟩)) = .ok e' ∧
      e'.checkMetrics (outcomes Registry.register before t.metrics).2.lookup = .ok () := by
  intro before h type unit
  have free : "cups" ∉ h.metrics.names := by decide
  have isOpen : ({} : Expectations).attached = false := rfl
  obtain ⟨hsame, -, hchecked⟩ :=
    spellings_agree before {} "coffee" "cups" "" type unit {} free isOpen
  obtain ⟨r, t, hcreate⟩ := hsame.mpr ⟨_, rfl⟩
  have hother : ({} : Expectations).declare
      (.metric "cups" (.text "U64") (.unit ⟨.watt, .milli⟩)) = .ok _ := rfl
  obtain ⟨hchecked, -⟩ := hchecked r t hcreate before rfl
  exact ⟨free, isOpen, r, t, _, hcreate, hother,
    (hchecked _ _ _ hother).mpr ⟨⟨.u64, rfl, rfl⟩, ⟨.watt, .milli⟩, rfl, rfl⟩⟩

end Expectations
end Preflight
