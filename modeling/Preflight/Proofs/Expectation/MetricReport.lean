import Preflight.Proofs.Expectation.Met

/-! What the check of metrics reports. It asks a look-up, which need not be that of a registry, for
each metric in the order of declaration, and four tests of the answer follow one another. -/
namespace Preflight.Expectations

/-- The look-up answers with the metric that was declared. -/
def Finds (lookup : String → Option Metric) (m : ExpectedMetric) : Prop :=
  ∃ found, lookup m.name = some found ∧
    found.name = m.name ∧ found.unit = m.unit ∧ found.measurement = m.measurement

/-- What is said of a metric that is not found as declared: the topic, and the values that were
expected and found. An answer is tested only if it passed the tests before. -/
inductive Faulted (lookup : String → Option Metric) (m : ExpectedMetric) :
    String → Value → Value → Prop where
  | missing (answer : lookup m.name = none) : Faulted lookup m "metric" .null .null
  | misfiled {found : Metric} (answer : lookup m.name = some found) (name : found.name ≠ m.name) :
    Faulted lookup m "registry" (.text m.name) (.text found.name)
  | unit {found : Metric} (answer : lookup m.name = some found) (name : found.name = m.name)
      (unit : found.unit ≠ m.unit) : Faulted lookup m "metric" (.unit m.unit) (.unit found.unit)
  | measurement {found : Metric} (answer : lookup m.name = some found) (name : found.name = m.name)
      (unit : found.unit = m.unit) (measurement : found.measurement ≠ m.measurement) :
    Faulted lookup m "metric" (.measurement m.measurement) (.measurement found.measurement)

variable {lookup : String → Option Metric} {m : ExpectedMetric}

theorem Faulted.not_finds {topic : String} {expected actual : Value}
    (h : Faulted lookup m topic expected actual) : ¬ Finds lookup m := by
  rintro ⟨found, answer, name, unit, measurement⟩
  cases h with
  | missing none => cases none.symm.trans answer
  | misfiled answer' name' =>
    cases answer'.symm.trans answer
    exact name' name
  | unit answer' _ unit' =>
    cases answer'.symm.trans answer
    exact unit' unit
  | measurement answer' _ _ measurement' =>
    cases answer'.symm.trans answer
    exact measurement' measurement

theorem faulted_of_checkMetric {v : Violation} (h : checkMetric lookup m = .error v) :
    v.subject = m.name ∧ Faulted lookup m v.topic v.expected v.actual := by
  unfold checkMetric at h
  split at h
  next answer =>
    cases h
    exact ⟨rfl, .missing answer⟩
  next found answer =>
    split at h
    next name =>
      cases h
      exact ⟨rfl, .misfiled answer name⟩
    split at h
    next name unit =>
      cases h
      exact ⟨rfl, .unit answer (not_not.mp name) unit⟩
    split at h
    next name unit measurement =>
      cases h
      exact ⟨rfl, .measurement answer (not_not.mp name) (not_not.mp unit) measurement⟩
    next => cases h

/-- A registry answers with metrics of the name that it was asked for. -/
theorem Faulted.topic_of_consistent {r : Registry} (hr : r.Consistent) {topic : String}
    {expected actual : Value} (h : Faulted r.lookup m topic expected actual) :
    topic = "metric" := by
  cases h with
  | misfiled answer name => exact absurd (hr.lookup_eq_some_iff.mp answer).2 name
  | missing | unit | measurement => rfl

/-- The check is passed when all metrics are found as declared. Otherwise the first that is not is
reported, by the first test that its answer fails; it is never the registry's fault when the answers
are those of one. -/
theorem metrics_reported_in_order (e : Expectations) (lookup : String → Option Metric) :
    (e.checkMetrics lookup = .ok () ↔ ∀ m ∈ e.metrics, Finds lookup m) ∧
    (∀ v, e.checkMetrics lookup = .error v → ∃ before m after,
      e.metrics = before ++ m :: after ∧ (∀ m' ∈ before, Finds lookup m') ∧ ¬ Finds lookup m ∧
        v.subject = m.name ∧ Faulted lookup m v.topic v.expected v.actual) ∧
    ∀ metrics v, e.checkMetrics (outcomes Registry.register metrics {}).2.lookup = .error v →
      v.topic = "metric" := by
  refine ⟨?_, fun v h => ?_, fun metrics v h => ?_⟩
  · rw [checkMetrics, forM_eq_ok_iff]
    exact forall₂_congr fun m _ => checkMetric_eq_ok_iff
  · obtain ⟨before, m, after, hmetrics, hbefore, hm⟩ := exists_of_forM_eq_error h
    obtain ⟨subject, faulted⟩ := faulted_of_checkMetric hm
    exact ⟨before, m, after, hmetrics, fun m' hm' => checkMetric_eq_ok_iff.mp (hbefore m' hm'),
      faulted.not_finds, subject, faulted⟩
  · obtain ⟨before, m, after, -, -, hm⟩ := exists_of_forM_eq_error h
    have hr := (Registry.holds_run metrics).consistent
    exact (faulted_of_checkMetric hm).2.topic_of_consistent hr

end Preflight.Expectations
