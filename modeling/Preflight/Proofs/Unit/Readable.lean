import Preflight.Proofs.Expectation.Spelling
import Preflight.Proofs.Unit.Code

/-! The units of metrics, and whether their codes can be read. A unit that is given by a code, or as
a base unit, can be read from its code again. One that is handed over as a unit is taken as it is,
and so a scaled unity, whose code is read as nothing, comes to be registered and expected; in no
other way does an unreadable unit come in. -/
namespace Preflight

/-- A unit without a meaning, handed over as a unit. -/
def Value.IsScaledUnity (v : Value) : Prop := ∃ u : ScaledUnit, v = .unit u ∧ ¬ u.IsLegal

namespace ScaledUnit
variable {u : ScaledUnit} {v : Value}

/-- The unit's code is read as the unit. -/
def Readable (u : ScaledUnit) : Prop := parse (.text u.code) = .ok u

theorem readable_iff_isLegal : u.Readable ↔ u.IsLegal := by
  rw [Readable, parse_eq_ok_iff rfl, eq_self, true_and]

theorem isLegal_or_eq_of_ofValue (h : ofValue v = .ok u) : u.IsLegal ∨ v = .unit u := by
  unfold ofValue at h
  split at h
  next given =>
    cases h
    exact Or.inr rfl
  next base =>
    cases h
    exact Or.inl (isLegal_of_plain rfl)
  next =>
    split at h
    next htext =>
      obtain ⟨s, hs⟩ := Option.isSome_iff_exists.mp htext
      exact Or.inl ((parse_eq_ok_iff hs).mp h).2
    next => cases h

theorem readable_iff_of_ofValue (h : ofValue v = .ok u) : u.Readable ↔ ¬ v.IsScaledUnity := by
  rw [readable_iff_isLegal]
  constructor
  · rintro hlegal ⟨given, rfl, hgiven⟩
    cases h
    exact hgiven hlegal
  · intro hv
    by_contra hlegal
    exact hv ⟨u, (isLegal_or_eq_of_ofValue h).resolve_left hlegal, hlegal⟩

end ScaledUnit

/-! ## Where metrics come from -/

theorem Request.exists_of_metric?_eq_some {q : Request} {m : Metric} (h : q.metric? = some m) :
    ∃ type unit, q = .metric m.name type unit m.description ∧
      ScaledUnit.ofValue unit = .ok m.unit := by
  cases q with
  | metric name type unit description =>
    rw [Request.metric?] at h
    split at h
    next hmeasurement hunit =>
      cases h
      exact ⟨type, unit, rfl, hunit⟩
    next => cases h
  | _ => cases h

/-- What the host holds was asked for. -/
theorem Host.exists_request_of_mem {calls : List (String × Request)} {m : Metric}
    (h : m ∈ (outcomes (fun c => serve c.1 c.2) calls {}).2.metrics.metrics) :
    ∃ c ∈ calls, c.2.metric? = some m := by
  rw [(holds_run calls).metrics] at h
  obtain ⟨g, hg, hm⟩ := List.mem_filterMap.mp h
  exact ⟨g.1, mem_acts_of_granted hg, hm⟩

namespace Expectations
variable {γ : Type} {wrap : Expectations → γ} {audiences : Nat → Audience γ} {log : Moves}
  {k : Desk γ} {m : ExpectedMetric}

theorem mem_metrics_ofItems {items : List Item} :
    m ∈ (ofItems items).metrics ↔ .metric m ∈ items := by
  rw [ofItems, List.mem_filterMap]
  constructor
  · rintro ⟨i, hi, him⟩
    cases i with
    | metric m' =>
      cases him
      exact hi
    | _ => cases him
  · exact fun h => ⟨_, h, rfl⟩

theorem exists_move_of_mem_items {i : Item} (h : i ∈ log.items) :
    ∃ g ∈ granted log, g.1.item? = some i := List.mem_filterMap.mp h

/-- What a set holds was declared, whether the set is attached or not. -/
theorem Standing.exists_move_of_mem (h : Standing wrap audiences log k) (hm : m ∈ k.set.metrics) :
    ∃ g ∈ granted log, g.1.item? = some (.metric m) := by
  cases h with
  | held => exact exists_move_of_mem_items (mem_metrics_ofItems.mp hm)
  | @handedOver before after b a =>
    have hitem : Item.metric m ∈ Moves.items before := mem_metrics_ofItems.mp hm
    obtain ⟨g, hg, hi⟩ := exists_move_of_mem_items hitem
    refine ⟨g, ?_, hi⟩
    rw [granted, List.filterMap_append]
    exact List.mem_append_left _ hg

theorem exists_values_of_item? {move : Move} (h : move.item? = some (.metric m)) :
    move = .declare (.metricAsGiven m) ∨ ∃ type unit, move = .declare (.metric m.name type unit) ∧
      ScaledUnit.ofValue unit = .ok m.unit := by
  cases move with
  | attach b => cases h
  | declare d =>
    cases d with
    | metric name type unit =>
      rw [Move.item?, Declaration.item] at h
      cases hread : ExpectedMetric.ofValues name type unit with
      | error f =>
        rw [hread] at h
        cases h
      | ok m' =>
        rw [hread] at h
        cases h
        obtain ⟨-, hunit, rfl⟩ := ExpectedMetric.ofValues_eq_ok_iff.mp hread
        exact Or.inr ⟨type, unit, rfl, hunit⟩
    | metricAsGiven m' =>
      cases h
      exact Or.inl rfl
    | _ => cases h

end Expectations

/-- Of all the units that values are read as, the unreadable ones are the scaled unities that are
handed over as units. So it is with the metrics that plugins have created after any requests, and
with those that a test has declared by values in any moves. -/
theorem readable_unless_scaled_unity {γ : Type} (calls : List (String × Request))
    (wrap : Expectations → γ) (audiences : Nat → Audience γ) (moves : List Expectations.Move) :
    (∀ v u, ScaledUnit.ofValue v = .ok u → (u.Readable ↔ ¬ v.IsScaledUnity)) ∧
    (∀ m ∈ (outcomes (fun c => Host.serve c.1 c.2) calls {}).2.metrics.metrics,
      ∃ plugin type unit, (plugin, .metric m.name type unit m.description) ∈ calls ∧
        ScaledUnit.ofValue unit = .ok m.unit ∧ (m.unit.Readable ↔ ¬ unit.IsScaledUnity)) ∧
    ∀ m ∈ (outcomes (Expectations.move wrap) moves ⟨{}, audiences⟩).2.set.metrics,
      .declare (.metricAsGiven m) ∈ moves ∨
      ∃ type unit, .declare (.metric m.name type unit) ∈ moves ∧
        ScaledUnit.ofValue unit = .ok m.unit ∧ (m.unit.Readable ↔ ¬ unit.IsScaledUnity) := by
  refine ⟨fun v u => ScaledUnit.readable_iff_of_ofValue, fun m hm => ?_, fun m hm => ?_⟩
  · obtain ⟨⟨plugin, q⟩, hq, hdescribed⟩ := Host.exists_request_of_mem hm
    obtain ⟨type, unit, rfl, hunit⟩ := Request.exists_of_metric?_eq_some hdescribed
    exact ⟨plugin, type, unit, hq, hunit, ScaledUnit.readable_iff_of_ofValue hunit⟩
  · obtain ⟨g, hg, hitem⟩ :=
      (Expectations.standing_run wrap audiences moves).exists_move_of_mem hm
    have hmove := mem_acts_of_granted hg
    rcases Expectations.exists_values_of_item? hitem with hgiven | ⟨type, unit, hvalues, hunit⟩
    · exact Or.inl (hgiven ▸ hmove)
    · exact Or.inr ⟨type, unit, hvalues ▸ hmove, hunit, ScaledUnit.readable_iff_of_ofValue hunit⟩

/-- A thousand of unity is registered and expected, though its code is no unit's. -/
theorem kilounity_is_held :
    let u : ScaledUnit := ⟨.unity, .kilo⟩
    ScaledUnit.ofValue (.unit u) = .ok u ∧
      ScaledUnit.parse (.text u.code) = .error (.unknownUnit (.text "k1")) ∧
      (∃ r t, Host.serve "coffee" (.metric "cups" (.measurement .u64) (.unit u) "") {} = .ok r t ∧
        t.metrics.metrics.map (·.unit) = [u]) ∧
      ∃ e, ({} : Expectations).declare (.metric "cups" (.measurement .u64) (.unit u)) = .ok e ∧
        e.metrics.map (·.unit) = [u] :=
  ⟨rfl, rfl, ⟨_, _, rfl, rfl⟩, _, rfl, rfl⟩

end Preflight
