import Preflight.Proofs.Expectation.Handover
import Preflight.Proofs.Measurement
import Preflight.Proofs.Unit.Code

/-! What an attached set of expectations says to a further declaration. It refuses every one of them
and stays as it is; but a metric given by values is read before the set is asked, so that of one
that cannot be read only the reading is reported. -/
namespace Preflight

namespace ExpectedMetric
variable {name : String} {type unit : Value} {f : Fault}

theorem ofValues_of_bad_type (h : Measurement.ofValue type = .error f) :
    ofValues name type unit = .error f := by
  simp [ofValues, h, bind, Except.bind]

theorem ofValues_of_bad_unit {m : Measurement} (htype : Measurement.ofValue type = .ok m)
    (h : ScaledUnit.ofValue unit = .error f) : ofValues name type unit = .error f := by
  simp [ofValues, htype, h, bind, Except.bind]

theorem ofValues_of_read {m : Measurement} {u : ScaledUnit}
    (htype : Measurement.ofValue type = .ok m) (hunit : ScaledUnit.ofValue unit = .ok u) :
    ofValues name type unit = .ok ⟨name, m, u⟩ := by
  simp [ofValues, htype, hunit, bind, Except.bind, pure, Except.pure]

theorem exists_ofValues_eq_ok_iff : (∃ m, ofValues name type unit = .ok m) ↔
    (∃ m, Measurement.ofValue type = .ok m) ∧ ∃ u, ScaledUnit.ofValue unit = .ok u := by
  cases htype : Measurement.ofValue type with
  | error f => simp [ofValues_of_bad_type htype]
  | ok m =>
    cases hunit : ScaledUnit.ofValue unit with
    | error f => simp [ofValues_of_bad_unit htype hunit]
    | ok u => simp [ofValues_of_read htype hunit]

theorem kind_of_ofValues_error (h : ofValues name type unit = .error f) :
    f.kind = "ValueError" := by
  cases htype : Measurement.ofValue type with
  | error g =>
    cases (ofValues_of_bad_type htype).symm.trans h
    exact Measurement.kind_of_ofValue_error htype
  | ok m =>
    cases hunit : ScaledUnit.ofValue unit with
    | error g =>
      cases (ofValues_of_bad_unit htype hunit).symm.trans h
      exact ScaledUnit.kind_of_ofValue_error hunit
    | ok u => cases (ofValues_of_read htype hunit).symm.trans h

end ExpectedMetric

/-- Only a metric given by values can be unreadable, by its type or by its unit. -/
def Declaration.Readable : Declaration → Prop
  | .metric _ type unit =>
    (∃ m, Measurement.ofValue type = .ok m) ∧ ∃ u, ScaledUnit.ofValue unit = .ok u
  | _ => True

namespace Expectations
variable {γ : Type}

theorem refusal_of_readable {d : Declaration} (h : d.Readable) :
    (Move.declare d).refusal = .alreadyAttached := by
  cases d with
  | metric name type unit =>
    have ⟨m, hm⟩ : ∃ m, ExpectedMetric.ofValues name type unit = .ok m :=
      ExpectedMetric.exists_ofValues_eq_ok_iff.mpr h
    simp [Move.refusal, Declaration.item, hm, Except.map]
  | _ => rfl

theorem refusal_of_unreadable {d : Declaration} (h : ¬ d.Readable) :
    ∃ name type unit, d = .metric name type unit ∧
      ExpectedMetric.ofValues name type unit = .error (Move.declare d).refusal := by
  cases d with
  | metric name type unit =>
    refine ⟨name, type, unit, rfl, ?_⟩
    cases hm : ExpectedMetric.ofValues name type unit with
    | ok m => exact absurd (ExpectedMetric.exists_ofValues_eq_ok_iff.mp ⟨m, hm⟩) h
    | error f => simp [Move.refusal, Declaration.item, hm, Except.map]
  | _ => exact absurd trivial h

/-- Once a set is attached, by whatever moves, each declaration is refused and changes nothing. The
refusal says that the set is attached, unless the declaration cannot be read: it then says why. -/
theorem declare_after_attaching (wrap : Expectations → γ) (audiences : Nat → Audience γ)
    (moves : List Move) (d : Declaration)
    (attached : (outcomes (move wrap) moves ⟨{}, audiences⟩).2.set.attached = true) :
    let k := (outcomes (move wrap) moves ⟨{}, audiences⟩).2
    ∃ f, move wrap (.declare d) k = .error f k ∧
      (f.kind = "ExpectationsSealedError" ↔ d.Readable) ∧
      (d.Readable → f = .alreadyAttached) ∧
      (¬ d.Readable → ∃ name type unit, d = .metric name type unit ∧
        ExpectedMetric.ofValues name type unit = .error f ∧ f.kind = "ValueError") := by
  intro k
  refine ⟨(Move.declare d).refusal, move_of_attached attached _,
    ⟨fun hkind => ?_, fun h => ?_⟩, refusal_of_readable, fun h => ?_⟩
  · by_contra h
    obtain ⟨name, type, unit, -, hf⟩ := refusal_of_unreadable h
    rw [ExpectedMetric.kind_of_ofValues_error hf] at hkind
    exact absurd hkind (by decide)
  · rw [refusal_of_readable h]
    rfl
  · obtain ⟨name, type, unit, hd, hf⟩ := refusal_of_unreadable h
    exact ⟨name, type, unit, hd, hf, ExpectedMetric.kind_of_ofValues_error hf⟩

/-- A plugin is declared, and the set goes to a builder. -/
def handover : List Move := [.declare (.plugin "coffee"), .attach 0]

/-- There is no such kind of measurement. -/
def unheard : Declaration := .metric "cups" (.text "u128") (.text "W")

theorem not_readable_unheard : ¬ unheard.Readable := by
  rintro ⟨⟨m, hm⟩, -⟩
  cases hm

theorem declare_after_attaching_unheard :
    let k := (outcomes (move id) handover ⟨{}, fun _ => {}⟩).2
    k.set.attached = true ∧ ¬ unheard.Readable ∧
      ∃ f, move id (.declare unheard) k = .error f k ∧ f.kind = "ValueError" := by
  have attached : (outcomes (move id) handover ⟨{}, fun _ => {}⟩).2.set.attached = true := rfl
  obtain ⟨f, hf, -, -, hkind⟩ :=
    declare_after_attaching id (fun _ => {}) handover unheard attached
  obtain ⟨-, -, -, -, -, hkind⟩ := hkind not_readable_unheard
  exact ⟨attached, not_readable_unheard, f, hf, hkind⟩

/-- The set is attached, and yet a declaration is refused for another reason. -/
theorem unheard_refused_by_reading :
    let k := (outcomes (move id) handover ⟨{}, fun _ => {}⟩).2
    k.set.attached = true ∧
      move id (.declare unheard) k = .error (.unknownMeasurement "u128") k ∧
      (Fault.unknownMeasurement "u128").kind ≠ "ExpectationsSealedError" :=
  ⟨rfl, rfl, by decide⟩

end Expectations
end Preflight
