import Mathlib.Data.List.Zip
import Preflight.Proofs.Outcomes
import Preflight.Registry

/-! The laws of the registry. Metrics and places are kept apart, and agree in every registry that
comes of registering: the place of a name is where the metric of that name stands. From this all
look-ups answer the same about the list of metrics, and an answer once given is given for good. -/
namespace Preflight.Registry

theorem getElem?_concat_iff {α : Type} (xs : List α) (x y : α) (i : Nat) :
    (xs ++ [x])[i]? = some y ↔ xs[i]? = some y ∨ i = xs.length ∧ x = y := by
  rcases Nat.lt_trichotomy i xs.length with h | rfl | h
  · rw [List.getElem?_append_left h]
    exact ⟨Or.inl, fun hy => hy.resolve_right fun he => Nat.ne_of_lt h he.1⟩
  · simp
  · have hold : xs[i]? = none := List.getElem?_eq_none (by omega)
    have hnew : (xs ++ [x])[i]? = none := List.getElem?_eq_none (by simp; omega)
    rw [hold, hnew]
    constructor
    · intro hy
      cases hy
    · rintro (hy | ⟨rfl, -⟩)
      · cases hy
      · omega

/-- The places are those of the metrics' names, and no other name has one. -/
def Consistent (r : Registry) : Prop :=
  ∀ name id, Entries.get? name r.places = some id ↔ r.names[id]? = some name

theorem length_names (r : Registry) : r.names.length = r.size := by simp [names, size]

theorem names_push (m : Metric) (r : Registry) : (r.push m).names = r.names ++ [m.name] := by
  simp [push, names]

theorem metrics_push (m : Metric) (r : Registry) : (r.push m).metrics = r.metrics ++ [m] := rfl

theorem getElem?_names {r : Registry} {id : Nat} {name : String} :
    r.names[id]? = some name ↔ ∃ m, r.metrics[id]? = some m ∧ m.name = name := by
  simp [names]

theorem consistent_empty : Consistent {} := by
  intro name id
  have hplaces : Entries.get? name ({} : Registry).places = none := rfl
  have hnames : ({} : Registry).names = [] := rfl
  simp [hplaces, hnames]

theorem Consistent.push {r : Registry} {m : Metric} (h : r.Consistent) (hm : m.name ∉ r.names) :
    (r.push m).Consistent := by
  intro name id
  rw [names_push, getElem?_concat_iff, length_names]
  by_cases hn : name = m.name
  · subst hn
    have hplace : Entries.get? m.name (r.push m).places = some r.size :=
      Entries.get?_put_self _ _ _
    have hold : ¬ r.names[id]? = some m.name := fun hid => hm (List.mem_of_getElem? hid)
    rw [hplace]
    simp [hold, eq_comm]
  · have hplace : Entries.get? name (r.push m).places = Entries.get? name r.places :=
      Entries.get?_put_of_ne hn _ _
    rw [hplace, h name id]
    simp [Ne.symm hn]

/-- Two metrics of one name would both be in its place. -/
theorem Consistent.nodup_names {r : Registry} (h : r.Consistent) : r.names.Nodup := by
  apply List.pairwise_iff_getElem.mpr
  intro i j hi hj hij heq
  have hplace_i := (h _ i).mpr (List.getElem?_eq_getElem hi)
  have hplace_j := (h _ j).mpr (List.getElem?_eq_getElem hj)
  rw [heq, hplace_j] at hplace_i
  have hsame : j = i := by simpa using hplace_i
  omega

theorem byName?_eq_none_iff {r : Registry} {name : String} :
    r.byName? name = none ↔ Entries.get? name r.places = none := by
  unfold byName?
  split <;> simp [*]

theorem byName?_eq_some_iff_place {r : Registry} {name : String} {id : Nat} {m : Metric} :
    r.byName? name = some (id, m) ↔
      Entries.get? name r.places = some id ∧ r.metrics[id]? = some m := by
  unfold byName?
  split
  · rename_i place hplace
    have hlt : place < r.metrics.length := r.place_lt _ (Entries.mem_of_get? hplace)
    constructor
    · intro hfound
      simp only [Option.some.injEq, Prod.mk.injEq] at hfound
      obtain ⟨rfl, rfl⟩ := hfound
      exact ⟨hplace, List.getElem?_eq_getElem hlt⟩
    · rintro ⟨hid, hm⟩
      obtain rfl : place = id := Option.some.inj (hplace.symm.trans hid)
      rw [List.getElem?_eq_getElem hlt] at hm
      simpa using hm
  · rename_i hplace
    simp [hplace]

/-- A look-up by name finds the metric that has the name, with its place. -/
theorem Consistent.byName?_eq_some_iff {r : Registry} (h : r.Consistent) {name : String} {id : Nat}
    {m : Metric} : r.byName? name = some (id, m) ↔ r.metrics[id]? = some m ∧ m.name = name := by
  rw [byName?_eq_some_iff_place, h name id, getElem?_names]
  constructor
  · rintro ⟨⟨m', hm', rfl⟩, hm⟩
    obtain rfl : m' = m := by simpa [hm'] using hm
    exact ⟨hm, rfl⟩
  · rintro ⟨hm, hname⟩
    exact ⟨⟨m, hm, hname⟩, hm⟩

theorem Consistent.byName?_eq_none_iff_names {r : Registry} (h : r.Consistent) {name : String} :
    r.byName? name = none ↔ name ∉ r.names := by
  constructor
  · intro hnone hmem
    obtain ⟨m, hm, rfl⟩ := List.mem_map.mp hmem
    obtain ⟨id, hid⟩ := List.getElem?_of_mem hm
    have hfound := h.byName?_eq_some_iff.mpr ⟨hid, rfl⟩
    rw [hnone] at hfound
    cases hfound
  · intro hfree
    cases hfound : r.byName? name with
    | none => rfl
    | some found =>
      obtain ⟨hid, rfl⟩ := h.byName?_eq_some_iff.mp hfound
      exact absurd (List.mem_map_of_mem (List.mem_of_getElem? hid)) hfree

theorem Consistent.lookup_eq_some_iff {r : Registry} (h : r.Consistent) {name : String}
    {m : Metric} : r.lookup name = some m ↔ m ∈ r.metrics ∧ m.name = name := by
  rw [lookup, Option.map_eq_some_iff]
  constructor
  · rintro ⟨⟨id, found⟩, hfound, rfl⟩
    obtain ⟨hid, hname⟩ := h.byName?_eq_some_iff.mp hfound
    exact ⟨List.mem_of_getElem? hid, hname⟩
  · intro hm
    obtain ⟨id, hid⟩ := List.getElem?_of_mem hm.1
    exact ⟨(id, m), h.byName?_eq_some_iff.mpr ⟨hid, hm.2⟩, rfl⟩

theorem byId?_eq_some_iff {r : Registry} {id : Int} {m : Metric} :
    r.byId? id = some m ↔ 0 ≤ id ∧ id < r.size ∧ r.metrics[id.toNat]? = some m := by
  unfold byId?
  split
  · rename_i hid
    constructor
    · intro hm
      have hlt := (List.getElem?_eq_some_iff.mp hm).1
      exact ⟨hid, by simp only [size]; omega, hm⟩
    · rintro ⟨-, -, hm⟩
      exact hm
  · rename_i hid
    simp [hid]

theorem contains_text (r : Registry) (name : String) :
    r.contains (.text name) = .ok (r.byName? name).isSome := by
  have hsame : (Entries.get? name r.places).isSome = (r.byName? name).isSome := by
    rw [Bool.eq_iff_iff, ← not_iff_not]
    simp [byName?_eq_none_iff]
  simp [contains, nameOf, Value.unhashable?, Value.text?, Except.map, hsame]

theorem entries_eq_zip (r : Registry) : r.entries = (List.range r.size).zip r.metrics := by
  rw [entries, size, List.zipIdx_eq_zip_range', List.range_eq_range']
  exact List.zip_swap _ _

/-- A metric whose name is free comes last, and no other look-up changes. -/
theorem register_of_free {r : Registry} {m : Metric} (h : r.Consistent) (hm : m.name ∉ r.names) :
    register m r = .ok r.size (r.push m) := by
  simp [register, h.byName?_eq_none_iff_names.mpr hm]

theorem register_of_taken {r : Registry} {m : Metric} (h : r.Consistent) (hm : m.name ∈ r.names) :
    ∃ existing ∈ r.metrics, existing.name = m.name ∧
      register m r = .error (.duplicateMetric existing) r := by
  cases hfound : r.byName? m.name with
  | none => exact absurd hm (h.byName?_eq_none_iff_names.mp hfound)
  | some found =>
    obtain ⟨hid, hname⟩ := h.byName?_eq_some_iff.mp hfound
    exact ⟨found.2, List.mem_of_getElem? hid, hname, by simp [register, hfound]⟩

/-- What one registration preserves: the registry is consistent and holds what was granted. -/
structure Holds (log : List (Metric × Except Fault Nat)) (r : Registry) : Prop where
  consistent : r.Consistent
  metrics : r.metrics = (granted log).map (·.1)

theorem Holds.after_register {log : List (Metric × Except Fault Nat)} {r : Registry}
    (h : Holds log r) (m : Metric) :
    Holds (log ++ [(m, (outcome (register m) r).1)]) (outcome (Registry.register m) r).2 := by
  by_cases hm : m.name ∈ r.names
  · obtain ⟨existing, -, -, hfail⟩ := register_of_taken h.consistent hm
    rw [outcome_of_error hfail]
    exact ⟨h.consistent, by rw [granted_append_error, h.metrics]⟩
  · rw [outcome_of_ok (register_of_free h.consistent hm)]
    refine ⟨h.consistent.push hm, ?_⟩
    rw [granted_append_ok, List.map_append, metrics_push, h.metrics]
    rfl

theorem holds_run (metrics : List Metric) :
    Holds (outcomes register metrics {}).1 (outcomes register metrics {}).2 :=
  outcomes_induction Holds (fun _ _ m h => h.after_register m) ⟨consistent_empty, rfl⟩ metrics

/-- A registry that has come of another one by further registrations. -/
structure Extends (r t : Registry) : Prop where
  consistent : t.Consistent
  metrics : r.metrics <+: t.metrics

theorem Extends.after_register {r t : Registry} (h : Extends r t) (m : Metric) :
    Extends r (outcome (Registry.register m) t).2 := by
  by_cases hm : m.name ∈ t.names
  · obtain ⟨existing, -, -, hfail⟩ := register_of_taken h.consistent hm
    rw [outcome_of_error hfail]
    exact h
  · rw [outcome_of_ok (register_of_free h.consistent hm)]
    exact ⟨h.consistent.push hm, h.metrics.trans (List.prefix_append _ _)⟩

theorem extends_run {r : Registry} (h : r.Consistent) (later : List Metric) :
    Extends r (outcomes register later r).2 :=
  outcomes_induction (fun _ => Extends r) (fun _ _ m h => h.after_register m)
    ⟨h, List.prefix_rfl⟩ later

theorem Extends.getElem? {r t : Registry} (h : Extends r t) {id : Nat} {m : Metric}
    (hm : r.metrics[id]? = some m) : t.metrics[id]? = some m := by
  obtain ⟨more, hmore⟩ := h.metrics
  rw [← hmore, List.getElem?_append_left (List.getElem?_eq_some_iff.mp hm).1]
  exact hm

theorem Extends.byName? {r t : Registry} (h : Extends r t) (hr : r.Consistent) {name : String}
    {found : Nat × Metric} (hf : r.byName? name = some found) : t.byName? name = some found := by
  obtain ⟨hid, hname⟩ := hr.byName?_eq_some_iff.mp hf
  exact h.consistent.byName?_eq_some_iff.mpr ⟨h.getElem? hid, hname⟩

theorem Extends.byId? {r t : Registry} (h : Extends r t) {id : Int} {m : Metric}
    (hf : r.byId? id = some m) : t.byId? id = some m := by
  obtain ⟨hle, hlt, hm⟩ := byId?_eq_some_iff.mp hf
  have hsize : r.size ≤ t.size := h.metrics.length_le
  exact byId?_eq_some_iff.mpr ⟨hle, by omega, h.getElem? hm⟩

/-- Later registrations do not hide a metric that was registered when its name was free. -/
theorem lookup_after_push {r : Registry} {m : Metric} (hr : r.Consistent)
    (free : m.name ∉ r.names) (later : List Metric) :
    (outcomes register later (r.push m)).2.lookup m.name = some m := by
  have hlater := extends_run (hr.push free) later
  refine hlater.consistent.lookup_eq_some_iff.mpr ⟨hlater.metrics.subset ?_, rfl⟩
  rw [metrics_push]
  exact List.mem_concat_self

/-- All look-ups of a registry tell the same about the metrics that were granted, whatever was
refused in between. A name is refused exactly if it is taken, and nothing changes then; what a
look-up has found it finds ever after. -/
theorem lookups_of_run (metrics : List Metric) :
    let run := outcomes register metrics {}
    let r := run.2
    r.metrics = (granted run.1).map (·.1) ∧
    r.names.Nodup ∧
    (∀ name id m, r.byName? name = some (id, m) ↔ r.metrics[id]? = some m ∧ m.name = name) ∧
    (∀ (id : Int) m, r.byId? id = some m ↔
      0 ≤ id ∧ id < r.size ∧ r.metrics[id.toNat]? = some m) ∧
    (∀ name, r.contains (.text name) = .ok (r.byName? name).isSome) ∧
    r.entries = (List.range r.size).zip r.metrics ∧
    (∀ m, (m.name ∉ r.names ∧ register m r = .ok r.size (r.push m) ∧
        (r.push m).metrics = r.metrics ++ [m]) ∨
      ∃ existing ∈ r.metrics, existing.name = m.name ∧
        register m r = .error (.duplicateMetric existing) r ∧
        (Fault.duplicateMetric existing).kind = "ValueError" ∧
        (Fault.duplicateMetric existing).message =
          "Duplicate metric name: '" ++ m.name ++ "'. Already registered as " ++
            existing.display) ∧
    ∀ later, let t := (outcomes register later r).2
      (∀ name found, r.byName? name = some found → t.byName? name = some found) ∧
      ∀ id m, r.byId? id = some m → t.byId? id = some m := by
  intro run r
  obtain ⟨hr, hmetrics⟩ := holds_run metrics
  refine ⟨hmetrics, hr.nodup_names, fun _ _ _ => hr.byName?_eq_some_iff,
    fun _ _ => byId?_eq_some_iff, contains_text r, entries_eq_zip r, ?_, ?_⟩
  · intro m
    by_cases hm : m.name ∈ r.names
    · obtain ⟨existing, hmem, hname, hfail⟩ := register_of_taken hr hm
      exact Or.inr ⟨existing, hmem, hname, hfail, rfl, by rw [← hname]; rfl⟩
    · exact Or.inl ⟨hm, register_of_free hr hm, metrics_push m r⟩
  · intro later
    have ht := extends_run hr later
    exact ⟨fun _ _ => ht.byName? hr, fun _ _ => ht.byId?⟩

end Preflight.Registry
