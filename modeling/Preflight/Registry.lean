import Preflight.Coercion
import Preflight.Entries
import Preflight.Outcome

/-! The registry of metrics. A metric's id is its place in the order of registration; a name can be
registered once. The places of the names are kept beside the metrics, so that a name is looked up
without going through these. -/
namespace Preflight

structure Registry where
  metrics : List Metric
  places : List (String × Nat)
  place_lt : ∀ e ∈ places, e.2 < metrics.length
deriving DecidableEq, Repr

namespace Registry

def empty : Registry where
  metrics := []
  places := []
  place_lt e he := by cases he

instance : EmptyCollection Registry := ⟨empty⟩

instance : Inhabited Registry := ⟨{}⟩

def size (r : Registry) : Nat := r.metrics.length

def names (r : Registry) : List String := r.metrics.map (·.name)

/-- Ids with their metrics, in the order of registration. -/
def entries (r : Registry) : List (Nat × Metric) := r.metrics.zipIdx.map fun e => (e.2, e.1)

def byName? (name : String) (r : Registry) : Option (Nat × Metric) :=
  match h : Entries.get? name r.places with
  | some id => some (id, r.metrics.get ⟨id, r.place_lt _ (Entries.mem_of_get? h)⟩)
  | none => none

def byId? (id : Int) (r : Registry) : Option Metric :=
  if 0 ≤ id then r.metrics[id.toNat]? else none

/-- The metric registered under a name, its id left aside. -/
def lookup (r : Registry) (name : String) : Option Metric := (r.byName? name).map (·.2)

/-- The name that a value is, if it is one. A value without a hash cannot be asked for. -/
def nameOf (v : Value) : Except Fault (Option String) :=
  match v.unhashable? with
  | some typeName => .error (.unhashable typeName)
  | none => .ok v.text?

/-- What is registered under a value. -/
def find (r : Registry) (v : Value) : Except Fault (Option (Nat × Metric)) :=
  (nameOf v).map (·.bind (byName? · r))

/-- The metric that has a value as its id. A flag counts as zero or one. Another number is nobody's
id, and a fault where there are ids on either side of it. -/
def metricAt (r : Registry) : Value → Except Fault (Option Metric)
  | .int n => .ok (r.byId? n)
  | .bool b => .ok (r.byId? b.toNat)
  | .float x =>
    match x.floor? with
    | some n => if 0 ≤ n ∧ n < r.size then .error (.notIndex "float") else .ok none
    | none => .ok none
  | v => .error (.incomparable "<=" "int" v.typeName)

/-- Whether a value is a registered name. -/
def contains (r : Registry) (v : Value) : Except Fault Bool :=
  (nameOf v).map (·.any fun name => (Entries.get? name r.places).isSome)

/-- A metric in the next place. -/
def push (m : Metric) (r : Registry) : Registry where
  metrics := r.metrics ++ [m]
  places := Entries.put m.name r.size r.places
  place_lt e he := by
    rcases Entries.mem_or_eq_of_mem_put he with h | h
    · exact Nat.lt_of_lt_of_le (r.place_lt e h) (by simp)
    · simp [h, size]

/-- A metric comes last, unless its name is taken. The answer is its id. -/
def register (m : Metric) : EStateM Fault Registry Nat := fun r =>
  match r.byName? m.name with
  | some (_, existing) => .error (.duplicateMetric existing) r
  | none => .ok r.size (r.push m)

/-- The registry of metrics registered one after the other. -/
def ofList (metrics : List Metric) : Except Fault Registry :=
  match metrics.forM (discard <| register ·) {} with
  | .ok _ r => .ok r
  | .error f _ => .error f

theorem entries_length (r : Registry) : r.entries.length = r.size := by
  simp [entries, size]

end Registry
end Preflight
