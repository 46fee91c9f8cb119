import Preflight.Fault

/-! The names of the registered pipeline elements, by kind and in the order of registration. -/
namespace Preflight

structure Pipeline where
  sources : List ElementName := []
  transforms : List ElementName := []
  outputs : List ElementName := []
deriving DecidableEq, Repr, Inhabited

namespace Pipeline

def names (p : Pipeline) : ElementKind → List ElementName
  | .source => p.sources
  | .transform => p.transforms
  | .output => p.outputs

/-- A name at the end of those of its kind. -/
def push (kind : ElementKind) (n : ElementName) (p : Pipeline) : Pipeline :=
  match kind with
  | .source => { p with sources := p.sources ++ [n] }
  | .transform => { p with transforms := p.transforms ++ [n] }
  | .output => { p with outputs := p.outputs ++ [n] }

/-- Adds a name that its kind does not have yet. -/
def add (kind : ElementKind) (n : ElementName) : EStateM Fault Pipeline Unit := fun p =>
  if n ∈ p.names kind then .error (.duplicateElement ⟨kind, n⟩) p else .ok () (p.push kind n)

theorem names_push_self (kind : ElementKind) (n : ElementName) (p : Pipeline) :
    (p.push kind n).names kind = p.names kind ++ [n] := by
  cases kind <;> rfl

theorem names_push_of_ne {kind other : ElementKind} (h : other ≠ kind) (n : ElementName)
    (p : Pipeline) : (p.push kind n).names other = p.names other := by
  cases kind <;> cases other <;> simp_all [push, names]

end Pipeline
end Preflight
