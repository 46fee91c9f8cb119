import Preflight.Fault

/-! Who listens to a builder's checkpoints, and in which order the listeners are called. -/
namespace Preflight

/-- A wish to be called before or after all who have no such wish. -/
inductive Priority where
  | first | normal | last
deriving DecidableEq, Repr, Inhabited

structure Handler (γ : Type) where
  checkpoint : Checkpoint
  priority : Priority := .normal
  listener : γ
deriving Repr

def Handler.map {γ δ : Type} (f : γ → δ) (h : Handler γ) : Handler δ :=
  { h with listener := f h.listener }

/-- What was registered at once. Only an observer object can be recognised when it comes again. -/
structure Registration (γ : Type) where
  observer : Option Nat := none
  handlers : List (Handler γ)
deriving Repr

structure Audience (γ : Type) where
  /-- Oldest first. -/
  registrations : List (Registration γ) := []
deriving Repr, Inhabited

namespace Audience
variable {γ : Type}

def observers (a : Audience γ) : List Nat := a.registrations.filterMap (·.observer)

def register (r : Registration γ) (a : Audience γ) : Except Fault (Audience γ) :=
  match r.observer with
  | some o =>
    if o ∈ a.observers then .error .alreadyListening else .ok ⟨a.registrations ++ [r]⟩
  | none => .ok ⟨a.registrations ++ [r]⟩

/-- A listener that is no observer object, so that it can be registered again and again. -/
def listen (c : Checkpoint) (listener : γ) (a : Audience γ) : Audience γ :=
  ⟨a.registrations ++ [⟨none, [{ checkpoint := c, listener }]⟩]⟩

/-- The handlers of a checkpoint, oldest first. -/
def handlers (c : Checkpoint) (a : Audience γ) : List (Handler γ) :=
  (a.registrations.flatMap (·.handlers)).filter (·.checkpoint = c)

theorem handlers_listen_self (c : Checkpoint) (l : γ) (a : Audience γ) :
    (a.listen c l).handlers c = a.handlers c ++ [{ checkpoint := c, listener := l }] := by
  simp [handlers, listen]

theorem handlers_listen_of_ne {c d : Checkpoint} (h : d ≠ c) (l : γ) (a : Audience γ) :
    (a.listen c l).handlers d = a.handlers d := by
  simp [handlers, listen, Ne.symm h]

theorem observers_listen (c : Checkpoint) (l : γ) (a : Audience γ) :
    (a.listen c l).observers = a.observers := by
  simp [observers, listen]

def ofPriority (p : Priority) (hs : List (Handler γ)) : List γ :=
  (hs.filter (·.priority = p)).map (·.listener)

/-- The newest is called first, save that those who asked to be last are called oldest first. -/
def callOrder (c : Checkpoint) (a : Audience γ) : List γ :=
  let hs := a.handlers c
  (ofPriority .first hs).reverse ++ (ofPriority .normal hs).reverse ++ ofPriority .last hs

theorem ofPriority_self {p : Priority} {hs : List (Handler γ)} (h : ∀ x ∈ hs, x.priority = p) :
    ofPriority p hs = hs.map (·.listener) := by
  have hfilter : hs.filter (·.priority = p) = hs :=
    List.filter_eq_self.mpr fun x hx => decide_eq_true (h x hx)
  rw [ofPriority, hfilter]

theorem ofPriority_of_ne {p q : Priority} {hs : List (Handler γ)}
    (h : ∀ x ∈ hs, x.priority = p) (hpq : p ≠ q) : ofPriority q hs = [] := by
  have hfilter : hs.filter (·.priority = q) = [] :=
    List.filter_eq_nil_iff.mpr fun x hx => by simp [h x hx, hpq]
  rw [ofPriority, hfilter, List.map_nil]

/-- Without wishes the newest is called first. -/
theorem callOrder_of_normal {c : Checkpoint} {a : Audience γ}
    (h : ∀ x ∈ a.handlers c, x.priority = .normal) :
    a.callOrder c = ((a.handlers c).map (·.listener)).reverse := by
  simp [callOrder, ofPriority_self h, ofPriority_of_ne h]

end Audience
end Preflight
