import Preflight.Proofs.Outcomes

/-! Two runs side by side. Two programs are run from states that are related; what they come to is
told together: both return or both end in a fault, and values, faults and states are related. -/
namespace Preflight
variable {ε ε' σ τ α α' β β' : Type}

/-- Two runs have both returned, or both failed. -/
inductive Matched (P : α → σ → α' → τ → Prop) (E : ε → σ → ε' → τ → Prop) :
    Except ε α × σ → Except ε' α' × τ → Prop where
  | ok {a : α} {s : σ} {a' : α'} {t : τ} (h : P a s a' t) : Matched P E (.ok a, s) (.ok a', t)
  | error {e : ε} {s : σ} {e' : ε'} {t : τ} (h : E e s e' t) :
      Matched P E (.error e, s) (.error e', t)

theorem Matched.mono {P Q : α → σ → α' → τ → Prop} {E F : ε → σ → ε' → τ → Prop}
    {x : Except ε α × σ} {y : Except ε' α' × τ} (h : Matched P E x y)
    (hok : ∀ a s a' t, P a s a' t → Q a s a' t) (herror : ∀ e s e' t, E e s e' t → F e s e' t) :
    Matched Q F x y := by
  cases h with
  | ok h => exact .ok (hok _ _ _ _ h)
  | error h => exact .error (herror _ _ _ _ h)

/-- Two runs that come to the same. -/
theorem Matched.of_same {P : α → σ → α → τ → Prop} {E : ε → σ → ε → τ → Prop}
    {x : Except ε α × σ} {y : Except ε α × τ} (h : x.1 = y.1)
    (hok : ∀ a, x.1 = .ok a → P a x.2 a y.2) (herror : ∀ e, x.1 = .error e → E e x.2 e y.2) :
    Matched P E x y := by
  obtain ⟨r, s⟩ := x
  obtain ⟨r', t⟩ := y
  obtain rfl : r = r' := h
  cases r with
  | ok a => exact .ok (hok a rfl)
  | error e => exact .error (herror e rfl)

/-- From states that `R` relates, `x` and `y` return as `P` says, or fail as `E` says. -/
def Pairs (R : σ → τ → Prop) (x : EStateM ε σ α) (y : EStateM ε' τ α')
    (P : α → σ → α' → τ → Prop) (E : ε → σ → ε' → τ → Prop) : Prop :=
  ∀ s t, R s t → Matched P E (outcome x s) (outcome y t)

/-- Both runs come to the same, and leave their states related. -/
abbrev Alongside (R : σ → τ → Prop) (x : EStateM ε σ α) (y : EStateM ε τ α) : Prop :=
  Pairs R x y (fun a s a' t => a = a' ∧ R s t) (fun e s e' t => e = e' ∧ R s t)

namespace Pairs
variable {R : σ → τ → Prop} {x : EStateM ε σ α} {y : EStateM ε' τ α'}
  {P Q : α → σ → α' → τ → Prop} {E F : ε → σ → ε' → τ → Prop}

theorem mono (h : Pairs R x y P E) (hok : ∀ a s a' t, P a s a' t → Q a s a' t)
    (herror : ∀ e s e' t, E e s e' t → F e s e' t) : Pairs R x y Q F :=
  fun s t hR => (h s t hR).mono hok herror

theorem pure {a : α} {a' : α'} (h : ∀ s t, R s t → P a s a' t) :
    Pairs R (Pure.pure a : EStateM ε σ α) (Pure.pure a' : EStateM ε' τ α') P E :=
  fun s t hR => .ok (h s t hR)

theorem throw {e : ε} {e' : ε'} (h : ∀ s t, R s t → E e s e' t) :
    Pairs R (throw e : EStateM ε σ α) (throw e' : EStateM ε' τ α') P E :=
  fun s t hR => .error (h s t hR)

theorem bind {f : α → EStateM ε σ β} {g : α' → EStateM ε' τ β'} {S : β → σ → β' → τ → Prop}
    (first : Pairs R x y P E)
    (next : ∀ a a', Pairs (fun s t => P a s a' t) (f a) (g a') S E) :
    Pairs R (x >>= f) (y >>= g) S E := by
  intro s t hR
  have hxy := first s t hR
  generalize hx : outcome x s = rs at hxy
  generalize hy : outcome y t = rt at hxy
  cases hxy with
  | ok h =>
    rw [outcome_bind_of_ok hx, outcome_bind_of_ok hy]
    exact next _ _ _ _ h
  | error h =>
    rw [outcome_bind_of_error hx, outcome_bind_of_error hy]
    exact .error h

theorem get_bind {f : σ → EStateM ε σ α} {g : τ → EStateM ε' τ α'}
    (next : ∀ s t, R s t → Pairs (fun u v => u = s ∧ v = t) (f s) (g t) P E) :
    Pairs R (get >>= f) (get >>= g) P E :=
  fun s t hR => next s t hR s t ⟨rfl, rfl⟩

theorem modify_bind {f : σ → σ} {g : τ → τ} {S : σ → τ → Prop} (h : ∀ s t, R s t → S (f s) (g t))
    (next : Pairs S x y P E) :
    Pairs R (modify f >>= fun _ => x) (modify g >>= fun _ => y) P E :=
  fun s t hR => next _ _ (h s t hR)

theorem ofExcept (r : Except ε α) :
    Alongside R (ofExcept r : EStateM ε σ α) (ofExcept r : EStateM ε τ α) := by
  intro s t hR
  cases r with
  | ok a => exact .ok ⟨rfl, hR⟩
  | error e => exact .error ⟨rfl, hR⟩

/-- Where both runs go the same way, so do programs that go on from there in the same way. -/
theorem bind_same {x : EStateM ε σ α} {y : EStateM ε τ α} {f : α → EStateM ε σ β}
    {g : α → EStateM ε τ β} (first : Alongside R x y) (next : ∀ a, Alongside R (f a) (g a)) :
    Alongside R (x >>= f) (y >>= g) := by
  refine bind first ?_
  rintro a a' s t ⟨rfl, hR⟩
  exact next a s t hR

end Pairs
end Preflight
