import Preflight.Proofs.Bootstrap.Deeds

/-! Plugins that are stopped one after the other, as a journal tells it. One that fails is noted and
the next is asked; only an interrupt ends the stopping, and those after it are not asked at all. -/
namespace Preflight
variable {β π γ σ : Type}

/-- The plugin whose stopping failed. -/
def Entry.failedStop? : Entry β π γ σ → Option π
  | stopped p (.error _) => some p
  | _ => none

namespace Journal

def failedStops (j : Journal β π γ σ) : List π := j.filterMap (·.failedStop?)

theorem failedStops_append_of_no_stops {i : Journal β π γ σ} (h : i.stops = [])
    (j : Journal β π γ σ) : failedStops (i ++ j) = failedStops j := by
  have hfailed : i.filterMap (·.failedStop?) = [] := by
    refine List.filterMap_eq_nil_iff.mpr fun e he => ?_
    cases e with
    | stopped p r => cases List.filterMap_eq_nil_iff.mp h _ he
    | _ => rfl
  rw [failedStops, List.filterMap_append, hfailed]
  rfl

/-- How a journal reads when plugins are stopped and `r` is what that comes to. -/
inductive Stopping (name : π → String) :
    List π → Except Fault (List String) → Journal β π γ σ → Prop where
  | nil : Stopping name [] (.ok []) []
  | clean {p : π} {rest : List π} {r : Except Fault (List String)} {j : Journal β π γ σ} (u : Unit)
      (next : Stopping name rest r j) : Stopping name (p :: rest) r (.stopped p (.ok u) :: j)
  | failed {p : π} {rest : List π} {r : Except Fault (List String)} {j : Journal β π γ σ}
      {f : Fault} {s : σ} (ordinary : f.isInterrupt = false) (next : Stopping name rest r j) :
      Stopping name (p :: rest) (r.map (name p :: ·))
        (.stopped p (.error f) :: .logged (.stopFailed (name p) f) s :: j)
  | interrupted {p : π} {rest : List π} {f : Fault} (interrupt : f.isInterrupt = true) :
      Stopping name (p :: rest) (.error f) [.stopped p (.error f)]

namespace Stopping
variable {name : π → String} {plugins : List π} {r : Except Fault (List String)}
  {j : Journal β π γ σ} {f : Fault} {failures : List String}

theorem deeds_eq_nil (h : Stopping name plugins r j) : deeds j = [] := by
  induction h with
  | nil => rfl
  | clean u next ih => exact ih
  | failed ordinary next ih => exact ih
  | interrupted interrupt => rfl

theorem stops_prefix (h : Stopping name plugins r j) : stops j <+: plugins := by
  induction h with
  | nil => exact List.prefix_rfl
  | clean u next ih => exact (List.prefix_cons_inj _).mpr ih
  | failed ordinary next ih => exact (List.prefix_cons_inj _).mpr ih
  | interrupted interrupt => exact ⟨_, rfl⟩

/-- Without an interrupt all are asked to stop, and those that failed are named in that order. -/
theorem of_ok (h : Stopping name plugins (.ok failures) j) :
    stops j = plugins ∧ failures = (failedStops j).map name := by
  generalize hr : (Except.ok failures : Except Fault (List String)) = r at h
  induction h generalizing failures with
  | nil =>
    cases hr
    exact ⟨rfl, rfl⟩
  | clean u next ih => exact ⟨congrArg _ (ih hr).1, (ih hr).2⟩
  | @failed p rest r j f s ordinary next ih =>
    cases r with
    | error g => cases hr
    | ok others =>
      obtain ⟨hstops, hothers⟩ := ih rfl
      cases hr
      exact ⟨congrArg (p :: ·) hstops, congrArg (name p :: ·) hothers⟩
  | interrupted interrupt => cases hr

/-- The plugin that was interrupted is the last one that was asked. -/
theorem of_error (h : Stopping name plugins (.error f) j) :
    f.isInterrupt = true ∧ ∃ before p left i, plugins = before ++ p :: left ∧
      j = i ++ [.stopped p (.error f)] ∧ stops i = before := by
  generalize hr : (Except.error f : Except Fault (List String)) = r at h
  induction h with
  | nil => cases hr
  | @clean p rest r j u next ih =>
    obtain ⟨hf, before, q, left, i, rfl, rfl, hstops⟩ := ih hr
    exact ⟨hf, p :: before, q, left, .stopped p (.ok u) :: i, rfl, rfl, congrArg (p :: ·) hstops⟩
  | @failed p rest r j g s ordinary next ih =>
    cases r with
    | ok others => cases hr
    | error g' =>
      cases hr
      obtain ⟨hf, before, q, left, i, rfl, rfl, hstops⟩ := ih rfl
      exact ⟨hf, p :: before, q, left,
        .stopped p (.error g) :: .logged (.stopFailed (name p) g) s :: i, rfl, rfl,
        congrArg (p :: ·) hstops⟩
  | @interrupted p rest g interrupt =>
    cases hr
    exact ⟨interrupt, [], p, rest, [], rfl, rfl, rfl⟩

theorem fault_mem (h : Stopping name plugins (.error f) j) : f ∈ faults j := by
  obtain ⟨-, -, p, -, i, -, rfl, -⟩ := h.of_error
  exact List.mem_filterMap.mpr ⟨.stopped p (.error f), by simp, rfl⟩

end Stopping
end Journal

namespace Lifecycle
open Journal
variable (L : Lifecycle β π γ σ)

theorem journaled_stop_of_ok {p : π} {u : Unit} {s t : σ} (h : L.stop p s = .ok u t)
    (past : Journal β π γ σ) :
    L.journaled.stop p (s, past) = .ok u (t, past ++ [.stopped p (.ok u)]) := by
  simp [journaled, journaling, h]

theorem journaled_stop_of_error {p : π} {f : Fault} {s t : σ} (h : L.stop p s = .error f t)
    (past : Journal β π γ σ) :
    L.journaled.stop p (s, past) = .error f (t, past ++ [.stopped p (.error f)]) := by
  simp [journaled, journaling, h]

theorem tells_stopEach (plugins : List π) (s : σ) :
    Tells (L.stopEach plugins) (L.journaled.stopEach plugins) s fun r _ j =>
      Stopping L.name plugins r j := by
  induction plugins generalizing s with
  | nil => exact .pure .nil
  | cons p rest ih =>
    cases hp : L.stop p s with
    | ok u t =>
      refine Tells.after (L.stopEach_cons_of_ok hp rest)
        (fun past => L.journaled.stopEach_cons_of_ok (L.journaled_stop_of_ok hp past) rest) ?_
      exact (ih t).mono fun r v j hj => .clean u hj
    | error f t =>
      cases hf : f.isInterrupt with
      | true =>
        intro past
        have hx :=
          L.journaled.stopEach_cons_of_interrupt (L.journaled_stop_of_error hp past) hf rest
        exact ⟨_, t, _, outcome_of_error (L.stopEach_cons_of_interrupt hp hf rest),
          outcome_of_error hx, .interrupted hf⟩
      | false =>
        have hx (past : Journal β π γ σ) : L.journaled.stopEach (p :: rest) (s, past) =
            ((L.name p :: ·) <$> L.journaled.stopEach rest) (L.log (.stopFailed (L.name p) f) t,
              past ++ [.stopped p (.error f), .logged (.stopFailed (L.name p) f) t]) := by
          rw [L.journaled.stopEach_cons_of_fault (L.journaled_stop_of_error hp past) hf]
          simp [journaled]
        refine Tells.after (L.stopEach_cons_of_fault hp hf rest) hx ?_
        rw [map_eq_pure_bind, map_eq_pure_bind]
        refine Tells.bind (ih _) ?_ ?_
        · intro failures u j hj
          refine Tells.pure ?_
          rw [List.append_nil]
          exact .failed hf hj
        · intro g u j hj
          exact .failed hf hj

end Lifecycle
end Preflight
