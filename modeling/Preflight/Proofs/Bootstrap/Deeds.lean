import Preflight.Proofs.Bootstrap.Journal

/-! What a journal tells of a plan. The deeds of a plan are done one after the other, up to the end
or up to one that ends in a fault; parts of a plan that follow each other make up one plan. -/
namespace Preflight
variable {β π γ σ ε α : Type}

/-- What a bootstrap does when nothing goes wrong. `called` are the listeners of a checkpoint, in
the order of their calls. -/
def planned (plan : List β) (plugins : List π) (called : Checkpoint → List γ) :
    List (Deed β π γ) :=
  let notifying (c : Checkpoint) := (called c).map (Deed.notify c)
  (plan.map .construct ++ notifying .pluginsLoaded) ++
    (plugins.map .start ++ notifying .pluginsStarted) ++ notifying .operationBegins

namespace Journal

/-- No fault asks the process to end. -/
def Calm (j : Journal β π γ σ) : Prop := ∀ f ∈ faults j, f.isInterrupt = false

instance (j : Journal β π γ σ) : Decidable (Calm j) :=
  inferInstanceAs (Decidable (∀ f ∈ faults j, f.isInterrupt = false))

/-- The deeds were done one after the other, and none ended in a fault. -/
structure Done (ds : List (Deed β π γ)) (j : Journal β π γ σ) : Prop where
  deeds : j.deeds = ds
  faults : j.faults = []
  stops : j.stops = []

/-- The deeds were done up to one that ended in a fault, which was the last thing to happen. -/
structure Broken (ds : List (Deed β π γ)) (f : Fault) (j : Journal β π γ σ) : Prop where
  deeds : j.deeds <+: ds
  stops : j.stops = []
  last : ∃ before e, j = before ++ [e] ∧ faults before = [] ∧ e.fault? = some f ∧ e.deed?.isSome

def Carried (ds : List (Deed β π γ)) (r : Except Fault α) (j : Journal β π γ σ) : Prop :=
  match r with
  | .ok _ => Done ds j
  | .error f => Broken ds f j

variable {ds es : List (Deed β π γ)} {i j : Journal β π γ σ} {f : Fault}

theorem exists_construct_mem_deeds {p : π} (h : p ∈ made j) : ∃ b, Deed.construct b ∈ deeds j := by
  obtain ⟨e, he, hp⟩ := List.mem_filterMap.mp h
  cases e with
  | constructed b r => exact ⟨b, List.mem_filterMap.mpr ⟨_, he, rfl⟩⟩
  | _ => cases hp

theorem start_mem_deeds {p : π} (h : p ∈ running j) : Deed.start p ∈ deeds j := by
  obtain ⟨e, he, hp⟩ := List.mem_filterMap.mp h
  cases e with
  | started q r =>
    cases r with
    | ok u =>
      cases hp
      exact List.mem_filterMap.mpr ⟨_, he, rfl⟩
    | error f => cases hp
  | _ => cases hp

theorem made_eq_nil (h : deeds j <+: ds) (hds : ∀ b, Deed.construct b ∉ ds) : made j = [] := by
  refine List.eq_nil_iff_forall_not_mem.mpr fun p hp => ?_
  obtain ⟨b, hb⟩ := exists_construct_mem_deeds hp
  exact hds b (h.subset hb)

theorem running_eq_nil (h : deeds j <+: ds) (hds : ∀ p, Deed.start p ∉ ds) : running j = [] :=
  List.eq_nil_iff_forall_not_mem.mpr fun p hp => hds p (h.subset (start_mem_deeds hp))

theorem made_append_eq_left (h : deeds j <+: ds) (hds : ∀ b, Deed.construct b ∉ ds) :
    made (i ++ j) = made i := by
  rw [made_append, made_eq_nil h hds, List.append_nil]

theorem running_append_eq_left (h : deeds j <+: ds) (hds : ∀ p, Deed.start p ∉ ds) :
    running (i ++ j) = running i := by
  rw [running_append, running_eq_nil h hds, List.append_nil]

theorem done_nil : Done [] ([] : Journal β π γ σ) := ⟨rfl, rfl, rfl⟩

theorem done_logged (e : Log.Event) (s : σ) :
    Done [] ([.logged e s] : Journal β π γ σ) := ⟨rfl, rfl, rfl⟩

theorem Done.append (h : Done ds i) (h' : Done es j) : Done (ds ++ es) (i ++ j) :=
  ⟨by rw [deeds_append, h.deeds, h'.deeds], by rw [faults_append, h.faults, h'.faults]; rfl,
    by rw [stops_append, h.stops, h'.stops]; rfl⟩

theorem Done.append_broken (h : Done ds i) (h' : Broken es f j) :
    Broken (ds ++ es) f (i ++ j) := by
  obtain ⟨before, e, rfl, hbefore, hf, hd⟩ := h'.last
  refine ⟨?_, ?_, ⟨i ++ before, e, by simp, ?_, hf, hd⟩⟩
  · rw [deeds_append, h.deeds]
    exact List.prefix_append_right_inj ds |>.mpr h'.deeds
  · rw [stops_append, h.stops, h'.stops]
    rfl
  · rw [faults_append, h.faults, hbefore]
    rfl

theorem Broken.append (h : Broken ds f j) (es : List (Deed β π γ)) : Broken (ds ++ es) f j :=
  ⟨h.deeds.trans (List.prefix_append ds es), h.stops, h.last⟩

theorem Broken.fault_mem (h : Broken ds f j) : f ∈ faults j := by
  obtain ⟨before, e, rfl, -, hf, -⟩ := h.last
  exact List.mem_filterMap.mpr ⟨e, by simp, hf⟩

theorem Done.append_carried {r : Except Fault α} (h : Done ds i) (h' : Carried es r j) :
    Carried (ds ++ es) r (i ++ j) := by
  cases r with
  | ok a => exact h.append h'
  | error f => exact h.append_broken h'

theorem Carried.deeds_within {r : Except Fault α} (h : Carried ds r j) : deeds j <+: ds := by
  cases r with
  | ok a => exact (Done.deeds h).symm ▸ List.prefix_rfl
  | error f => exact Broken.deeds h

/-- A single call is done or is where it breaks off. -/
theorem carried_entry {e : Entry β π γ σ} {d : Deed β π γ} {r : Except Fault α}
    (hd : e.deed? = some d) (hf : e.fault? = match r with
      | .ok _ => none
      | .error f => some f) (hstop : e.stopped? = none) : Carried [d] r [e] := by
  have hdeeds : deeds [e] = [d] := by simp [deeds, hd]
  have hstops : stops [e] = [] := by simp [stops, hstop]
  cases r with
  | ok a => exact ⟨hdeeds, by simp [faults, hf], hstops⟩
  | error f =>
    exact ⟨hdeeds ▸ List.prefix_rfl, hstops, [], e, rfl, rfl, hf, by simp [hd]⟩

/-- How a journal reads when `ds` was planned and `r` is what the launch came to. -/
def Lived (ds : List (Deed β π γ)) (r : Except Fault (Agent π)) (j : Journal β π γ σ) : Prop :=
  match r with
  | .ok agent => Done ds j ∧ agent.plugins = made j ∧ agent.running = true
  | .error f => deeds j <+: ds ∧ ∃ before e after, j = before ++ e :: after ∧
      -- Up to `e` there is no fault, and what follows it is the stopping.
      faults before = [] ∧ stops before = [] ∧ e.deed?.isSome ∧ e.fault? = some f ∧
      deeds after = [] ∧ stops after = (running before).reverse

/-- What follows the fault is the stopping. -/
theorem Broken.lived (h : Broken ds f i) (hdeeds : j.deeds = [])
    (hstops : j.stops = i.running.reverse) : Lived ds (.error f) (i ++ j) := by
  obtain ⟨before, e, rfl, hfaults, hf, hd⟩ := h.last
  have hbefore : before.stops = [] := by
    have hstops' := h.stops
    rw [stops_append] at hstops'
    exact (List.append_eq_nil_iff.mp hstops').1
  have hrun : running (before ++ [e]) = running before := by
    simp [running, Entry.running?_of_fault hf]
  refine ⟨?_, before, e, j, ?_, hfaults, hbefore, hd, hf, hdeeds, ?_⟩
  · rw [deeds_append, hdeeds, List.append_nil]
    exact h.deeds
  · rw [List.append_assoc]
    rfl
  · rw [hstops, hrun]

section Phases
variable {started : List π}

/-- A part of a bootstrap, begun when the plugins in `started` had started: its deeds were done,
or they broke off and the setback tells which plugins have started by then. -/
def Phase (started : List π) (ds : List (Deed β π γ)) (r : Except (Setback π) α)
    (j : Journal β π γ σ) : Prop :=
  match r with
  | .ok _ => Done ds j
  | .error setback => Broken ds setback.fault j ∧ setback.started = started ++ running j

theorem Phase.deeds_within {r : Except (Setback π) α} (h : Phase started ds r j) :
    deeds j <+: ds := by
  cases r with
  | ok a => exact (Done.deeds h).symm ▸ List.prefix_rfl
  | error setback => exact h.1.deeds

theorem Done.phase {r : Except (Setback π) α} (hi : Done ds i)
    (hj : Phase (started ++ running i) es r j) : Phase started (ds ++ es) r (i ++ j) := by
  cases r with
  | ok a => exact hi.append hj
  | error setback => exact ⟨hi.append_broken hj.1, by rw [hj.2, running_append, List.append_assoc]⟩

theorem Phase.stuck {δ : Type} {setback : Setback π}
    (h : Phase started ds (.error setback : Except (Setback π) α) j)
    (es : List (Deed β π γ)) : Phase started (ds ++ es) (.error setback : Except _ δ) j :=
  ⟨h.1.append es, h.2⟩

theorem Phase.logged {r : Except (Setback π) α} (h : Phase started ds r j) (e : Log.Event)
    (s : σ) : Phase started ds r ([.logged e s] ++ j) := by
  refine Done.phase (done_logged e s) ?_
  have hrun : running ([.logged e s] : Journal β π γ σ) = [] := rfl
  rwa [hrun, List.append_nil]

/-- What breaks off a part is what ends its stage, as long as no plugin starts there. -/
theorem Phase.of_carried {r : Except Fault α} {stage : Stage} (h : Carried ds r j)
    (hrun : running j = []) :
    Phase started ds (r.mapError fun fault => ⟨fault, stage, started⟩) j := by
  cases r with
  | ok a => exact h
  | error f => exact ⟨h, by rw [hrun, List.append_nil]⟩

end Phases
end Journal
end Preflight
