import Preflight.Proofs.Bootstrap.Notices

/-! What is reported of a bootstrap. Each checkpoint is reported when it is entered, with the number
of those who listen to it. A fault is reported once, under the stage in which it arose, before the
plugins are stopped; of these, each that cannot be stopped is reported in its turn. -/
namespace Preflight
variable {β π γ σ ε α : Type} {c : Checkpoint}

/-- The event goes by the word. -/
def Log.Event.isNamed (word : String) (e : Log.Event) : Bool :=
  match e.message with
  | .text message => message == word
  | _ => false

/-- The checkpoints that a bootstrap has entered when it is in a stage. -/
def Stage.entered : Stage → List Checkpoint
  | constructing => []
  | starting | notifying .pluginsLoaded => [.pluginsLoaded]
  | notifying .pluginsStarted => [.pluginsLoaded, .pluginsStarted]
  | notifying .operationBegins => Checkpoint.all

namespace Entry

/-- The stage to which a call belongs. -/
def stage? : Entry β π γ σ → Option Stage
  | constructed _ _ => some .constructing
  | started _ _ => some .starting
  | @notified _ _ _ _ _ c _ _ => some (.notifying c)
  | _ => none

/-- The event that goes by the word, with the state in which it was logged. -/
def report? (word : String) : Entry β π γ σ → Option (Log.Event × σ)
  | logged e s => if e.isNamed word then some (e, s) else none
  | _ => none

/-- The plugin that could not be stopped, and the fault. -/
def brokenStop? : Entry β π γ σ → Option (π × Fault)
  | stopped p (.error f) => some (p, f)
  | _ => none

theorem report?_of_stage {e : Entry β π γ σ} (h : e.stage?.isSome) (word : String) :
    e.report? word = none := by
  cases e with
  | logged e s => cases h
  | _ => rfl

end Entry

namespace Journal

def reports (word : String) (j : Journal β π γ σ) : List (Log.Event × σ) :=
  j.filterMap (·.report? word)

def brokenStops (j : Journal β π γ σ) : List (π × Fault) := j.filterMap (·.brokenStop?)

variable {i j : Journal β π γ σ} {word : String}

@[simp] theorem reports_append (word : String) (i j : Journal β π γ σ) :
    reports word (i ++ j) = reports word i ++ reports word j := List.filterMap_append

theorem listeners_append (i j : Journal β π γ σ) :
    listeners (i ++ j) = listeners i ++ listeners j := List.filterMap_append

theorem reports_of_named {e : Log.Event} (h : e.isNamed word = true) (s : σ)
    (j : Journal β π γ σ) : reports word (.logged e s :: j) = (e, s) :: reports word j := by
  simp [reports, Entry.report?, h]

theorem reports_of_unnamed {e : Log.Event} (h : e.isNamed word = false) (s : σ)
    (j : Journal β π γ σ) : reports word (.logged e s :: j) = reports word j := by
  simp [reports, Entry.report?, h]

theorem reports_of_calls (h : ∀ e ∈ j, e.stage?.isSome) (word : String) : reports word j = [] :=
  List.filterMap_eq_nil_iff.mpr fun e he => Entry.report?_of_stage (h e he) word

namespace Stopping
variable {name : π → String} {plugins : List π} {r : Except Fault (List String)}
  {failures : List String}

/-- The stopping reports nothing but that plugins cannot be stopped. -/
theorem reports_eq_nil (h : Stopping name plugins r j) (word : String)
    (hword : ∀ p f, (Log.Event.stopFailed p f).isNamed word = false) : reports word j = [] := by
  induction h with
  | nil => rfl
  | clean u next ih => exact ih
  | @failed p rest r j f s ordinary next ih => exact (reports_of_unnamed (hword _ f) s j).trans ih
  | interrupted interrupt => rfl

/-- Each plugin that cannot be stopped is reported, in the order in which they are stopped. -/
theorem reports_of_ok (h : Stopping name plugins (.ok failures) j) :
    (reports "agent_plugin_stop_failed" j).map (·.1) =
      (brokenStops j).map fun b => .stopFailed (name b.1) b.2 := by
  generalize hr : (Except.ok failures : Except Fault (List String)) = r at h
  induction h generalizing failures with
  | nil => rfl
  | clean u next ih => exact ih hr
  | @failed p rest r j f s ordinary next ih =>
    cases r with
    | error g => cases hr
    | ok others => exact congrArg (Log.Event.stopFailed (name p) f :: ·) (ih rfl)
  | interrupted interrupt => cases hr

end Stopping
end Journal

namespace Lifecycle
open Journal
variable (L : Lifecycle β π γ σ)

/-- The checkpoints are reported, in this order and no others, each with the number of those who
listen to it then. -/
def Announced (cs : List Checkpoint) (j : Journal β π γ σ) : Prop :=
  List.Forall₂ (fun c report => report.1 = .checkpointReached c (L.listeners c report.2).length) cs
    (reports "agent_checkpoint_reached" j)

/-- Of a part of a bootstrap it is reported that the checkpoints are reached; no fault is, and not
that the bootstrap is over. -/
structure Told (cs : List Checkpoint) (j : Journal β π γ σ) : Prop where
  announced : L.Announced cs j
  unfailed : reports "agent_bootstrap_failed" j = []
  unstopped : reports "agent_plugin_stop_failed" j = []
  unfinished : reports "agent_started" j = []

variable {L} {i j : Journal β π γ σ} {cs ds prior : List Checkpoint}

theorem Announced.append (hi : L.Announced cs i) (hj : L.Announced ds j) :
    L.Announced (cs ++ ds) (i ++ j) := by
  rw [Announced, reports_append]
  exact List.rel_append hi hj

theorem Told.append (hi : L.Told cs i) (hj : L.Told ds j) : L.Told (cs ++ ds) (i ++ j) where
  announced := hi.announced.append hj.announced
  unfailed := by rw [reports_append, hi.unfailed, hj.unfailed, List.append_nil]
  unstopped := by rw [reports_append, hi.unstopped, hj.unstopped, List.append_nil]
  unfinished := by rw [reports_append, hi.unfinished, hj.unfinished, List.append_nil]

theorem told_of_calls (h : ∀ e ∈ j, e.stage?.isSome) : L.Told [] j where
  announced := by
    rw [Announced, reports_of_calls h]
    exact .nil
  unfailed := reports_of_calls h _
  unstopped := reports_of_calls h _
  unfinished := reports_of_calls h _

theorem Told.before_call {e : Entry β π γ σ} (h : L.Told cs (j ++ [e])) (he : e.stage?.isSome) :
    L.Told cs j := by
  have hreports (word : String) : reports word (j ++ [e]) = reports word j := by
    rw [reports_append, reports_of_calls (List.forall_mem_singleton.mpr he), List.append_nil]
  constructor
  · rw [Announced, ← hreports]
    exact h.announced
  · rw [← hreports, h.unfailed]
  · rw [← hreports, h.unstopped]
  · rw [← hreports, h.unfinished]

theorem told_checkpointReached (c : Checkpoint) (s : σ) :
    L.Told [c] [.logged (.checkpointReached c (L.listeners c s).length) s] :=
  ⟨.cons rfl .nil, rfl, rfl, rfl⟩

theorem told_pluginsConstructed (plugins : List String) (s : σ) :
    L.Told [] [.logged (.pluginsConstructed plugins) s] := ⟨.nil, rfl, rfl, rfl⟩

theorem told_pluginsStarted (plugins metrics : Nat) (s : σ) :
    L.Told [] [.logged (.pluginsStarted plugins metrics) s] := ⟨.nil, rfl, rfl, rfl⟩

variable (L) in
/-- What is reported of a part of a bootstrap, begun when the checkpoints in `prior` had been
entered: those in `cs`, or else those up to the stage of the fault; then the last call is of that
stage. -/
def Accounts (prior cs : List Checkpoint) (r : Except (Setback π) α) (j : Journal β π γ σ) : Prop :=
  match r with
  | .ok _ => L.Told cs j
  | .error setback => ∃ entered, prior ++ entered = setback.stage.entered ∧ L.Told entered j ∧
      ∃ before e, j = before ++ [e] ∧ e.stage? = some setback.stage

theorem Told.accounts {r : Except (Setback π) α} (hi : L.Told cs i)
    (hj : L.Accounts (prior ++ cs) ds r j) : L.Accounts prior (cs ++ ds) r (i ++ j) := by
  cases r with
  | ok a => exact hi.append hj
  | error setback =>
    obtain ⟨entered, hentered, htold, before, e, rfl, he⟩ := hj
    exact ⟨cs ++ entered, by rw [← hentered, List.append_assoc], hi.append htold, i ++ before, e,
      (List.append_assoc ..).symm, he⟩

theorem Accounts.stuck {δ : Type} {setback : Setback π}
    (h : L.Accounts prior cs (.error setback : Except (Setback π) α) j) (ds : List Checkpoint) :
    L.Accounts prior ds (.error setback : Except (Setback π) δ) j := h

/-- A part of which all calls are of one stage. -/
theorem Told.accounts_of_stage {r : Except (Setback π) α} {started : List π}
    {deeds : List (Deed β π γ)} {stage : Stage} (told : L.Told cs j)
    (hphase : Phase started deeds r j)
    (hcalls : ∀ e ∈ j, e.deed?.isSome → e.stage? = some stage)
    (hstage : ∀ setback, r = .error setback → setback.stage = stage)
    (hentered : prior ++ cs = stage.entered) : L.Accounts prior cs r j := by
  cases r with
  | ok a => exact told
  | error setback =>
    obtain ⟨before, e, rfl, -, -, hd⟩ := hphase.1.last
    rw [← hstage setback rfl] at hcalls hentered
    exact ⟨cs, hentered, told, before, e, rfl,
      hcalls e (List.mem_append_right _ (List.mem_singleton_self e)) hd⟩

/-! ## The parts of a bootstrap -/

theorem tells_during_stage {y : EStateM Fault σ α} {x : EStateM Fault (σ × Journal β π γ σ) α}
    {s : σ} {P : Journal β π γ σ → Prop} (h : Tells y x s fun _ _ j => P j) (stage : Stage)
    (started : List π) :
    Tells (during stage started y) (during stage started x) s fun r _ j =>
      P j ∧ ∀ setback, r = .error setback → setback.stage = stage := by
  refine Tells.during (h.mono fun r t j hj => ⟨hj, fun setback hr => ?_⟩)
  cases r with
  | ok a => cases hr
  | error f =>
    cases hr
    rfl

variable (L)

theorem tells_mapM_construct_stage (plan : List β) (s : σ) :
    Tells (plan.mapM L.construct) (plan.mapM L.journaled.construct) s fun _ _ j =>
      ∀ e ∈ j, e.stage? = some .constructing := by
  induction plan generalizing s with
  | nil => exact .pure (List.forall_mem_nil _)
  | cons b rest ih =>
    simp only [List.mapM_cons]
    have hconstruct : Tells (L.construct b) (L.journaled.construct b) s fun _ _ j =>
        ∀ e ∈ j, e.stage? = some .constructing :=
      Tells.call fun _ _ _ => List.forall_mem_singleton.mpr rfl
    refine Tells.bind hconstruct ?_ fun _ _ _ hi => hi
    intro p t i hi
    refine (Tells.bind_return (ih t) _).mono ?_
    exact fun _ _ j hj => List.forall_mem_append.mpr ⟨hi, hj.1⟩

theorem tells_startEach_stage (started plugins : List π) (s : σ) :
    Tells (L.startEach started plugins) (L.journaled.startEach started plugins) s fun r _ j =>
      (∀ e ∈ j, e.stage? = some .starting) ∧
        ∀ setback, r = .error setback → setback.stage = .starting := by
  induction plugins generalizing started s with
  | nil => exact .pure ⟨List.forall_mem_nil _, fun _ => nofun⟩
  | cons p rest ih =>
    have hstart : Tells (L.start p) (L.journaled.start p) s fun _ _ j =>
        ∀ e ∈ j, e.stage? = some .starting :=
      Tells.call fun _ _ _ => List.forall_mem_singleton.mpr rfl
    refine Tells.bind (tells_during_stage hstart .starting started) ?_ ?_
    · intro u t i hi
      refine (ih (started ++ [p]) t).mono ?_
      exact fun _ _ j hj => ⟨List.forall_mem_append.mpr ⟨hi.1, hj.1⟩, hj.2⟩
    · intro setback t i hi
      refine ⟨hi.1, fun other ho => ?_⟩
      cases ho
      exact hi.2 setback rfl

theorem Shown.stage {listeners : List γ} {view : View π c} {s : σ} {r : Except Fault Unit}
    (h : L.Shown listeners view s r j) : ∀ e ∈ j, e.stage? = some (.notifying c) := by
  induction h with
  | nil => exact List.forall_mem_nil _
  | next called later ih => exact List.forall_mem_cons.mpr ⟨rfl, ih⟩
  | failed called => exact List.forall_mem_singleton.mpr rfl

theorem isSome_stage {stage : Stage} (h : ∀ e ∈ j, e.stage? = some stage) :
    ∀ e ∈ j, e.stage?.isSome := fun e he => by rw [h e he]; rfl

/-- A checkpoint is reported first; then those are called who listen to it at that time. -/
theorem tells_notifying_shown (started : List π) (view : View π c) (s : σ) :
    Tells (L.notifying started view) (L.journaled.notifying started view) s fun r _ j =>
      (∀ setback, r = .error setback → setback.stage = .notifying c) ∧
      ∃ r' k, j = [.logged (.checkpointReached c (L.listeners c s).length) s] ++ k ∧
        L.Shown (L.listeners c s) view
          (L.log (.checkpointReached c (L.listeners c s).length) s) r' k := by
  refine (tells_during_stage ?_ (.notifying c) started).mono fun _ _ _ hj => ⟨hj.2, hj.1⟩
  refine Tells.get_bind fun past => Tells.log_bind ?_
  refine (L.tells_notifyAll_shown (L.listeners c s) view _).mono ?_
  exact fun r t k hk => ⟨r, k, rfl, hk⟩

theorem tells_notifying_accounts (prior : List Checkpoint) (started : List π) (view : View π c)
    (s : σ) (hprior : prior ++ [c] = (Stage.notifying c).entered) :
    Tells (L.notifying started view) (L.journaled.notifying started view) s fun r _ j =>
      L.Accounts prior [c] r j := by
  refine ((L.tells_notifying_any started view s).both (L.tells_notifying_shown started view s)).mono
    ?_
  rintro r t j ⟨⟨hphase, -⟩, hstage, r', k, rfl, hshown⟩
  have hk := hshown.stage
  have htold : L.Told ([c] ++ []) _ :=
    (told_checkpointReached c s).append (told_of_calls (isSome_stage hk))
  refine htold.accounts_of_stage hphase (List.forall_mem_append.mpr ⟨?_, fun e he _ => hk e he⟩)
    hstage hprior
  exact List.forall_mem_singleton.mpr nofun

theorem tells_load_accounts (plan : List β) (s : σ) :
    Tells (L.load plan) (L.journaled.load plan) s fun r _ j =>
      L.Accounts [] [.pluginsLoaded] r j := by
  have hstage := tells_during_stage (L.tells_mapM_construct_stage plan s) .constructing []
  refine Tells.bind ((L.tells_constructAll plan s).both hstage) ?_ ?_
  · rintro plugins t i ⟨-, hi, -⟩
    have hreport : L.Told ([] ++ []) (i ++ [.logged (.pluginsConstructed (L.names plugins)) t]) :=
      (told_of_calls (isSome_stage hi)).append (told_pluginsConstructed _ t)
    refine Tells.log_bind (Tells.bind
      (L.tells_notifying_accounts [] [] (.loaded plugins) _ rfl) ?_ ?_)
    · intro u t' j hj
      refine Tells.pure ?_
      rw [List.append_nil, ← List.append_assoc]
      exact hreport.append hj
    · intro setback t' j hj
      rw [← List.append_assoc]
      exact hreport.accounts hj
  · rintro setback t i ⟨⟨hphase, -⟩, hi, hstage⟩
    exact ((told_of_calls (isSome_stage hi)).accounts_of_stage hphase (fun e he _ => hi e he)
      hstage rfl).stuck _

theorem tells_startAll_accounts (plugins : List π) (s : σ) :
    Tells (L.startAll plugins) (L.journaled.startAll plugins) s fun r _ j =>
      L.Accounts [.pluginsLoaded] [.pluginsStarted] r j := by
  refine Tells.bind ((L.tells_startEach [] plugins s).both (L.tells_startEach_stage [] plugins s))
    ?_ ?_
  · rintro u t i ⟨-, hi, -⟩
    let report : Log.Event := .pluginsStarted plugins.length (L.host t).metrics.size
    have hreport : L.Told ([] ++ []) (i ++ [.logged report t]) :=
      (told_of_calls (isSome_stage hi)).append (told_pluginsStarted _ _ t)
    refine Tells.get_bind fun past => Tells.log_bind ?_
    refine (L.tells_notifying_accounts [.pluginsLoaded] plugins _ _ rfl).mono ?_
    intro r t' j hj
    rw [← List.append_assoc]
    exact hreport.accounts hj
  · rintro setback t i ⟨⟨hphase, -⟩, hi, hstage⟩
    exact ((told_of_calls (isSome_stage hi)).accounts_of_stage hphase (fun e he _ => hi e he)
      hstage rfl).stuck _

theorem tells_assemble_accounts (plugins : List π) (s : σ) :
    Tells (L.assemble plugins) (L.journaled.assemble plugins) s fun r _ j =>
      L.Accounts [.pluginsLoaded, .pluginsStarted] [.operationBegins] r j := by
  refine Tells.get_bind fun past => ?_
  refine Tells.bind (L.tells_notifying_accounts [.pluginsLoaded, .pluginsStarted] plugins _ s rfl)
    ?_ fun _ _ _ hi => hi.stuck _
  intro u t i hi
  refine Tells.pure ?_
  rw [List.append_nil]
  exact hi

theorem tells_boot_accounts (plan : List β) (s : σ) :
    Tells (L.boot plan) (L.journaled.boot plan) s fun r _ j =>
      L.Accounts [] Checkpoint.all r j := by
  refine Tells.bind (L.tells_load_accounts plan s) ?_ fun _ _ _ hi => hi.stuck _
  intro plugins t i hi
  have hi : L.Told [.pluginsLoaded] i := hi
  refine Tells.bind (L.tells_startAll_accounts plugins t) ?_ ?_
  · intro u t' j hj
    have hj : L.Told [.pluginsStarted] j := hj
    refine (L.tells_assemble_accounts plugins t').mono fun r v k hk => ?_
    exact hi.accounts (hj.accounts hk)
  · intro setback t' j hj
    exact (hi.accounts hj).stuck _

/-! ## A launch -/

/-- Nothing has been registered. -/
def SameHost (s t : σ) : Prop := L.host t = L.host s

/-- What is logged, and the listeners of the journal, whatever they are shown, lead from a state to
one that `R` relates to it. -/
structure Onlookers (R : σ → σ → Prop) (j : Journal β π γ σ) : Prop where
  log : ∀ e s, R s (L.log e s)
  listeners : ∀ l ∈ j.listeners, ∀ (c : Checkpoint) (view : View π c), Leads R (L.notify l view)

variable {L} {R : σ → σ → Prop}

theorem Onlookers.left (h : L.Onlookers R (i ++ j)) : L.Onlookers R i where
  log := h.log
  listeners l hl := h.listeners l (by rw [listeners_append]; exact List.mem_append_left _ hl)

theorem Onlookers.right (h : L.Onlookers R (i ++ j)) : L.Onlookers R j where
  log := h.log
  listeners l hl := h.listeners l (by rw [listeners_append]; exact List.mem_append_right _ hl)

variable (L)

theorem tells_notifyAll_onlookers (refl : ∀ s, R s s) (trans : ∀ s t u, R s t → R t u → R s u)
    (listeners : List γ) (view : View π c) (s : σ) :
    Tells (L.notifyAll listeners view) (L.journaled.notifyAll listeners view) s fun _ t j =>
      L.Onlookers R j → R s t := by
  induction listeners generalizing view s with
  | nil => exact .pure fun _ => refl s
  | cons l rest ih =>
    refine Tells.get_bind fun past => ?_
    have hnotify : Tells (L.notify l (view.refresh (L.host s).metrics))
        (L.journaled.notify l (view.refresh (L.host s).metrics)) s fun _ t j =>
          L.Onlookers R j → R s t := by
      refine (L.tells_notify_shown l _ s).mono ?_
      rintro r t j ⟨hcall, rfl⟩ onlookers
      have hst := onlookers.listeners l (List.mem_singleton_self l) c
        (view.refresh (L.host s).metrics) s
      rwa [hcall] at hst
    refine Tells.bind hnotify ?_ fun _ _ _ hi => hi
    intro view' t i hi
    refine (ih view' t).mono fun r u j hj onlookers => ?_
    exact trans s t u (hi onlookers.left) (hj onlookers.right)

theorem tells_notifying_onlookers (refl : ∀ s, R s s) (trans : ∀ s t u, R s t → R t u → R s u)
    (started : List π) (view : View π c) (s : σ) :
    Tells (L.notifying started view) (L.journaled.notifying started view) s fun _ t j =>
      L.Onlookers R j → R s t := by
  refine Tells.during (Tells.get_bind fun past => Tells.log_bind ?_)
  refine (L.tells_notifyAll_onlookers refl trans (L.listeners c s) view _).mono ?_
  exact fun r t j hj onlookers => trans s _ t (onlookers.log _ s) (hj onlookers.right)

/-- The agent's pipeline is what is registered when it has started, unless something has been
registered while the last checkpoint was reached. -/
theorem tells_boot_pipeline (plan : List β) (s : σ) :
    Tells (L.boot plan) (L.journaled.boot plan) s fun r t j => L.Onlookers L.SameHost j →
      WhenOk r fun agent => agent.pipeline = (L.host t).pipeline := by
  refine Tells.bind (L.tells_load_any plan s) ?_ fun _ _ _ _ _ => trivial
  intro plugins t i _
  refine Tells.bind (L.tells_startAll_any plugins t) ?_ fun _ _ _ _ _ => trivial
  intro u t' j _
  have hnotifying := L.tells_notifying_onlookers (R := L.SameHost) (fun _ => rfl)
    (fun _ _ _ h h' => h'.trans h) plugins (.assembled (L.host t').pipeline) t'
  refine Tells.get_bind fun past => Tells.bind hnotifying ?_ fun _ _ _ _ _ => trivial
  intro v t'' k hk
  refine Tells.pure fun onlookers => ?_
  rw [List.append_nil] at onlookers
  exact congrArg Host.pipeline (hk onlookers.right.right).symm

/-- The fault is reported once, right after the call that ended in it and under that call's stage;
the checkpoints entered by then are reported before it, and after it each plugin that could not be
stopped, in its turn. -/
def FailureReported (f : Fault) (j : Journal β π γ σ) : Prop :=
  ∃ before e stage u after,
    j = before ++ e :: .logged (.bootstrapFailed stage.word f) u :: after ∧
    faults before = [] ∧ e.fault? = some f ∧ e.stage? = some stage ∧
    (reports "agent_bootstrap_failed" j).map (·.1) =
      [⟨.error, .text "agent_bootstrap_failed", [("stage", .text stage.word),
        ("error", .text f.message), ("error_type", .text f.kind)]⟩] ∧
    reports "agent_started" j = [] ∧
    L.Announced stage.entered before ∧ reports "agent_checkpoint_reached" after = [] ∧
    reports "agent_plugin_stop_failed" before = [] ∧
    stops after = (running before).reverse ∧
    (reports "agent_plugin_stop_failed" after).map (·.1) = (brokenStops after).map fun b =>
      ⟨.error, .text "agent_plugin_stop_failed", [("plugin", .text (L.name b.1)),
        ("error", .text b.2.message), ("error_type", .text b.2.kind)]⟩

/-- All checkpoints are reported, no failure is, and the end is reported with as many elements as
the agent has, if no one but the plugins that start has registered any. -/
def StartReported (agent : Agent π) (j : Journal β π γ σ) : Prop :=
  L.Announced Checkpoint.all j ∧
    reports "agent_bootstrap_failed" j = [] ∧ reports "agent_plugin_stop_failed" j = [] ∧
    ∃ e u, reports "agent_started" j = [(e, u)] ∧ (L.Onlookers L.SameHost j →
      e.fields = ElementKind.all.map fun kind =>
        (kind.plural, .int (agent.pipeline.names kind).length))

variable {L}

theorem startReported {agent : Agent π} {t : σ} (told : L.Told Checkpoint.all i)
    (hpipeline : L.Onlookers L.SameHost i → agent.pipeline = (L.host t).pipeline) :
    L.StartReported agent (i ++ [.logged (.agentStarted (L.host t).pipeline) t]) := by
  refine ⟨?_, ?_, ?_, .agentStarted (L.host t).pipeline, t, ?_, fun onlookers => ?_⟩
  · rw [← List.append_nil Checkpoint.all]
    exact told.announced.append .nil
  · rw [reports_append, told.unfailed]
    rfl
  · rw [reports_append, told.unstopped]
    rfl
  · rw [reports_append, told.unfinished]
    rfl
  · rw [hpipeline onlookers.left]
    rfl

theorem failureReported {setback : Setback π} {ds : List (Deed β π γ)} {failures : List String}
    {t : σ} (broken : Broken ds setback.fault i) (hstarted : setback.started = running i)
    (accounts : L.Accounts [] Checkpoint.all (.error setback : Except (Setback π) (Agent π)) i)
    (stopping : Stopping L.name setback.started.reverse (.ok failures) j) :
    L.FailureReported setback.fault
      (i ++ ([.logged (.bootstrapFailed setback.stage.word setback.fault) t] ++ j)) := by
  obtain ⟨entered, hentered, told, before, e, rfl, he⟩ := accounts
  obtain ⟨before', e', hsplit, hfaults, hf, -⟩ := broken.last
  obtain ⟨rfl, hee⟩ := List.append_inj' hsplit rfl
  cases hee
  have hstops : stops j = (running before).reverse := by
    have hrun : running (before ++ [e]) = running before := by
      simp [running, Entry.running?_of_fault hf]
    rw [stopping.of_ok.1, hstarted, hrun]
  have hbefore : L.Told entered before := told.before_call (by rw [he]; rfl)
  refine ⟨before, e, setback.stage, t, j, List.append_assoc .., hfaults, hf, he, ?_, ?_,
    hentered ▸ hbefore.announced, stopping.reports_eq_nil _ fun _ _ => rfl, hbefore.unstopped,
    hstops, stopping.reports_of_ok⟩
  · rw [reports_append, told.unfailed, reports_append,
      stopping.reports_eq_nil "agent_bootstrap_failed" fun _ _ => rfl]
    rfl
  · rw [reports_append, told.unfinished, reports_append,
      stopping.reports_eq_nil "agent_started" fun _ _ => rfl]
    rfl

/-- What a launch reports, whoever its plugins and listeners are: each checkpoint when it is
entered, in their order; and then an ordinary fault of the bootstrap, with what comes of the
stopping, or that the agent has started. -/
theorem launch_reports (plan : List β) (s : σ) :
    let j := L.journal plan s
    ∃ r t, outcome (L.launch plan) s = (r, t) ∧
      outcome (L.journaled.launch plan) (s, []) = (r, t, j) ∧
      (∀ audience : σ → Audience γ, (∀ c u, L.listeners c u = (audience u).callOrder c) →
        ∀ c u, (L.listeners c u).length = ((audience u).handlers c).length) ∧
      (∀ f, r = .error f → f.isInterrupt = false → L.FailureReported f j) ∧
      ∀ agent, r = .ok agent → L.StartReported agent j := by
  have hboot := ((L.tells_boot_any plan s).both (L.tells_boot_accounts plan s)).both
    (L.tells_boot_pipeline plan s)
  have hlaunch : Tells (L.launch plan) (L.journaled.launch plan) s fun r _ j =>
      (∀ f, r = .error f → f.isInterrupt = false → L.FailureReported f j) ∧
        ∀ agent, r = .ok agent → L.StartReported agent j := by
    refine L.tells_launch_ending hboot ?_ ?_ ?_ ?_
    · rintro agent t i ⟨⟨-, told⟩, hpipeline⟩
      refine ⟨fun f hf => ?_, fun a ha => ?_⟩
      · cases hf
      · cases ha
        exact startReported told hpipeline
    · rintro setback t i - hinterrupt
      refine ⟨fun f hf hordinary => ?_, nofun⟩
      cases hf
      rw [hinterrupt] at hordinary
      cases hordinary
    · rintro setback t i k failures ⟨⟨⟨hbroken, hstarted⟩, haccounts⟩, -⟩ - hk
      refine ⟨fun f hf _ => ?_, nofun⟩
      cases hf
      exact failureReported hbroken hstarted haccounts hk
    -- The fault that ends the stopping is an interrupt.
    · rintro setback t i k f - - hk
      refine ⟨fun f' hf hordinary => ?_, nofun⟩
      cases hf
      rw [hk.of_error.1] at hordinary
      cases hordinary
  obtain ⟨r, t, j, hy, hx, hj⟩ := hlaunch []
  obtain rfl : L.journal plan s = j := by rw [journal, hx, List.nil_append]
  refine ⟨r, t, hy, hx, fun audience haudience c u => ?_, hj⟩
  rw [haudience, ((audience u).callOrder_perm c).length_eq, List.length_map]

/-- The rehearsal with the plugin c, which cannot start, and without it. -/
theorem launch_reports_rehearsal :
    rehearsal.FailureReported (.raised "RuntimeError" "c") (rehearsal.journal ["a", "b", "c"] ()) ∧
      (reports "agent_plugin_stop_failed" (rehearsal.journal ["a", "b", "c"] ())).map (·.1) =
        [.stopFailed "b" (.raised "RuntimeError" "b")] ∧
      rehearsal.StartReported ⟨["a", "b"], {}, true⟩ (rehearsal.journal ["a", "b"] ()) ∧
      rehearsal.Onlookers rehearsal.SameHost (rehearsal.journal ["a", "b"] ()) := by
  obtain ⟨r, t, hlaunch, -, -, hfailed, -⟩ := rehearsal.launch_reports ["a", "b", "c"] ()
  obtain ⟨r', t', hlaunch', -, -, -, hstarted⟩ := rehearsal.launch_reports ["a", "b"] ()
  cases hlaunch
  cases hlaunch'
  exact ⟨hfailed _ rfl (by decide), rfl, hstarted _ rfl, fun _ _ => rfl, fun _ _ _ _ _ => rfl⟩

end Lifecycle
end Preflight
