import Preflight.Proofs.Audience
import Preflight.Proofs.Bootstrap.Interrupt

/-! What listeners are shown. At each checkpoint that is reached the listeners are called in their
order, beginning with the checkpoint's own view, each with the view as the one before it left it.
The first one that fails is the last one that is called, there and at any later checkpoint. -/
namespace Preflight
variable {β π γ σ : Type} {c : Checkpoint}

/-- The view that belongs to a checkpoint when `plugins` have been constructed. -/
def View.own (plugins : List π) (host : Host) : (c : Checkpoint) → View π c
  | .pluginsLoaded => .loaded plugins
  | .pluginsStarted => .started plugins host.metrics
  | .operationBegins => .assembled host.pipeline

theorem View.refresh_refresh (view : View π c) (first second : Registry) :
    (view.refresh first).refresh second = view.refresh second := by
  cases view <;> rfl

namespace Entry

def listener? : Entry β π γ σ → Option γ
  | notified l _ _ => some l
  | _ => none

/-- A call of a listener at the checkpoint. -/
def isNotice (c : Checkpoint) : Entry β π γ σ → Bool
  | @notified _ _ _ _ _ d _ _ => d = c
  | _ => false

/-- The entry has nothing to do with the checkpoint: it neither reaches it nor calls a listener. -/
def Quiet (c : Checkpoint) : Entry β π γ σ → Prop
  | @notified _ _ _ _ _ d _ _ => d ≠ c
  | logged e _ => ∀ n, e ≠ .checkpointReached c n
  | _ => True

theorem Quiet.not_isNotice {e : Entry β π γ σ} (h : e.Quiet c) : ¬ e.isNotice c = true := by
  cases e with
  | @notified l d view r =>
    have hd : d ≠ c := h
    simpa [isNotice] using hd
  | _ => simp [isNotice]

end Entry

namespace Lifecycle

/-- Listeners are called from the state `s` on, each with the view as the one before it left it and
the metrics of the moment, up to the first that fails; `r` is what that comes to. -/
inductive Shown (L : Lifecycle β π γ σ) :
    List γ → View π c → σ → Except Fault Unit → Journal β π γ σ → Prop where
  | nil {view : View π c} {s : σ} : Shown L [] view s (.ok ()) []
  | next {l : γ} {rest : List γ} {view view' : View π c} {s t : σ} {r : Except Fault Unit}
      {j : Journal β π γ σ} (called : L.notify l (view.refresh (L.host s).metrics) s = .ok view' t)
      (later : Shown L rest view' t r j) :
      Shown L (l :: rest) view s r
        (.notified l (view.refresh (L.host s).metrics) (.ok view') :: j)
  | failed {l : γ} {rest : List γ} {view : View π c} {s t : σ} {f : Fault}
      (called : L.notify l (view.refresh (L.host s).metrics) s = .error f t) :
      Shown L (l :: rest) view s (.error f)
        [.notified l (view.refresh (L.host s).metrics) (.error f)]

/-- Every listener leaves the view as it was given. -/
def KeepsViews (L : Lifecycle β π γ σ) : Prop :=
  ∀ (c : Checkpoint) (l : γ) (view : View π c) (s : σ) (view' : View π c) (t : σ),
    L.notify l view s = .ok view' t → view' = view

end Lifecycle

namespace Journal

def listeners (j : Journal β π γ σ) : List γ := j.filterMap (·.listener?)

def noticesAt (c : Checkpoint) (j : Journal β π γ σ) : Journal β π γ σ :=
  j.filter (·.isNotice c)

/-- The checkpoint is not reached, and none of its listeners is called. -/
def Silent (c : Checkpoint) (j : Journal β π γ σ) : Prop := ∀ e ∈ j, e.Quiet c

variable {i j : Journal β π γ σ}

theorem silent_append : Silent c (i ++ j) ↔ Silent c i ∧ Silent c j := List.forall_mem_append

theorem Silent.noticesAt_eq_nil (h : Silent c j) : noticesAt c j = [] :=
  List.filter_eq_nil_iff.mpr fun e he => (h e he).not_isNotice

theorem noticesAt_append (c : Checkpoint) (i j : Journal β π γ σ) :
    noticesAt c (i ++ j) = noticesAt c i ++ noticesAt c j := List.filter_append i j

/-- Only the event that a checkpoint is reached is of the level for debugging. -/
theorem Silent.after_logged (h : Silent c j) {e : Log.Event}
    (he : decide (e.level = .debug) = false) (s : σ) : Silent c (.logged e s :: j) :=
  List.forall_mem_cons.mpr
    ⟨fun _ heq => of_decide_eq_false he (congrArg Log.Event.level heq), h⟩

theorem silent_logged {e : Log.Event} (he : decide (e.level = .debug) = false) (s : σ)
    (c : Checkpoint) : Silent c ([.logged e s] : Journal β π γ σ) :=
  Silent.after_logged (List.forall_mem_nil _) he s

theorem Stopping.silent {name : π → String} {plugins : List π}
    {r : Except Fault (List String)} (h : Stopping name plugins r j) (c : Checkpoint) :
    Silent c j := by
  induction h with
  | nil => exact List.forall_mem_nil _
  | clean u next ih => exact List.forall_mem_cons.mpr ⟨trivial, ih⟩
  | @failed p rest r j f s ordinary next ih =>
    exact List.forall_mem_cons.mpr ⟨trivial, ih.after_logged rfl s⟩
  | interrupted interrupt => exact List.forall_mem_singleton.mpr trivial

/-- No deed comes after a deed that failed. -/
def EndsAtFault (j : Journal β π γ σ) : Prop :=
  j.Pairwise fun e later => e.deed?.isSome → e.fault?.isSome → later.deed? = none

theorem endsAtFault_of_no_faults (h : faults j = []) : EndsAtFault j := by
  refine List.pairwise_of_forall_mem_list fun e he later _ _ hf => ?_
  rw [List.filterMap_eq_nil_iff.mp h e he] at hf
  cases hf

theorem FailedBy.endsAtFault {f : Fault} (h : FailedBy f j) : EndsAtFault j := by
  obtain ⟨before, e, after, rfl, hfaults, -, -, -, hafter⟩ := h
  have hlater : ∀ x ∈ after, x.deed? = none := List.filterMap_eq_nil_iff.mp hafter
  refine List.pairwise_append.mpr ⟨endsAtFault_of_no_faults hfaults, ?_, ?_⟩
  · refine List.pairwise_cons.mpr ⟨fun x hx _ _ => hlater x hx, ?_⟩
    exact List.pairwise_of_forall_mem_list fun x _ y hy _ _ => hlater y hy
  · intro x hx y _ _ hf
    rw [List.filterMap_eq_nil_iff.mp hfaults x hx] at hf
    cases hf

end Journal

namespace Tells
variable {ε α δ : Type} {s : σ} {P : Journal β π γ σ → Prop}

/-- What is said of the entries only holds of an act in any stage. -/
theorem during_entries {y : EStateM Fault σ α} {x : EStateM Fault (σ × Journal β π γ σ) α}
    (h : Tells y x s fun _ _ j => P j) (stage : Stage) (started : List π) :
    Tells (Lifecycle.during stage started y) (Lifecycle.during stage started x) s
      fun _ _ j => P j := during h

theorem bind_return {y : EStateM ε σ α} {x : EStateM ε (σ × Journal β π γ σ) α}
    {Q : σ → Journal β π γ σ → Prop} (h : Tells y x s fun _ t j => Q t j) (f : α → δ) :
    Tells (y >>= fun a => Pure.pure (f a)) (x >>= fun a => Pure.pure (f a)) s fun r t j =>
      Q t j ∧ WhenOk r (∃ a, f a = ·) := by
  refine Tells.bind h ?_ fun _ _ _ hj => ⟨hj, trivial⟩
  intro a t j hj
  apply Tells.pure
  rw [List.append_nil]
  exact ⟨hj, a, rfl⟩

end Tells

namespace Lifecycle
open Journal
variable {L : Lifecycle β π γ σ} {listeners : List γ} {view : View π c} {s : σ}
  {r : Except Fault Unit} {j : Journal β π γ σ}

namespace Shown

theorem noticesAt_self (h : L.Shown listeners view s r j) : noticesAt c j = j := by
  induction h with
  | nil => rfl
  | next called later ih => simpa [noticesAt, Entry.isNotice] using ih
  | failed called => simp [noticesAt, Entry.isNotice]

theorem silent (h : L.Shown listeners view s r j) {d : Checkpoint} (hd : d ≠ c) : Silent d j := by
  induction h with
  | nil => exact List.forall_mem_nil _
  | next called later ih => exact List.forall_mem_cons.mpr ⟨Ne.symm hd, ih⟩
  | failed called => exact List.forall_mem_cons.mpr ⟨Ne.symm hd, List.forall_mem_nil _⟩

theorem made_eq_nil (h : L.Shown listeners view s r j) : j.made = [] := by
  induction h with
  | nil => rfl
  | next called later ih => exact ih
  | failed called => rfl

theorem listeners_prefix (h : L.Shown listeners view s r j) : j.listeners <+: listeners := by
  induction h with
  | nil => exact List.prefix_rfl
  | next called later ih => exact (List.prefix_cons_inj _).mpr ih
  | failed called => exact ⟨_, rfl⟩

theorem listeners_of_ok {u : Unit} (h : L.Shown listeners view s (.ok u) j) :
    j.listeners = listeners := by
  generalize hr : (Except.ok u : Except Fault Unit) = r at h
  induction h with
  | nil => rfl
  | next called later ih => exact congrArg _ (ih hr)
  | failed called => cases hr

/-- Of the first view only that counts which stays when the metrics are those of the moment. -/
theorem of_refresh (h : L.Shown listeners view s r j) {other : View π c}
    (hview : ∀ metrics, view.refresh metrics = other.refresh metrics) :
    L.Shown listeners other s r j := by
  cases h with
  | nil => exact .nil
  | next called later =>
    rw [hview] at called ⊢
    exact .next called later
  | failed called =>
    rw [hview] at called ⊢
    exact .failed called

/-- Where no listener of the checkpoint changes the view, all of them are shown the one that belongs
to it, in the state of the moment. -/
theorem of_kept (h : L.Shown listeners view s r j)
    (kept : ∀ (l : γ) (view : View π c) (s : σ) (view' : View π c) (t : σ),
      L.notify l view s = .ok view' t → view' = view) :
    ∀ e ∈ j, ∃ l metrics r', e = .notified l (view.refresh metrics) r' := by
  induction h with
  | nil => exact List.forall_mem_nil _
  | @next l rest view view' s t r j called later ih =>
    refine List.forall_mem_cons.mpr ⟨⟨l, _, _, rfl⟩, fun e he => ?_⟩
    obtain ⟨l', metrics, r', rfl⟩ := ih e he
    rw [kept l _ s view' t called]
    exact ⟨l', metrics, r', by rw [View.refresh_refresh]⟩
  | @failed l rest view s t f called =>
    exact List.forall_mem_singleton.mpr ⟨l, _, _, rfl⟩

end Shown

/-! ## Journals with one checkpoint, and others -/

theorem checkpointReached_ne {d : Checkpoint} (h : d ≠ c) (n m : Nat) :
    Log.Event.checkpointReached d n ≠ .checkpointReached c m := by
  intro heq
  cases c <;> cases d <;> simp_all [Log.Event.checkpointReached, Checkpoint.word]

/-- The checkpoint is not reached; or it is, and its listeners are shown the view that belongs to
it when `plugins` have been constructed. -/
inductive Attended (L : Lifecycle β π γ σ) (called : List γ) (plugins : List π) (c : Checkpoint)
    (j : Journal β π γ σ) : Prop where
  | missed (silent : Silent c j)
  | reached {s : σ} {r : Except Fault Unit}
      (entered : .logged (.checkpointReached c called.length) s ∈ j)
      (shown : L.Shown called (View.own plugins (L.host s) c)
        (L.log (.checkpointReached c called.length) s) r (noticesAt c j))

namespace Attended
variable {called : List γ} {plugins : List π} {i : Journal β π γ σ}

theorem after_silent (h : L.Attended called plugins c j) (hi : Silent c i) :
    L.Attended called plugins c (i ++ j) := by
  cases h with
  | missed silent => exact .missed (silent_append.mpr ⟨hi, silent⟩)
  | reached entered shown =>
    have hnotices : noticesAt c (i ++ j) = noticesAt c j := by
      rw [noticesAt_append, hi.noticesAt_eq_nil, List.nil_append]
    exact .reached (List.mem_append_right i entered) (hnotices ▸ shown)

theorem before_silent (h : L.Attended called plugins c i) (hj : Silent c j) :
    L.Attended called plugins c (i ++ j) := by
  cases h with
  | missed silent => exact .missed (silent_append.mpr ⟨silent, hj⟩)
  | reached entered shown =>
    have hnotices : noticesAt c (i ++ j) = noticesAt c i := by
      rw [noticesAt_append, hj.noticesAt_eq_nil, List.append_nil]
    exact .reached (List.mem_append_left j entered) (hnotices ▸ shown)

end Attended

/-- No other checkpoint is reached, and nothing is constructed. -/
structure Confined (L : Lifecycle β π γ σ) (called : List γ) (plugins : List π) (c : Checkpoint)
    (j : Journal β π γ σ) : Prop where
  attended : L.Attended called plugins c j
  others : ∀ d, d ≠ c → Silent d j
  made : made j = []

theorem Confined.after_silent {called : List γ} {plugins : List π} {i : Journal β π γ σ}
    (h : L.Confined called plugins c j) (hi : ∀ d, Silent d i) (hmade : Journal.made i = []) :
    L.Confined called plugins c (i ++ j) where
  attended := h.attended.after_silent (hi c)
  others d hd := silent_append.mpr ⟨hi d, h.others d hd⟩
  made := by rw [made_append, hmade, h.made, List.append_nil]

theorem confined_of_silent {called : List γ} {plugins : List π} (h : ∀ d, Silent d j)
    (hmade : Journal.made j = []) : L.Confined called plugins c j :=
  ⟨.missed (h c), fun d _ => h d, hmade⟩

variable (L) (called : Checkpoint → List γ) (plugins : List π)

theorem tells_notify_shown (l : γ) (view : View π c) (s : σ) :
    Tells (L.notify l view) (L.journaled.notify l view) s fun r t j =>
      outcome (L.notify l view) s = (r, t) ∧ j = [.notified l view r] :=
  Tells.call fun _ _ h => ⟨h, rfl⟩

theorem tells_notifyAll_shown (listeners : List γ) (view : View π c) (s : σ) :
    Tells (L.notifyAll listeners view) (L.journaled.notifyAll listeners view) s fun r _ j =>
      L.Shown listeners view s r j := by
  induction listeners generalizing view s with
  | nil => exact .pure .nil
  | cons l rest ih =>
    refine Tells.get_bind fun past => ?_
    refine Tells.bind (L.tells_notify_shown l (view.refresh (L.host s).metrics) s) ?_ ?_
    · rintro view' t _ ⟨hcall, rfl⟩
      exact (ih view' t).mono fun r u j hj => .next (outcome_eq_ok hcall) hj
    · rintro f t _ ⟨hcall, rfl⟩
      exact .failed (outcome_eq_error hcall)

theorem tells_notifying_confined (started : List π) (view : View π c) (s : σ)
    (hview : ∀ metrics, view.refresh metrics =
      (View.own plugins (L.host s) c).refresh metrics) :
    Tells (L.notifying started view) (L.journaled.notifying started view) s fun _ _ j =>
      L.Heard called j → L.Confined (called c) plugins c j := by
  refine Tells.during (Tells.get_bind fun past => Tells.log_bind ?_)
  refine (L.tells_notifyAll_shown _ view _).mono ?_
  intro r t j hj heard
  have hlisteners : L.listeners c s = called c :=
    heard c _ s (List.mem_append_left _ (List.mem_singleton_self _))
  rw [hlisteners] at hj ⊢
  have hnotices : noticesAt c ([.logged (.checkpointReached c (called c).length) s] ++ j) = j :=
    hj.noticesAt_self
  have hshown := hj.of_refresh hview
  rw [← hnotices] at hshown
  refine ⟨.reached (List.mem_append_left j (List.mem_singleton_self _)) hshown, ?_,
    hj.made_eq_nil⟩
  intro d hd
  refine silent_append.mpr ⟨List.forall_mem_singleton.mpr fun n => ?_, hj.silent hd⟩
  exact checkpointReached_ne (Ne.symm hd) _ n

theorem tells_mapM_construct_silent (plan : List β) (s : σ) :
    Tells (plan.mapM L.construct) (plan.mapM L.journaled.construct) s fun _ _ j =>
      ∀ d, Silent d j := by
  induction plan generalizing s with
  | nil => exact .pure fun d => List.forall_mem_nil _
  | cons b rest ih =>
    simp only [List.mapM_cons]
    have hconstruct : Tells (L.construct b) (L.journaled.construct b) s fun _ _ j =>
        ∀ d, Silent d j := Tells.call fun _ _ _ d => List.forall_mem_singleton.mpr trivial
    refine Tells.bind hconstruct ?_ ?_
    · intro p t i hi
      refine (Tells.bind_return (ih t) _).mono ?_
      exact fun _ _ j hj d => silent_append.mpr ⟨hi d, hj.1 d⟩
    · exact fun _ _ _ hi => hi

theorem tells_startEach_silent (started plugins : List π) (s : σ) :
    Tells (L.startEach started plugins) (L.journaled.startEach started plugins) s fun _ _ j =>
      ∀ d, Silent d j := by
  induction plugins generalizing started s with
  | nil => exact .pure fun d => List.forall_mem_nil _
  | cons p rest ih =>
    have hstart : Tells (L.start p) (L.journaled.start p) s fun _ _ j => ∀ d, Silent d j :=
      Tells.call fun _ _ _ d => List.forall_mem_singleton.mpr trivial
    refine Tells.bind (hstart.during_entries .starting started) ?_ fun _ _ _ hi => hi
    intro u t i hi
    exact (ih _ t).mono fun _ _ j hj d => silent_append.mpr ⟨hi d, hj d⟩

/-- Loading reaches no checkpoint but its own, which shows all that was constructed. -/
theorem tells_load_attended (plan : List β) (s : σ) :
    Tells (L.load plan) (L.journaled.load plan) s fun r _ j => L.Heard called j →
      L.Attended (called .pluginsLoaded) (made j) .pluginsLoaded j ∧
        (∀ d, d ≠ .pluginsLoaded → Silent d j) ∧ WhenOk r (made j = ·) := by
  have hsilent := (L.tells_mapM_construct_silent plan s).during_entries .constructing []
  refine Tells.bind ((L.tells_constructAll plan s).both hsilent) ?_ ?_
  · rintro plugins t i ⟨⟨-, -, hmade⟩, hi⟩
    let report : Log.Event := .pluginsConstructed (L.names plugins)
    have hnotifying := L.tells_notifying_confined called plugins [] (.loaded plugins)
      (L.log report t) fun _ => rfl
    refine Tells.log_bind ((Tells.bind_return hnotifying fun _ => plugins).mono ?_)
    rintro r t' j ⟨hj, hr⟩ heard
    have hconfined := (hj heard.right.right).after_silent (silent_logged (e := report) rfl t) rfl
    have hmade : made (i ++ ([.logged report t] ++ j)) = plugins := by
      rw [made_append, hconfined.made, List.append_nil, hmade]
    rw [hmade]
    refine ⟨hconfined.attended.after_silent (hi _), ?_, ?_⟩
    · exact fun d hd => silent_append.mpr ⟨hi d, hconfined.others d hd⟩
    · cases r with
      | ok made =>
        obtain ⟨-, rfl⟩ := hr
        rfl
      | error setback => trivial
  · rintro setback t i ⟨-, hi⟩ -
    exact ⟨.missed (hi _), fun d _ => hi d, trivial⟩

theorem tells_startAll_confined (s : σ) :
    Tells (L.startAll plugins) (L.journaled.startAll plugins) s fun _ _ j =>
      L.Heard called j → L.Confined (called .pluginsStarted) plugins .pluginsStarted j := by
  have hunmade {r : Except (Setback π) Unit} {i : Journal β π γ σ}
      (hi : Phase [] (plugins.map .start) r i) : made i = [] :=
    made_eq_nil hi.deeds_within (by simp)
  refine Tells.bind ((L.tells_startEach [] plugins s).both
    (L.tells_startEach_silent [] plugins s)) ?_ ?_
  · rintro u t i ⟨⟨hi, -⟩, hsilent⟩
    refine Tells.get_bind fun past => Tells.log_bind ?_
    let report : Log.Event := .pluginsStarted plugins.length (L.host t).metrics.size
    have hnotifying := L.tells_notifying_confined called plugins plugins
      (.started plugins (L.host t).metrics) (L.log report t) fun _ => rfl
    refine hnotifying.mono ?_
    intro r t' j hj heard
    have hconfined := (hj heard.right.right).after_silent (silent_logged (e := report) rfl t) rfl
    exact hconfined.after_silent hsilent (hunmade hi)
  · rintro setback t i ⟨⟨hi, -⟩, hsilent⟩ -
    exact confined_of_silent hsilent (hunmade hi)

theorem tells_assemble_confined (s : σ) :
    Tells (L.assemble plugins) (L.journaled.assemble plugins) s fun _ _ j =>
      L.Heard called j → L.Confined (called .operationBegins) plugins .operationBegins j := by
  refine Tells.get_bind fun past => ?_
  have hnotifying := L.tells_notifying_confined called plugins plugins
    (.assembled (L.host s).pipeline) s fun _ => rfl
  exact (Tells.bind_return hnotifying _).mono fun _ _ _ hj => hj.1

/-- After the loading nothing more is constructed, and two checkpoints are left. -/
theorem tells_startup_attended (s : σ) :
    Tells (L.startAll plugins >>= fun _ => L.assemble plugins)
      (L.journaled.startAll plugins >>= fun _ => L.journaled.assemble plugins) s fun _ _ j =>
        L.Heard called j → made j = [] ∧ Silent .pluginsLoaded j ∧
          ∀ c, c ≠ .pluginsLoaded → L.Attended (called c) plugins c j := by
  refine Tells.bind (L.tells_startAll_confined called plugins s) ?_ ?_
  · intro u t i hi
    refine (L.tells_assemble_confined called plugins t).mono ?_
    intro r v j hj heard
    have hi := hi heard.left
    have hj := hj heard.right
    refine ⟨?_, silent_append.mpr ⟨hi.others _ nofun, hj.others _ nofun⟩, ?_⟩
    · rw [made_append, hi.made, hj.made]
      rfl
    · intro c hc
      cases c with
      | pluginsLoaded => exact absurd rfl hc
      | pluginsStarted => exact hi.attended.before_silent (hj.others _ nofun)
      | operationBegins => exact hj.attended.after_silent (hi.others _ nofun)
  · intro setback t i hi heard
    have hi := hi heard
    refine ⟨hi.made, hi.others _ nofun, ?_⟩
    intro c hc
    cases c with
    | pluginsLoaded => exact absurd rfl hc
    | pluginsStarted => exact hi.attended
    | operationBegins => exact .missed (hi.others _ nofun)

theorem tells_boot_attended (plan : List β) (s : σ) :
    Tells (L.boot plan) (L.journaled.boot plan) s fun _ _ j => L.Heard called j →
      ∀ c, L.Attended (called c) (made j) c j := by
  refine Tells.bind (L.tells_load_attended called plan s) ?_ ?_
  · intro plugins t i hi
    refine (L.tells_startup_attended called plugins t).mono ?_
    intro r v j hj heard c
    obtain ⟨hi, hothers, hmade⟩ := hi heard.left
    obtain ⟨hunmade, hloaded, hj⟩ := hj heard.right
    have hplugins : made (i ++ j) = made i := by rw [made_append, hunmade, List.append_nil]
    have hmade : made i = plugins := hmade
    rw [hplugins]
    by_cases hc : c = .pluginsLoaded
    · subst hc
      exact hi.before_silent hloaded
    · rw [hmade]
      exact (hj c hc).after_silent (hothers c hc)
  · intro setback t i hi heard c
    obtain ⟨hi, hothers, -⟩ := hi heard
    by_cases hc : c = .pluginsLoaded
    · subst hc
      exact hi
    · exact .missed (hothers c hc)

theorem tells_launch_attended (plan : List β) (s : σ) :
    Tells (L.launch plan) (L.journaled.launch plan) s fun _ _ j => EndsAtFault j ∧
      (L.Heard called j → ∀ c, L.Attended (called c) (made j) c j) := by
  have hboot := (L.tells_boot_any plan s).both (L.tells_boot_attended called plan s)
  -- What follows the bootstrap reaches no checkpoint and constructs nothing.
  have happend {i k : Journal β π γ σ}
      (hi : L.Heard called i → ∀ c, L.Attended (called c) (made i) c i)
      (hk : ∀ d, Silent d k) (hdeeds : deeds k = []) (heard : L.Heard called (i ++ k))
      (c : Checkpoint) : L.Attended (called c) (made (i ++ k)) c (i ++ k) := by
    rw [made_append_eq_left (List.prefix_nil.mpr hdeeds) (by simp)]
    exact (hi heard.left c).before_silent (hk c)
  refine L.tells_launch_stopping hboot ?_ ?_ ?_
  · rintro agent t i ⟨hi, hattended⟩
    have hi : Done (deeds i) i := hi
    refine ⟨endsAtFault_of_no_faults ?_, happend hattended (silent_logged rfl t) rfl⟩
    rw [faults_append, hi.faults]
    rfl
  · rintro setback t i ⟨⟨hi, -⟩, hattended⟩ -
    have hfailed : FailedBy setback.fault i := by simpa using hi.failedBy (j := []) rfl
    exact ⟨hfailed.endsAtFault, hattended⟩
  · rintro setback t i k r f ⟨⟨hi, -⟩, hattended⟩ hk
    let report : Log.Event := .bootstrapFailed setback.stage.word setback.fault
    have hdeeds : deeds ([.logged report t] ++ k) = [] := hk.deeds_eq_nil
    exact ⟨(hi.failedBy hdeeds).endsAtFault,
      happend hattended (fun d => (hk.silent d).after_logged rfl t) hdeeds⟩

/-! ## Registered listeners -/

section Registered
open Enlistment
variable (wrap : Expectations → γ) (sets : Nat → Expectations)

/-- What is asked of a builder is granted if it is fresh, and else refused without a trace. At each
checkpoint that a launch reaches, those are called who were granted to be called there, each as
often as it was granted, and the newest first where no one wishes otherwise. They are shown the
view that belongs to the checkpoint. After one that fails nothing further is called. -/
theorem launch_calls_registered (asks : Checkpoint → List (Enlistment γ)) (plan : List β) (s : σ)
    (heard : L.Heard (fun c => (outcomes (enlist wrap) (asks c) ⟨sets, {}⟩).2.audience.callOrder c)
      (L.journal plan s)) :
    let j := L.journal plan s
    (∃ r t, outcome (L.launch plan) s = (r, t) ∧
      outcome (L.journaled.launch plan) (s, []) = (r, t, j)) ∧
    EndsAtFault j ∧
    (∀ o handlers, (observer o handlers : Enlistment γ).refusal.kind = "ValueError") ∧
    (∀ p, (expectations p : Enlistment γ).refusal.kind = "ExpectationsSealedError") ∧
    (∀ (k : Callback) (c : Checkpoint), c.hookName ∈ k.methods ↔ c = k.checkpoint) ∧
    (∀ (k : Callback) (view : View π k.checkpoint),
      k.receive k.checkpoint.viewName view = some view) ∧
    ∀ c, let run := outcomes (enlist wrap) (asks c) ⟨sets, {}⟩
      let a := run.2.audience
      (∀ ask, ask.Fresh sets run.1 ∧ (∃ d, enlist wrap ask run.2 = .ok () d) ∨
        ¬ ask.Fresh sets run.1 ∧ enlist wrap ask run.2 = .error ask.refusal run.2) ∧
      a.handlers c =
        (granted run.1).flatMap (fun g => (g.1.brings wrap sets).filter (·.checkpoint = c)) ∧
      (a.callOrder c).Perm ((a.handlers c).map (·.listener)) ∧
      ((∀ h ∈ a.handlers c, h.priority = .normal) →
        a.callOrder c = ((a.handlers c).map (·.listener)).reverse) ∧
      (Silent c j ∨ ∃ t r, .logged (.checkpointReached c (a.callOrder c).length) t ∈ j ∧
        L.Shown (a.callOrder c) (View.own j.made (L.host t) c)
          (L.log (.checkpointReached c (a.callOrder c).length) t) r (noticesAt c j) ∧
        (noticesAt c j).listeners <+: a.callOrder c ∧
        (r = .ok () → (noticesAt c j).listeners = a.callOrder c) ∧
        (L.KeepsViews → ∀ e ∈ noticesAt c j, ∃ l metrics r',
          e = .notified l ((View.own j.made (L.host t) c).refresh metrics) r')) := by
  intro j
  obtain ⟨r, t, i, hy, hx, hends, hattended⟩ := L.tells_launch_attended
    (fun c => (outcomes (enlist wrap) (asks c) ⟨sets, {}⟩).2.audience.callOrder c) plan s []
  have hj : j = i := congrArg (·.2.2) hx
  refine ⟨⟨r, t, hy, hj ▸ hx⟩, hj ▸ hends, fun _ _ => rfl, fun _ => rfl,
    Callback.hookName_mem_methods, fun k view => k.receive_viewName view, ?_⟩
  intro c run a
  have holds : Holds wrap sets run.1 run.2 := holds_run wrap sets (asks c)
  refine ⟨holds.enlist_iff, holds.handlers c, a.callOrder_perm c,
    Audience.callOrder_of_normal, ?_⟩
  rw [← hj] at hattended
  cases hattended heard c with
  | missed silent => exact Or.inl silent
  | reached entered shown =>
    refine Or.inr ⟨_, _, entered, shown, shown.listeners_prefix, ?_,
      fun keeps => shown.of_kept (keeps c)⟩
    rintro rfl
    exact shown.listeners_of_ok

/-- A function given twice, an observer and a set of expectations; the latter two come twice. -/
def gathering : List (Enlistment String) :=
  [.callback .pluginsStarted "f", .callback .pluginsStarted "f",
    .observer 7 [{ checkpoint := .pluginsStarted, listener := "o" },
      { checkpoint := .operationBegins, listener := "o" }],
    .observer 7 [], .expectations 0, .expectations 0]

/-- The rehearsal in front of them. -/
def premiere : Lifecycle String String String Unit :=
  { rehearsal with
    listeners := fun c _ =>
      (outcomes (enlist fun _ => "check") gathering ⟨fun _ => {}, {}⟩).2.audience.callOrder c }

theorem launch_calls_registered_premiere :
    let j := premiere.journal ["a", "b"] ()
    premiere.Heard (fun c => (outcomes (enlist fun _ => "check") gathering
      ⟨fun _ => {}, {}⟩).2.audience.callOrder c) j ∧
    premiere.KeepsViews ∧
    (noticesAt .pluginsStarted j).listeners = ["check", "o", "f", "f"] ∧
    ∀ e ∈ noticesAt .pluginsStarted j, ∃ l metrics r,
      e = .notified l (.started j.made metrics) r := by
  intro j
  have heard : premiere.Heard (fun c => (outcomes (enlist fun _ => "check") gathering
      ⟨fun _ => {}, {}⟩).2.audience.callOrder c) j := fun _ _ _ _ => rfl
  have keeps : premiere.KeepsViews := by
    intro c l view s view' t h
    cases h
    rfl
  have hcalled : (noticesAt .pluginsStarted j).listeners = ["check", "o", "f", "f"] := by
    decide +kernel
  refine ⟨heard, keeps, hcalled, ?_⟩
  obtain ⟨-, -, -, -, -, -, hlaunch⟩ := premiere.launch_calls_registered (fun _ => "check")
    (fun _ => {}) (fun _ => gathering) ["a", "b"] () heard
  obtain ⟨-, -, -, -, silent | ⟨t, r, -, -, -, -, hviews⟩⟩ := hlaunch .pluginsStarted
  · rw [silent.noticesAt_eq_nil] at hcalled
    cases hcalled
  · intro e he
    obtain ⟨l, metrics, r', rfl⟩ := hviews keeps e he
    exact ⟨l, metrics, r', rfl⟩

end Registered
end Lifecycle
end Preflight
