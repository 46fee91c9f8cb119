import Preflight.Proofs.Bootstrap.Course
import Preflight.Proofs.Bootstrap.Reports
import Preflight.Proofs.Dialogue

/-! Bootstraps in which plugins register while they start, and at no other time. What is registered
then is what the plugins were granted, each in its turn, and the listeners that are called after the
start are shown all of it. Those that are called before it are shown all plugins, as long as none of
them changes the list, which is one for all of them. -/
namespace Preflight
variable {β π γ σ τ ε α δ : Type} {c : Checkpoint}

/-- The id that a reply tells. -/
def Reply.id? : Reply → Option Nat
  | id n => some n
  | _ => none

theorem Registry.entries_push (m : Metric) (r : Registry) :
    (r.push m).entries = r.entries ++ [(r.size, m)] := by
  simp [entries, metrics_push, size, List.zipIdx_append]

theorem Registry.map_fst_entries (r : Registry) : r.entries.map (·.1) = List.range r.size := by
  rw [entries_eq_zip]
  exact List.map_fst_zip (by simp [size])

namespace Host

/-- The metrics that were granted, each with the id that was the answer, in the order of the
requests. -/
def Log.entries (log : Log) : List (Nat × Metric) :=
  (granted log).filterMap fun g => g.2.id?.bind fun id => g.1.2.metric?.map (id, ·)

theorem Log.entries_append_ok (log : Log) (c : String × Request) (r : Reply) :
    Log.entries (log ++ [(c, .ok r)]) =
      log.entries ++ (r.id?.bind fun id => c.2.metric?.map (id, ·)).toList := by
  rw [Log.entries, granted_append_ok, List.filterMap_append]
  cases h : r.id?.bind fun id => c.2.metric?.map (id, ·) <;> simp [Log.entries, h]

/-- The host holds what was granted, each metric under the id that was the answer. -/
structure Records (log : Log) (h : Host) : Prop extends Holds log h where
  entries : h.metrics.entries = log.entries

theorem records_empty : Records [] {} := ⟨holds_empty, rfl⟩

theorem Records.after_served {log : Log} {h t : Host} (hh : Records log h) {c : String × Request}
    {r : Except Fault Reply} (hs : Served c.1 h c.2 r t) : Records (log ++ [(c, r)]) t := by
  refine ⟨hh.toHolds.after_served hs, ?_⟩
  obtain ⟨plugin, q⟩ := c
  cases hs with
  | refused _ f => rw [hh.entries, Log.entries, Log.entries, granted_append_error]
  | @metric _ m described free =>
    rw [Log.entries_append_ok, described, ← hh.entries]
    exact Registry.entries_push m h.metrics
  | element free =>
    rw [Log.entries_append_ok, ← hh.entries]
    simp [setPipeline, Reply.id?]
  | read r noMetric noElement =>
    rw [Log.entries_append_ok, noMetric, hh.entries]
    cases r.id? <;> simp

end Host

namespace Dialogue
open Host (Records)

/-- What a plugin asks for in a dialogue, each request with what it comes to. -/
def log (name : String) : Dialogue τ → Host × τ → Host.Log
  | finish _, _ => []
  | look next, s => (next s.1.metrics s.2).log name s
  | keep own next, s => next.log name (s.1, own)
  | ask q next, s =>
    let (r, h) := Host.answer name q s.1
    ((name, q), r) :: (next r).log name (h, s.2)

/-- Dialogues of plugins, one after the other. -/
def runAll : List (String × Dialogue τ) → Host × τ → Host × τ
  | [], s => s
  | (name, d) :: rest, s => runAll rest (d.run name s).2

def logAll : List (String × Dialogue τ) → Host × τ → Host.Log
  | [], _ => []
  | (name, d) :: rest, s => d.log name s ++ logAll rest (d.run name s).2

/-- After a dialogue the host holds what was granted in it, and what it held before. -/
theorem records_run (name : String) (d : Dialogue τ) {past : Host.Log} {s : Host × τ}
    (hs : Records past s.1) : Records (past ++ d.log name s) (d.run name s).2.1 := by
  induction d generalizing past s with
  | finish r => simpa [log, run] using hs
  | look next ih => exact ih _ _ hs
  | keep own next ih => exact ih hs
  | ask q next ih =>
    have hserved := hs.after_served (c := (name, q))
      (Host.served_serve hs.sound.consistent name q)
    have hrest := ih (Host.answer name q s.1).1 (s := ((Host.answer name q s.1).2, s.2)) hserved
    rwa [List.append_assoc] at hrest

theorem records_runAll (ds : List (String × Dialogue τ)) {past : Host.Log} {s : Host × τ}
    (hs : Records past s.1) : Records (past ++ logAll ds s) (runAll ds s).1 := by
  induction ds generalizing past s with
  | nil => simpa [logAll, runAll] using hs
  | cons d rest ih =>
    have hrest := ih (records_run d.1 d.2 hs)
    rwa [List.append_assoc] at hrest

end Dialogue

namespace Leads
variable {R : σ → σ → Prop}

theorem mapM (refl : ∀ s, R s s) (trans : ∀ s t u, R s t → R t u → R s u)
    {f : α → EStateM ε σ δ} {as : List α} (h : ∀ a ∈ as, Leads R (f a)) : Leads R (as.mapM f) := by
  induction as with
  | nil => exact pure refl _
  | cons a rest ih =>
    rw [List.mapM_cons]
    refine bind trans (h a List.mem_cons_self) fun _ => ?_
    exact bind trans (ih fun b hb => h b (List.mem_cons_of_mem a hb)) fun _ => pure refl _

theorem foldlM (refl : ∀ s, R s s) (trans : ∀ s t u, R s t → R t u → R s u)
    {f : δ → α → EStateM ε σ δ} {as : List α} (h : ∀ a ∈ as, ∀ d, Leads R (f d a)) (d : δ) :
    Leads R (as.foldlM f d) := by
  induction as generalizing d with
  | nil => exact pure refl d
  | cons a rest ih =>
    rw [List.foldlM_cons]
    refine bind trans (h a List.mem_cons_self d) fun d' => ?_
    exact ih (fun b hb => h b (List.mem_cons_of_mem a hb)) d'

end Leads

theorem View.refresh_own (plugins : List π) (host : Host) (c : Checkpoint) :
    (View.own plugins host c).refresh host.metrics = View.own plugins host c := by
  cases c <;> rfl

/-- The listener has failed, or has left the view as it was given. -/
def Entry.LeavesView : Entry β π γ σ → Prop
  | notified _ view (.ok view') => view' = view
  | _ => True

namespace Journal

/-- The listeners of a checkpoint are shown the view that belongs to it. -/
def Shows (plugins : List π) (host : Host) (c : Checkpoint) (j : Journal β π γ σ) : Prop :=
  ∀ l (view : View π c) r, .notified l view r ∈ j → view = View.own plugins host c

/-- Before the start a listener is shown all plugins, unless one before it has changed the list. -/
def Opens (plugins : List π) (j : Journal β π γ σ) : Prop :=
  ∀ before l (view : View π .pluginsLoaded) r after,
    noticesAt .pluginsLoaded j = before ++ .notified l view r :: after →
      (∀ e ∈ before, e.LeavesView) → view = .loaded plugins

variable {i j : Journal β π γ σ} {plugins : List π} {host : Host}

/-- A report of anything but a checkpoint breaks no silence. -/
theorem Silent.report (hi : Silent c i) (hj : Silent c j) {e : Log.Event}
    (he : decide (e.level = .debug) = false) (s : σ) : Silent c (i ++ ([.logged e s] ++ j)) :=
  silent_append.mpr ⟨hi, silent_append.mpr ⟨silent_logged he s c, hj⟩⟩

theorem Silent.shows (h : Silent c j) : Shows plugins host c j :=
  fun _ _ _ hmem => absurd rfl (h _ hmem)

theorem shows_logged (e : Log.Event) (s : σ) :
    Shows plugins host c ([.logged e s] : Journal β π γ σ) :=
  fun _ _ _ hmem => nomatch List.mem_singleton.mp hmem

theorem Shows.append (hi : Shows plugins host c i) (hj : Shows plugins host c j) :
    Shows plugins host c (i ++ j) :=
  fun l view r hmem => (List.mem_append.mp hmem).elim (hi l view r) (hj l view r)

theorem Opens.before_silent (h : Opens plugins i) (hj : Silent .pluginsLoaded j) :
    Opens plugins (i ++ j) := by
  rw [Opens, noticesAt_append, hj.noticesAt_eq_nil, List.append_nil]
  exact h

theorem Opens.after_silent (hi : Silent .pluginsLoaded i) (h : Opens plugins j) :
    Opens plugins (i ++ j) := by
  rw [Opens, noticesAt_append, hi.noticesAt_eq_nil, List.nil_append]
  exact h

end Journal

namespace Lifecycle
open Journal
variable (L : Lifecycle β π γ σ) (ready : σ → Prop) (own : σ → τ) (script : π → Dialogue τ)

/-- Nothing has been registered, and what plugins need to start is still there. -/
def Undisturbed (s t : σ) : Prop := L.host t = L.host s ∧ (ready s → ready t)

/-- Where the state is ready for it, the start of a plugin is the dialogue, and the state is ready
for the next one. -/
structure Conducts (d : Dialogue τ) (p : π) : Prop where
  start : ∀ s, ready s → d.run (L.name p) (L.host s, own s) =
    ((outcome (L.start p) s).1, L.host (outcome (L.start p) s).2, own (outcome (L.start p) s).2)
  ready : ∀ s, ready s → ready (outcome (L.start p) s).2

/-- Plugins register in their dialogues, and not while they are constructed. -/
structure Reserved (plan : List β) : Prop where
  construct : ∀ b ∈ plan, Leads (L.Undisturbed ready) (L.construct b)
  start : ∀ b ∈ plan, ∀ p, L.Makes b p → L.Conducts ready own (script p) p

/-- Only the list of plugins is a listener's to change. -/
def FreezesViews : Prop :=
  ∀ c, c ≠ .pluginsLoaded → ∀ (l : γ) (view : View π c) (s : σ) (view' : View π c) (t : σ),
    L.notify l view s = .ok view' t → view' = view

/-- Plugins register only while they start, and do so in dialogues with a host where nothing is
registered before: neither constructors nor what is logged nor the listeners that are called change
it. -/
structure OnlyStartsRegister (plan : List β) (s : σ) : Prop where
  frozen : L.FreezesViews
  reserved : L.Reserved ready own script plan
  prepared : ready s
  fresh : L.host s = {}
  onlookers : L.Onlookers (L.Undisturbed ready) (L.journal plan s)

/-- The dialogues of plugins. -/
def scripts (plugins : List π) : List (String × Dialogue τ) :=
  plugins.map fun p => (L.name p, script p)

variable {L ready own script} {listeners : List γ} {s t u : σ} {plan : List β} {plugins : List π}

theorem Undisturbed.refl (s : σ) : L.Undisturbed ready s s := ⟨rfl, id⟩

theorem Undisturbed.trans (s t u : σ) (h : L.Undisturbed ready s t)
    (h' : L.Undisturbed ready t u) : L.Undisturbed ready s u :=
  ⟨h'.1.trans h.1, h'.2 ∘ h.2⟩

theorem Reserved.conducts (reserved : L.Reserved ready own script plan)
    (made : List.Forall₂ L.Makes plan plugins) :
    ∀ p ∈ plugins, L.Conducts ready own (script p) p := by
  have hplugins : List.Forall₂ (fun p _ => L.Conducts ready own (script p) p ∧ True)
      plugins plan := by
    refine ((List.forall₂_and_left plan plugins).mpr ⟨fun b hb => hb, made⟩).flip.imp ?_
    rintro p b ⟨hb, hp⟩
    exact ⟨reserved.start b hb p hp, trivial⟩
  exact ((List.forall₂_and_left plugins plan).mp hplugins).1

/-! ## The start -/

theorem tells_startEach_conducts (h : ∀ p ∈ plugins, L.Conducts ready own (script p) p)
    (started : List π) (s : σ) :
    Tells (L.startEach started plugins) (L.journaled.startEach started plugins) s fun r t _ =>
      ready s → ready t ∧ WhenOk r fun _ =>
        (L.host t, own t) = Dialogue.runAll (L.scripts script plugins) (L.host s, own s) := by
  induction plugins generalizing started s with
  | nil => exact .pure fun hready => ⟨hready, rfl⟩
  | cons p rest ih =>
    have hp := h p List.mem_cons_self
    have hstart : Tells (during .starting started (L.start p))
        (during .starting started (L.journaled.start p)) s fun _ t _ => ready s → ready t ∧
          (L.host t, own t) = ((script p).run (L.name p) (L.host s, own s)).2 := by
      refine Tells.during (Tells.call fun r t hcall hready => ?_)
      have hrun := hp.start s hready
      have hafter := hp.ready s hready
      rw [hcall] at hrun hafter
      exact ⟨hafter, (congrArg Prod.snd hrun).symm⟩
    refine Tells.bind hstart ?_ fun _ _ _ hi hready => ⟨(hi hready).1, trivial⟩
    intro u t i hi
    refine (ih (fun q hq => h q (List.mem_cons_of_mem p hq)) (started ++ [p]) t).mono ?_
    intro r v j hj hready
    obtain ⟨hready', hst⟩ := hi hready
    obtain ⟨hready'', htv⟩ := hj hready'
    rw [hst] at htv
    exact ⟨hready'', htv⟩

/-! ## What listeners are shown -/

/-- Views that listeners cannot change are the same for all of them, as long as nothing is
registered. -/
theorem Shown.shows {view : View π c} {r : Except Fault Unit} {j : Journal β π γ σ}
    (h : L.Shown listeners view s r j) (frozen : L.FreezesViews) (hc : c ≠ .pluginsLoaded)
    (onlookers : L.Onlookers (L.Undisturbed ready) j)
    (hview : view.refresh (L.host s).metrics = View.own plugins (L.host s) c) :
    Shows plugins (L.host s) c j := by
  induction h with
  | nil => exact fun _ _ _ hmem => absurd hmem List.not_mem_nil
  | @next l rest view view' s t r j called later ih =>
    have hkept := frozen c hc l _ s view' t called
    have hhost : L.host t = L.host s := by
      have hst := (onlookers.listeners l List.mem_cons_self c (view.refresh (L.host s).metrics) s).1
      rwa [outcome_of_ok called] at hst
    have hrest := ih (Onlookers.right (i := [_]) onlookers) (by
      rw [hkept, View.refresh_refresh, hhost, hview])
    rw [hhost] at hrest
    rintro l' view'' r' hmem
    rcases List.mem_cons.mp hmem with heq | hmem
    · cases heq
      exact hview
    · exact hrest l' view'' r' hmem
  | @failed l rest view s t f called =>
    rintro l' view' r' hmem
    cases List.mem_singleton.mp hmem
    exact hview

/-- A view is the one that all began with, as long as every listener has left it as it was. -/
theorem Shown.view_of_left {view : View π c} {r : Except Fault Unit} {j : Journal β π γ σ}
    (h : L.Shown listeners view s r j) {before after : Journal β π γ σ} {l : γ} {seen : View π c}
    {r' : Except Fault (View π c)} (hj : j = before ++ .notified l seen r' :: after)
    (hleft : ∀ e ∈ before, e.LeavesView) : ∃ metrics, seen = view.refresh metrics := by
  induction h generalizing before with
  | nil => simp at hj
  | @next l rest view view' s t r j called later ih =>
    cases before with
    | nil =>
      cases hj
      exact ⟨_, rfl⟩
    | cons e before =>
      cases hj
      obtain ⟨he, hbefore⟩ := List.forall_mem_cons.mp hleft
      obtain ⟨metrics, hseen⟩ := ih rfl hbefore
      have he : view' = view.refresh (L.host s).metrics := he
      rw [he, View.refresh_refresh] at hseen
      exact ⟨metrics, hseen⟩
  | failed called =>
    cases before with
    | nil =>
      cases hj
      exact ⟨_, rfl⟩
    | cons e before => simp at hj

/-- Reaching a checkpoint has nothing to do with another one. -/
theorem Shown.silent_reached {view : View π c} {r : Except Fault Unit} {j : Journal β π γ σ}
    (h : L.Shown listeners view s r j) {d : Checkpoint} (hd : d ≠ c) (n : Nat) (u : σ) :
    Silent d ([.logged (.checkpointReached c n) u] ++ j) := by
  refine silent_append.mpr ⟨List.forall_mem_singleton.mpr ?_, h.silent hd⟩
  exact checkpointReached_ne (Ne.symm hd) n

section Notifying
variable (L) (ready)

theorem tells_notifying_undisturbed (started : List π) (view : View π c) (s : σ) :
    Tells (L.notifying started view) (L.journaled.notifying started view) s fun _ t j =>
      L.Onlookers (L.Undisturbed ready) j → L.Undisturbed ready s t :=
  L.tells_notifying_onlookers Undisturbed.refl Undisturbed.trans started view s

/-- After the start the listeners of a checkpoint are all shown its own view. -/
theorem tells_notifying_shows (frozen : L.FreezesViews) (started plugins : List π)
    (hc : c ≠ .pluginsLoaded) (view : View π c) (s : σ) (hview : ∀ metrics, view.refresh metrics =
      (View.own plugins (L.host s) c).refresh metrics) :
    Tells (L.notifying started view) (L.journaled.notifying started view) s fun _ t j =>
      (∀ d, d ≠ c → Silent d j) ∧ (L.Onlookers (L.Undisturbed ready) j →
        L.Undisturbed ready s t ∧ Shows plugins (L.host t) c j) := by
  refine ((L.tells_notifying_shown started view s).both
    (L.tells_notifying_undisturbed ready started view s)).mono ?_
  rintro r t j ⟨⟨-, r', k, rfl, hshown⟩, hst⟩
  refine ⟨fun d hd => hshown.silent_reached hd _ s, fun onlookers => ⟨hst onlookers, ?_⟩⟩
  have hlog := (onlookers.log (.checkpointReached c (L.listeners c s).length) s).1
  have hown : (View.own plugins (L.host s) c).refresh
      (L.host (L.log (.checkpointReached c (L.listeners c s).length) s)).metrics =
        View.own plugins (L.host (L.log (.checkpointReached c (L.listeners c s).length) s)) c := by
    rw [hlog, View.refresh_own]
  have hshows := (hshown.of_refresh hview).shows frozen hc onlookers.right hown
  rw [hlog] at hshows
  rw [(hst onlookers).1]
  exact (shows_logged _ s).append hshows

/-- Before the start it is as long the view of all plugins as no listener changes the list. -/
theorem tells_notifying_opens (started plugins : List π) (s : σ) :
    Tells (L.notifying started (.loaded plugins))
      (L.journaled.notifying started (.loaded plugins)) s fun _ _ j =>
        (∀ d, d ≠ .pluginsLoaded → Silent d j) ∧ Opens plugins j := by
  refine (L.tells_notifying_shown started _ s).mono ?_
  rintro r t j ⟨-, r', k, rfl, hshown⟩
  refine ⟨fun d hd => hshown.silent_reached hd _ s, ?_⟩
  intro before l view r after hsplit hleft
  have hnotices : noticesAt .pluginsLoaded
      ([.logged (.checkpointReached .pluginsLoaded (L.listeners .pluginsLoaded s).length) s] ++ k) =
        k := hshown.noticesAt_self
  rw [hnotices] at hsplit
  obtain ⟨metrics, rfl⟩ := hshown.view_of_left hsplit hleft
  rfl

end Notifying

/-! ## The parts of a bootstrap -/

theorem tells_load_opens (reserved : L.Reserved ready own script plan) (s : σ) :
    Tells (L.load plan) (L.journaled.load plan) s fun r t j =>
      (∀ d, d ≠ .pluginsLoaded → Silent d j) ∧
      (L.Onlookers (L.Undisturbed ready) j → L.Undisturbed ready s t) ∧
      WhenOk r fun plugins => List.Forall₂ L.Makes plan plugins ∧ Opens plugins j := by
  have hleads : Leads (L.Undisturbed ready) (plan.mapM L.construct) :=
    Leads.mapM Undisturbed.refl Undisturbed.trans reserved.construct
  have hconstruct : Tells (during .constructing ([] : List π) (plan.mapM L.construct))
      (during .constructing [] (plan.mapM L.journaled.construct)) s fun r t j =>
        L.Undisturbed ready s t ∧ (∀ d, Silent d j) ∧ WhenOk r (List.Forall₂ L.Makes plan) := by
    refine Tells.during (((tells_mapM_construct_makes plan s).both
      (L.tells_mapM_construct_silent plan s)).outcome_eq.mono ?_)
    rintro r t j ⟨hcall, hmakes, hsilent⟩
    have hst := hleads s
    rw [hcall] at hst
    cases r with
    | ok plugins => exact ⟨hst, hsilent, hmakes⟩
    | error f => exact ⟨hst, hsilent, trivial⟩
  refine Tells.bind hconstruct ?_ ?_
  · rintro plugins t i ⟨hst, hi, hmakes⟩
    let report : Log.Event := .pluginsConstructed (L.names plugins)
    have hnotifying := (L.tells_notifying_opens [] plugins (L.log report t)).both
      (L.tells_notifying_undisturbed ready [] (.loaded plugins) (L.log report t))
    refine Tells.log_bind ((Tells.bind_return hnotifying fun _ => plugins).mono ?_)
    rintro r t' j ⟨⟨⟨hj, hopens⟩, htu⟩, hr⟩
    refine ⟨fun d hd => (hi d).report (hj d hd) (e := report) rfl t, fun onlookers => ?_, ?_⟩
    · have hlog := onlookers.log report t
      exact hst.trans _ _ _ (hlog.trans _ _ _ (htu onlookers.right.right))
    · cases r with
      | ok made =>
        obtain ⟨-, rfl⟩ := hr
        have hreported := Opens.after_silent (silent_logged (e := report) rfl t _) hopens
        exact ⟨hmakes, .after_silent (hi _) hreported⟩
      | error setback => trivial
  · rintro setback t i ⟨hst, hi, -⟩
    exact ⟨fun d _ => hi d, fun _ => hst, trivial⟩

theorem tells_startAll_shows (frozen : L.FreezesViews)
    (h : ∀ p ∈ plugins, L.Conducts ready own (script p) p) (s : σ) :
    Tells (L.startAll plugins) (L.journaled.startAll plugins) s fun r t j =>
      (∀ d, d ≠ .pluginsStarted → Silent d j) ∧
      (L.Onlookers (L.Undisturbed ready) j → ready s → WhenOk r fun _ =>
        L.host t = (Dialogue.runAll (L.scripts script plugins) (L.host s, own s)).1 ∧ ready t ∧
        Shows plugins (L.host t) .pluginsStarted j) := by
  refine Tells.bind ((tells_startEach_conducts h [] s).both (L.tells_startEach_silent [] plugins s))
    ?_ ?_
  · rintro u t i ⟨hi, hsilent⟩
    let report : Log.Event := .pluginsStarted plugins.length (L.host t).metrics.size
    refine Tells.get_bind fun past => Tells.log_bind ?_
    refine (L.tells_notifying_shows ready frozen plugins plugins (c := .pluginsStarted) nofun
      (.started plugins (L.host t).metrics) (L.log report t) fun _ => rfl).mono ?_
    rintro r v j ⟨hj, hshows⟩
    refine ⟨fun d hd => (hsilent d).report (hj d hd) (e := report) rfl t, ?_⟩
    intro onlookers hready
    obtain ⟨hready', hrun⟩ := hi hready
    obtain ⟨hlv, hshows⟩ := hshows onlookers.right.right
    have htv := (onlookers.log report t).trans _ _ _ hlv
    cases r with
    | ok w =>
      refine ⟨htv.1.trans (congrArg Prod.fst hrun), htv.2 hready', ?_⟩
      exact (hsilent _).shows.append ((shows_logged report t).append hshows)
    | error setback => trivial
  · rintro setback t i ⟨-, hsilent⟩
    exact ⟨fun d _ => hsilent d, fun _ _ => trivial⟩

theorem tells_assemble_shows (ready : σ → Prop) (frozen : L.FreezesViews) (plugins : List π)
    (s : σ) :
    Tells (L.assemble plugins) (L.journaled.assemble plugins) s fun r t j =>
      (∀ d, d ≠ .operationBegins → Silent d j) ∧
      (L.Onlookers (L.Undisturbed ready) j → L.host t = L.host s ∧
        Shows plugins (L.host t) .operationBegins j) ∧
      WhenOk r fun agent => agent = { plugins, pipeline := (L.host s).pipeline } := by
  refine Tells.get_bind fun past => ?_
  have hnotifying := L.tells_notifying_shows ready frozen plugins plugins (c := .operationBegins)
    nofun (.assembled (L.host s).pipeline) s fun _ => rfl
  refine (Tells.bind_return hnotifying _).mono ?_
  rintro r t j ⟨⟨hj, hshows⟩, hr⟩
  refine ⟨hj, fun onlookers => ⟨(hshows onlookers).1.1, (hshows onlookers).2⟩, ?_⟩
  cases r with
  | ok agent =>
    obtain ⟨-, rfl⟩ := hr
    rfl
  | error setback => trivial

variable (L ready own script) in
/-- What has been registered, and what listeners have been shown, when plugins are done with their
dialogues. -/
structure Roll (plan : List β) (s : σ) (agent : Agent π) (t : σ) (j : Journal β π γ σ) : Prop where
  made : List.Forall₂ L.Makes plan agent.plugins
  host : L.host t = (Dialogue.runAll (L.scripts script agent.plugins)
    (L.host s, own (outcome (L.load plan) s).2)).1
  pipeline : agent.pipeline = (L.host t).pipeline
  opens : Opens agent.plugins j
  shows (c : Checkpoint) : c ≠ .pluginsLoaded → Shows agent.plugins (L.host t) c j

theorem tells_boot_roll (frozen : L.FreezesViews) (reserved : L.Reserved ready own script plan)
    (s : σ) :
    Tells (L.boot plan) (L.journaled.boot plan) s fun r t j =>
      L.Onlookers (L.Undisturbed ready) j → ready s → WhenOk r fun agent =>
        L.Roll own script plan s agent t j := by
  refine Tells.bind (tells_load_opens reserved s).outcome_eq ?_ fun _ _ _ _ _ _ => trivial
  rintro plugins t i ⟨hload, hi, hst, hmakes, hopens⟩
  refine Tells.bind (tells_startAll_shows frozen (reserved.conducts hmakes) t) ?_
    fun _ _ _ _ _ _ => trivial
  rintro u t' j ⟨hj, hstarted⟩
  refine (tells_assemble_shows ready frozen plugins t').mono ?_
  rintro r v k ⟨hk, hassembled, hagent⟩ onlookers hready
  cases r with
  | error setback => trivial
  | ok agent =>
    obtain rfl : agent = _ := hagent
    have hst := hst onlookers.left
    obtain ⟨hhost, -, hstartedViews⟩ := hstarted onlookers.right.left (hst.2 hready)
    obtain ⟨hlast, hassembledViews⟩ := hassembled onlookers.right.right
    refine ⟨hmakes, ?_, congrArg Host.pipeline hlast.symm, ?_, fun c hc => ?_⟩
    · rw [hlast, hhost, hst.1, hload]
    · exact hopens.before_silent (silent_append.mpr ⟨hj _ nofun, hk _ nofun⟩)
    · refine (hi c hc).shows.append ?_
      cases c with
      | pluginsLoaded => exact absurd rfl hc
      | pluginsStarted =>
        rw [hlast]
        exact hstartedViews.append (hk .pluginsStarted nofun).shows
      | operationBegins => exact (hj .operationBegins nofun).shows.append hassembledViews

end Lifecycle
end Preflight
