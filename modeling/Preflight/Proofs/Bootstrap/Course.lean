import Mathlib.Data.List.Forall2
import Preflight.Proofs.Bootstrap.Verdict

/-! How a bootstrap ends whose plugins start by scripts of registrations, and whose listeners are
checks: by what the scripts have room for, and by what is expected of the whole. -/
namespace Preflight
variable {β π γ σ α : Type} {c : Checkpoint}

/-- The name of a plugin, and what it asks for when it starts. -/
structure Role where
  name : String
  script : List Request

def Role.calls (r : Role) : List (String × Request) := r.script.map (r.name, ·)

namespace Journal
variable {i j k : Journal β π γ σ}

/-- Each plugin that was made has started. -/
def AllStarted (j : Journal β π γ σ) : Prop := j.running = j.made

/-- No constructor failed. -/
def Constructed (j : Journal β π γ σ) : Prop := ∀ b f, Entry.constructed b (.error f) ∉ j

theorem Constructed.left (h : Constructed (i ++ j)) : i.Constructed :=
  fun b f hb => h b f (List.mem_append_left j hb)

theorem Returned.constructed (h : j.Returned) : j.Constructed := by
  intro b f hb
  cases h _ hb

/-- As long as nothing is started, only a constructor can fail to return. -/
theorem Constructed.returned (h : j.Constructed) (unstarted : ∀ p, Deed.start p ∉ j.deeds) :
    j.Returned := by
  intro e he
  cases e with
  | constructed b r =>
    cases r with
    | ok p => rfl
    | error f => exact absurd he (h b f)
  | started p r =>
    have hmem : Deed.start p ∈ j.deeds := List.mem_filterMap.mpr ⟨_, he, rfl⟩
    exact absurd hmem (unstarted p)
  | _ => rfl

end Journal

namespace Lifecycle
open Journal Expectations Host
variable (L : Lifecycle β π γ σ)

/-- The plugin goes by the name of its role, and starts by asking for what its role says. -/
structure Plays (role : Role) (p : π) : Prop where
  name : L.name p = role.name
  start : ∀ s, ∃ t, outcome (L.start p) s = ((outcome (serveAll role.calls) (L.host s)).1, t) ∧
    L.host t = (outcome (serveAll role.calls) (L.host s)).2

def Makes (b : β) (p : π) : Prop := ∃ s t, L.construct b s = .ok p t

/-- Whatever is constructed by the plan plays its role, and roles are to register things. -/
structure Cast (plan : List β) (role : β → Role) : Prop where
  plays : ∀ b ∈ plan, ∀ p, L.Makes b p → L.Plays (role b) p
  registers : ∀ b ∈ plan, ∀ q ∈ (role b).script, q.Registers

def calls (plan : List β) (role : β → Role) : List (String × Request) :=
  plan.flatMap fun b => (role b).calls

variable {L} {wrap : Expectations → γ} {plan : List β} {plugins : List π} {role : β → Role}

theorem Cast.registers_calls (cast : L.Cast plan role) : ∀ d ∈ calls plan role, d.2.Registers := by
  intro d hd
  obtain ⟨b, hb, hd⟩ := List.mem_flatMap.mp hd
  obtain ⟨q, hq, rfl⟩ := List.mem_map.mp hd
  exact cast.registers b hb q hq

theorem Cast.forall₂ (cast : L.Cast plan role) (made : List.Forall₂ L.Makes plan plugins) :
    List.Forall₂ (fun b => L.Plays (role b)) plan plugins := by
  induction made with
  | nil => exact .nil
  | @cons b p rest ps hp made ih =>
    refine .cons (cast.plays b List.mem_cons_self p hp) (ih ⟨fun b' hb' => ?_, fun b' hb' => ?_⟩)
    · exact cast.plays b' (List.mem_cons_of_mem b hb')
    · exact cast.registers b' (List.mem_cons_of_mem b hb')

theorem names_of_plays (played : List.Forall₂ (fun b => L.Plays (role b)) plan plugins) :
    L.names plugins = plan.map fun b => (role b).name := by
  induction played with
  | nil => rfl
  | cons hp _ ih =>
    rw [names, List.map_cons, hp.name, List.map_cons, ← ih]
    rfl

theorem tells_mapM_construct_makes (plan : List β) (s : σ) :
    Tells (plan.mapM L.construct) (plan.mapM L.journaled.construct) s fun r _ _ =>
      WhenOk r (List.Forall₂ L.Makes plan) := by
  induction plan generalizing s with
  | nil => exact .pure .nil
  | cons b rest ih =>
    simp only [List.mapM_cons]
    have hconstruct : Tells (L.construct b) (L.journaled.construct b) s fun r _ _ =>
        WhenOk r (L.Makes b) := by
      refine Tells.call fun r t h => ?_
      cases r with
      | ok p => exact ⟨s, t, outcome_eq_ok h⟩
      | error f => trivial
    refine Tells.bind hconstruct ?_ fun f t i _ => trivial
    intro p t i hp
    refine Tells.bind (ih t) ?_ fun f u j _ => trivial
    intro plugins u j hplugins
    exact .pure (.cons hp hplugins)

/-- Whatever the check of the plugins comes to, all of them have been made. -/
theorem tells_load_makes (called : Checkpoint → List γ) (plan : List β) (s : σ) :
    Tells (L.load plan) (L.journaled.load plan) s fun r _ j =>
      WhenOk r (List.Forall₂ L.Makes plan) ∧
        (L.Heard called j → j.Constructed → List.Forall₂ L.Makes plan (made j)) := by
  have hconstruct : Tells (during .constructing ([] : List π) (plan.mapM L.construct))
      (during .constructing [] (plan.mapM L.journaled.construct)) s fun r _ j =>
        (Phase [] (plan.map .construct) r j ∧ running j = [] ∧ WhenOk r (made j = ·)) ∧
          WhenOk r (List.Forall₂ L.Makes plan) := by
    refine (L.tells_constructAll plan s).both (Tells.during ?_)
    refine (tells_mapM_construct_makes plan s).mono fun r t j hj => ?_
    cases r with
    | ok plugins => exact hj
    | error f => trivial
  refine Tells.bind hconstruct ?_ ?_
  · intro plugins t i hi
    obtain ⟨⟨-, -, hmade⟩, hmakes⟩ := hi
    have hmade : made i = plugins := hmade
    have hmade' : List.Forall₂ L.Makes plan (made i) := hmade ▸ hmakes
    have hlogged {j : Journal β π γ σ} {ds : List (Deed β π γ)} (hj : deeds j <+: ds) :
      deeds ([.logged (.pluginsConstructed (L.names plugins)) t] ++ j) <+: ds := hj
    refine Tells.log_bind (Tells.bind (L.tells_notifying called [] (.loaded plugins) _) ?_ ?_)
    · intro u t' j hj
      refine Tells.pure ⟨hmakes, fun heard _ => ?_⟩
      rw [List.append_nil] at heard ⊢
      have hwithin := hlogged (hj heard.right.right).deeds_within
      rwa [made_append_eq_left hwithin (by simp)]
    · intro setback t' j hj
      refine ⟨trivial, fun heard _ => ?_⟩
      have hwithin := hlogged (hj heard.right.right).deeds_within
      rwa [made_append_eq_left hwithin (by simp)]
  · intro setback t i hi
    refine ⟨trivial, fun _ constructed => ?_⟩
    -- The fault would be that of a constructor.
    obtain ⟨⟨⟨hbroken, -⟩, -⟩, -⟩ := hi
    obtain ⟨before, e, rfl, -, hf, hd⟩ := hbroken.last
    have hmem : e ∈ before ++ [e] := List.mem_append_right _ (List.mem_singleton_self e)
    cases e with
    | constructed b r =>
      cases r with
      | ok p => cases hf
      | error f => exact absurd hmem (constructed b f)
    | started p r =>
      have hstart := hbroken.deeds.subset (List.mem_filterMap.mpr ⟨_, hmem, rfl⟩)
      simp at hstart
    | notified l view r =>
      have hnotify := hbroken.deeds.subset (List.mem_filterMap.mpr ⟨_, hmem, rfl⟩)
      simp at hnotify
    | _ => cases hd

theorem tells_load_course (hosting : L.Hosting) (checking : L.Checking wrap)
    (es : List Expectations) (plan : List β) (s : σ) :
    Tells (L.load plan) (L.journaled.load plan) s fun r t j =>
      WhenOk r (List.Forall₂ L.Makes plan) ∧
        (L.Heard (fun _ => es.map wrap) j → j.Constructed →
          List.Forall₂ L.Makes plan (made j) ∧ L.host t = L.host s ∧ WhenOk r (made j = ·) ∧
            (running j = [] ∧ ∀ setback, r = .error setback → setback.started = []) ∧
            Judged (r.mapError (·.fault)) (es.forM (·.checkPlugins (L.names (made j))))) := by
  have hload := (L.tells_load (fun _ => es.map wrap) plan s).both
    ((tells_load_checks hosting checking es plan s).both
      (tells_load_makes (fun _ => es.map wrap) plan s))
  refine hload.mono fun r t j hj => ⟨hj.2.2.1, fun heard constructed => ?_⟩
  obtain ⟨hphase, hrun, hmade⟩ := hj.1 heard
  have hunstarted : ∀ p, Deed.start p ∉ deeds j := by
    intro p hp
    simpa using hphase.deeds_within.subset hp
  obtain ⟨hhost, -, -, hjudged⟩ := hj.2.1 heard (constructed.returned hunstarted)
  refine ⟨hj.2.2.2 heard constructed, hhost, hmade, ⟨hrun, fun setback hr => ?_⟩, hjudged⟩
  subst hr
  rw [hphase.2, hrun]
  rfl

/-- Starting plugins is to serve their scripts. One that fails is not the last to have started. -/
theorem tells_startEach_plays (played : List.Forall₂ (fun b => L.Plays (role b)) plan plugins)
    (started : List π) (s : σ) :
    Tells (L.startEach started plugins) (L.journaled.startEach started plugins) s fun r t j =>
      outcome (serveAll (calls plan role)) (L.host s) = (r.mapError (·.fault), L.host t) ∧
        ∀ setback, r = .error setback → (running j).length < plugins.length := by
  induction played generalizing started s with
  | nil =>
    refine Tells.pure ⟨rfl, fun setback hr => ?_⟩
    cases hr
  | @cons b p rest ps hp played ih =>
    have hcalls : calls (b :: rest) role = (role b).calls ++ calls rest role := List.flatMap_cons
    have hstart : Tells (during .starting started (L.start p))
        (during .starting started (L.journaled.start p)) s fun r t j =>
          outcome (serveAll (role b).calls) (L.host s) = (r.mapError (·.fault), L.host t) ∧
            j = [.started p (r.mapError (·.fault))] := by
      refine Tells.during (Tells.call fun r t h => ?_)
      obtain ⟨t', hout, hhost⟩ := hp.start s
      rw [hout] at h
      cases h
      generalize outcome (serveAll (role b).calls) (L.host s) = served at hhost
      obtain ⟨r, u⟩ := served
      cases r with
      | ok v => exact ⟨by rw [hhost]; rfl, rfl⟩
      | error f => exact ⟨by rw [hhost]; rfl, rfl⟩
    refine Tells.bind hstart ?_ ?_
    · intro u t i hi
      obtain ⟨hserved, rfl⟩ := hi
      refine (ih (started ++ [p]) t).mono fun r v j hj => ⟨?_, fun setback hr => ?_⟩
      · rw [hcalls, outcome, serveAll_append_of_ok (outcome_eq_ok hserved)]
        exact hj.1
      · have hlt := hj.2 setback hr
        calc (p :: running j).length = (running j).length + 1 := List.length_cons
          _ < ps.length + 1 := Nat.succ_lt_succ hlt
          _ = (p :: ps).length := List.length_cons.symm
    · intro setback t i hi
      obtain ⟨hserved, rfl⟩ := hi
      refine ⟨?_, fun e _ => Nat.succ_pos _⟩
      rw [hcalls, outcome, serveAll_append_of_error (outcome_eq_error hserved)]
      rfl

/-- How the start of all plugins ends on a fresh host. -/
inductive StartCourse (es : List Expectations) (plugins : List π)
    (calls : List (String × Request)) (r : Except Fault Unit) (t : Host) (j : Journal β π γ σ) :
    Prop where
  | refused {f : Fault} (hr : r = .error f) (crowded : ¬ Room {} calls) (plain : Plain f)
      (short : (running j).length < plugins.length)
  | complete (room : Room {} calls) (enrolled : Enrolled {} calls t) (all : running j = plugins)
      (judged : Judged r (es.forM (·.checkMetrics t.metrics.lookup)))

theorem tells_startAll_course (hosting : L.Hosting) (checking : L.Checking wrap)
    (es : List Expectations) (played : List.Forall₂ (fun b => L.Plays (role b)) plan plugins)
    (registers : ∀ d ∈ calls plan role, d.2.Registers) (s : σ) :
    Tells (L.startAll plugins) (L.journaled.startAll plugins) s fun r t j =>
      L.Heard (fun _ => es.map wrap) j → L.host s = {} →
        StartCourse es plugins (calls plan role) (r.mapError (·.fault)) (L.host t) j := by
  refine Tells.bind ((L.tells_startEach [] plugins s).both (tells_startEach_plays played [] s))
    ?_ ?_
  · intro u t i hi
    obtain ⟨⟨-, hrun⟩, hserved, -⟩ := hi
    have hrun : running i = plugins := hrun
    refine Tells.get_bind fun past => Tells.log_bind ?_
    have hlog := hosting.log (.pluginsStarted plugins.length (L.host t).metrics.size) t
    have hview : (View.started plugins (L.host t).metrics).refresh (L.host
        (L.log (.pluginsStarted plugins.length (L.host t).metrics.size) t)).metrics =
          .started plugins (L.host t).metrics := by
      rw [hlog]
      rfl
    refine (tells_notifying_checks hosting checking es plugins hview).mono ?_
    intro r v j hj heard fresh
    obtain ⟨hwithin, hhost, hjudged⟩ := hj heard.right.right
    have hserving := enrolment (h := {}) sound_empty registers
    rw [fresh] at hserved
    rw [hserved] at hserving
    cases hserving with
    | complete room enrolled =>
      rw [hhost, hlog]
      refine .complete room enrolled ?_ hjudged
      have hlogged : deeds ([.logged (.pluginsStarted plugins.length (L.host t).metrics.size) t] ++
        j) <+: (es.map wrap).map (.notify .pluginsStarted) := hwithin
      rw [running_append_eq_left hlogged (by simp), hrun]
  · intro setback t i hi heard fresh
    obtain ⟨-, hserved, hshort⟩ := hi
    have hserving := enrolment (h := {}) sound_empty registers
    rw [fresh] at hserved
    rw [hserved] at hserving
    cases hserving with
    | refused crowded plain => exact .refused rfl crowded plain (hshort setback rfl)

/-- How a bootstrap ends: what is expected of the plugins is not met, and none is started; or one
of them is refused something; or all have started, and the other expectations are judged. -/
inductive Course (es : List Expectations) (loaded : List String)
    (calls : List (String × Request)) (r : Except Fault α) (t : Host) (j : Journal β π γ σ) :
    Prop where
  | unloaded {v : Violation} (hr : r = .error (.unmet v))
      (violated : es.forM (·.checkPlugins loaded) = .error v) (idle : running j = [])
  | refused {f : Fault} (hr : r = .error f) (passed : es.forM (·.checkPlugins loaded) = .ok ())
      (crowded : ¬ Room {} calls) (plain : Plain f) (short : (running j).length < (made j).length)
  | complete (passed : es.forM (·.checkPlugins loaded) = .ok ()) (room : Room {} calls)
      (enrolled : Enrolled {} calls t) (all : running j = made j)
      (judged : Judged r (es.forM (·.checkMetrics t.metrics.lookup) >>= fun _ =>
        es.forM (·.checkElements t.pipeline)))

theorem tells_boot_course (hosting : L.Hosting) (checking : L.Checking wrap)
    (es : List Expectations) (cast : L.Cast plan role) {s : σ} (fresh : L.host s = {}) :
    Tells (L.boot plan) (L.journaled.boot plan) s fun r t j =>
      L.Heard (fun _ => es.map wrap) j → j.Constructed →
        List.Forall₂ L.Makes plan (made j) ∧
        (∀ setback, r = .error setback → setback.started = running j) ∧
        Course es (plan.map fun b => (role b).name) (calls plan role) (r.mapError (·.fault))
          (L.host t) j := by
  refine Tells.bind (tells_load_course hosting checking es plan s) ?_ ?_
  · intro plugins t i hi
    obtain ⟨hmakes, hi⟩ := hi
    have hplayed := cast.forall₂ hmakes
    refine Tells.bind ((L.tells_startAll (fun _ => es.map wrap) plugins t).both
      (tells_startAll_course hosting checking es hplayed cast.registers_calls t)) ?_ ?_
    · intro u t' j hj
      refine ((L.tells_assemble (fun _ => es.map wrap) plugins t').both
        (tells_assemble_checks hosting checking es plugins t')).mono ?_
      intro r v k hk heard constructed
      obtain ⟨-, hhost, hmade, ⟨hidle, -⟩, hloaded⟩ := hi heard.left constructed.left
      obtain ⟨hphase, hrun⟩ := hj.1 heard.right.left
      obtain ⟨hphase', -⟩ := hk.1 heard.right.right
      obtain ⟨hhost', hassembled⟩ := hk.2 heard.right.right
      have hmade : made i = plugins := hmade
      have hrun : running j = plugins := hrun
      have hsame : made (i ++ (j ++ k)) = plugins := by
        rw [← List.append_assoc, made_append_eq_left hphase'.deeds_within (by simp),
          made_append_eq_left hphase.deeds_within (by simp), hmade]
      have hrunning : running (i ++ (j ++ k)) = plugins := by
        rw [running_append, hidle, List.nil_append,
          running_append_eq_left hphase'.deeds_within (by simp), hrun]
      rw [hsame, hrunning]
      refine ⟨hmakes, fun setback hr => ?_, ?_⟩
      · subst hr
        rw [hphase'.2, running_eq_nil hphase'.deeds_within (by simp), List.append_nil]
      · rw [hmade, names_of_plays hplayed] at hloaded
        have hpassed := hloaded.eq_ok
        cases hj.2 heard.right.left (hhost.trans fresh) with
        | refused hr => cases hr
        | complete room enrolled all judged =>
          rw [hhost'] at hassembled ⊢
          exact .complete hpassed room enrolled (hrunning.trans hsame.symm)
            (judged.next hassembled)
    · intro setback t' j hj heard constructed
      obtain ⟨-, hhost, hmade, ⟨hidle, -⟩, hloaded⟩ := hi heard.left constructed.left
      obtain ⟨hphase, -⟩ := hj.1 heard.right
      have hmade : made i = plugins := hmade
      have hsame : made (i ++ j) = plugins := by
        rw [made_append_eq_left hphase.deeds_within (by simp), hmade]
      have hrunning : running (i ++ j) = running j := by
        rw [running_append, hidle, List.nil_append]
      rw [hsame, hrunning]
      refine ⟨hmakes, fun e he => ?_, ?_⟩
      · cases he
        exact hphase.2
      · rw [hmade, names_of_plays hplayed] at hloaded
        have hpassed := hloaded.eq_ok
        cases hj.2 heard.right (hhost.trans fresh) with
        | refused hr crowded plain short =>
          refine .refused (congrArg Except.error (Except.error.inj hr)) hpassed crowded plain ?_
          rw [hsame, hrunning]
          exact short
        | complete room enrolled all judged =>
          exact .complete hpassed room enrolled (by rw [hsame, hrunning, all]) (judged.stuck _)
  · intro setback t i hi heard constructed
    obtain ⟨hmakes, -, -, ⟨hidle, hstarted⟩, hloaded⟩ := hi.2 heard constructed
    have hnames := names_of_plays (cast.forall₂ hmakes)
    refine ⟨hmakes, fun e he => ?_, ?_⟩
    · cases he
      rw [hidle]
      exact hstarted setback rfl
    · rw [hnames] at hloaded
      obtain ⟨v, hv, hf⟩ := hloaded.eq_error
      exact .unloaded (congrArg Except.error hf) hv hidle

end Lifecycle
end Preflight
