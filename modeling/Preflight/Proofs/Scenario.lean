import Preflight.Proofs.Audience
import Preflight.Scenario.Play

/-! The lifecycle of a scenario is one of which the laws of launches speak: its plugins register by
requests, its constructors and its log leave the hosts alone, and its checks are checks. The steps
that ask a builder do what the laws of audiences say. -/
namespace Preflight.Scenario
open Play (note find attempt)

/-- The hosts are as they were. -/
def Aside (w t : World) : Prop := t.hosts = w.hosts

theorem Aside.refl (w : World) : Aside w w := rfl

theorem Aside.trans (w t u : World) (h : Aside w t) (h' : Aside t u) : Aside w u :=
  Eq.trans h' h

theorem aside_find {α : Type} (table : World → List (String × α)) (id : String) :
    Leads Aside (find table id) := by
  refine Leads.get_bind fun w => ?_
  cases Entries.get? id (table w) <;> rfl

theorem aside_note (o : Occurrence) : Leads Aside (note o) := Leads.modify fun _ => rfl

theorem aside_edit (place : Nat) (e : Edit Nat) : Leads Aside (edit place e) := by
  cases e with
  | set key cell => exact Leads.modify fun _ => rfl
  | append key d =>
    refine Leads.bind Aside.trans (aside_find _ key) fun cell => Leads.get_bind fun w => ?_
    cases w.cell cell <;> rfl
  | fail f => exact Leads.throw Aside.refl f

theorem aside_construct (p : Plan) : Leads Aside (construct p) := by
  refine Leads.get_bind fun w => ?_
  refine Leads.bind Aside.trans (aside_note _) (fun _ => ?_) w
  refine Leads.bind Aside.trans (Leads.forM Aside.refl Aside.trans (aside_edit p.config) _) ?_
  exact fun _ => Leads.pure Aside.refl _

theorem aside_log (e : Log.Event) (w : World) : Aside w (w.log e) := by
  unfold World.log
  cases w.routing <;> rfl

theorem aside_stop (p : Plugin) : Leads Aside (stop p) := by
  refine .bind Aside.trans (aside_note _) fun _ => ?_
  cases p.script.stop with
  | nil => exact .pure Aside.refl ()
  | cons f _ => exact .throw Aside.refl f

theorem aside_ofExcept {α : Type} (r : Except Fault α) : Leads Aside (ofExcept r : Play α) := by
  cases r with
  | ok a => exact .pure Aside.refl a
  | error f => exact .throw Aside.refl f

theorem aside_conclude (e : Expectations) (c : Checkpoint) (verdict : Except Violation Unit) :
    Leads Aside (e.conclude World.log c verdict) := by
  cases verdict with
  | ok _ => exact .modify (aside_log _)
  | error v => exact .throw Aside.refl _

/-- The host in a place has served some requests of a plugin. -/
def Asked (host : Nat) (plugin : String) (w t : World) : Prop :=
  ∃ requests, t.host host = (outcomes (Host.serve plugin) requests (w.host host)).2

variable {host : Nat} {plugin : String}

theorem Asked.trans (w t u : World) (h : Asked host plugin w t) (h' : Asked host plugin t u) :
    Asked host plugin w u := by
  obtain ⟨first, ht⟩ := h
  obtain ⟨second, hu⟩ := h'
  exact ⟨first ++ second, by rw [hu, ht, outcomes_append]⟩

/-- A place where there is no host stays without one. -/
theorem host_setHost (place : Nat) (h : Host) (w : World) :
    (w.setHost place h).host place = h ∨ (w.setHost place h).host place = w.host place := by
  by_cases hplace : place < w.hosts.length
  · exact Or.inl (by simp [World.host, World.setHost, hplace])
  · exact Or.inr (by simp [World.host, World.setHost, hplace])

theorem outcome_request (q : Request) (w : World) :
    outcome (request host plugin q) w =
      ((Host.answer plugin q (w.host host)).1,
        w.setHost host (Host.answer plugin q (w.host host)).2) := by
  unfold Host.answer
  cases h : Host.serve plugin q (w.host host) with
  | ok r t => rw [outcome_of_ok h, request, outcome_of_ok (onPart_of_ok h)]
  | error f t => rw [outcome_of_error h, request, outcome_of_error (onPart_of_error h)]

theorem asked_request (q : Request) : Leads (Asked host plugin) (request host plugin q) := by
  intro w
  rw [outcome_request]
  rcases host_setHost host (Host.answer plugin q (w.host host)).2 w with h | h
  · exact ⟨[q], h⟩
  · exact ⟨[], h⟩

theorem outcome_attempt {α : Type} (act : Play α) (w : World) :
    outcome (attempt act) w = (.ok (outcome act w).1, (outcome act w).2) := by
  cases h : act w <;> simp [outcome, attempt, h]

theorem leads_attempt {α : Type} {R : World → World → Prop} {act : Play α} (h : Leads R act) :
    Leads R (attempt act) := by
  intro w
  rw [outcome_attempt]
  exact h w

/-- The relation holds where the hosts are left alone, and where a plugin makes a request. -/
structure Admits (host : Nat) (plugin : String) (R : World → World → Prop) : Prop where
  trans (w t u : World) : R w t → R t u → R w u
  aside (w t : World) : Aside w t → R w t
  request (q : Request) : Leads R (request host plugin q)

namespace Admits
variable {R : World → World → Prop}

theorem of_aside {α : Type} (h : Admits host plugin R) {act : Play α} (hact : Leads Aside act) :
    Leads R act := fun w => h.aside w _ (hact w)

theorem move (h : Admits host plugin R) (m : StartMove) : Leads R (move host plugin m) := by
  cases m with
  | ask q => exact .bind h.trans (h.request q) fun _ => h.of_aside (aside_note _)
  | attempt q =>
    exact .bind h.trans (leads_attempt (h.request q)) fun _ => h.of_aside (aside_note _)

theorem start {p : Plugin} (h : Admits host p.name R) : Leads R (start host p) := by
  refine .bind h.trans (h.of_aside (aside_note _)) fun _ => ?_
  refine .bind h.trans (h.of_aside (.modify fun _ => rfl)) fun _ => ?_
  exact .forM (fun w => h.aside w w (Aside.refl w)) h.trans h.move _

end Admits

theorem admits_asked : Admits host plugin (Asked host plugin) where
  trans := Asked.trans
  aside _ _ h := ⟨[], congrArg (·.getD host {}) h⟩
  request := asked_request

theorem lifecycle_hosting (play : Step → Play Answer) (builder host : Nat) :
    (lifecycle play builder host).Hosting where
  construct p w := congrArg (·.getD host {}) (aside_construct p w)
  start _ w := admits_asked.start w
  log e w := congrArg (·.getD host {}) (aside_log e w)

theorem lifecycle_checking (play : Step → Play Answer) (builder host : Nat) :
    (lifecycle play builder host).Checking Listener.check := fun _ _ _ => rfl

/-! ## Registrations -/

/-- What a world holds of a builder, and of the sets of expectations with some ids. -/
def hall (builder : Nat) (ids : Nat → String) (w : World) : Hall Listener where
  sets p := (Entries.get? (ids p) w.expectations).getD {}
  audience := (w.builder builder).audience

/-- The steps by which a builder of a name is asked. -/
inductive Asks (name : String) (ids : Nat → String) (w : World) :
    Step → Enlistment Listener → Prop where
  | callback (c : Checkpoint) (script : ListenerScript Action) :
      Asks name ids w (.callback name c script) (.callback c (.script script))
  | observe {id : String} {o : Observer} (known : Entries.get? id w.observers = some o) :
      Asks name ids w (.observe name id) (.observer o.serial o.handlers)
  | expect {p : Nat} {e : Expectations} (known : Entries.get? (ids p) w.expectations = some e) :
      Asks name ids w (.expect name (ids p)) (.expectations p)

theorem outcome_find_bind {α β : Type} {table : World → List (String × α)} {id : String}
    {w : World} {a : α} (h : Entries.get? id (table w) = some a) (next : α → Play β) :
    outcome (find table id >>= next) w = outcome (next a) w := by
  have hget : outcome (get : Play World) w = (.ok w, w) := rfl
  have hfind : outcome (find table id) w = (.ok a, w) := by
    simp only [find, outcome_bind_of_ok hget, h]
    rfl
  exact outcome_bind_of_ok hfind

theorem audience_setAudience {w : World} {b : Nat} (hb : b < w.builders.length)
    (a : Audience Listener) : ((w.setAudience b a).builder b).audience = a := by
  simp [World.builder, World.setAudience, hb]

variable {w : World} {b : Nat} {name : String} {ids : Nat → String}

theorem hall_setAudience (hb : b < w.builders.length) (a : Audience Listener) :
    hall b ids (w.setAudience b a) = { hall b ids w with audience := a } := by
  simp only [hall, audience_setAudience hb]
  rfl

theorem hall_attach (hb : b < w.builders.length) (hids : Function.Injective ids) (p : Nat)
    (e : Expectations) (a : Audience Listener) :
    hall b ids ((w.putExpectations (ids p) e).setAudience b a) =
      ⟨Function.update (hall b ids w).sets p e, a⟩ := by
  have hsets : (hall b ids (w.putExpectations (ids p) e)).sets =
      Function.update (hall b ids w).sets p e := by
    funext q
    by_cases hq : q = p
    · subst hq
      simp [hall, World.putExpectations, Entries.get?_put_self]
    · have hne : ids q ≠ ids p := fun h => hq (hids h)
      simp [hall, World.putExpectations, Entries.get?_put_of_ne hne, hq]
  rw [← hsets]
  exact hall_setAudience (w := w.putExpectations (ids p) e) hb a

/-- The steps of a scenario do what the registrations do of which the laws of audiences speak. -/
theorem hall_perform (play : Step → Play Answer)
    (hname : Entries.get? name w.builderPlaces = some b) (hb : b < w.builders.length)
    (hids : Function.Injective ids) {step : Step} {ask : Enlistment Listener}
    (h : Asks name ids w step ask) :
    (outcome (perform play step) w).1 =
        (outcome (ask.enlist Listener.check) (hall b ids w)).1.map (fun _ => .sameBuilder) ∧
      hall b ids (outcome (perform play step) w).2 =
        (outcome (ask.enlist Listener.check) (hall b ids w)).2 := by
  cases h with
  | callback c script =>
    have hstep : outcome (perform play (.callback name c script)) w =
        (.ok .sameBuilder, w.setAudience b ((w.builder b).audience.listen c (.script script))) :=
      outcome_find_bind hname _
    rw [hstep]
    exact ⟨rfl, hall_setAudience hb _⟩
  | @observe id o known =>
    have hstep : outcome (perform play (.observe name id)) w =
        outcome (ofExcept ((hall b ids w).audience.register ⟨some o.serial, o.handlers⟩) >>=
          fun a => do
            set (w.setAudience b a)
            return .sameBuilder) w :=
      (outcome_find_bind hname _).trans (outcome_find_bind known _)
    rw [hstep, Enlistment.outcome_enlist_observer]
    cases (hall b ids w).audience.register ⟨some o.serial, o.handlers⟩ with
    | ok a => exact ⟨rfl, hall_setAudience hb a⟩
    | error f => exact ⟨rfl, rfl⟩
  | @expect p e known =>
    have hset : (hall b ids w).sets p = e := by simp [hall, known]
    have hstep : outcome (perform play (.expect name (ids p))) w =
        outcome (ofExcept (e.attachTo Listener.check (hall b ids w).audience) >>= fun taken => do
          set ((w.putExpectations (ids p) taken.1).setAudience b taken.2)
          return .sameBuilder) w :=
      (outcome_find_bind hname _).trans (outcome_find_bind known _)
    rw [hstep, Enlistment.outcome_enlist_expectations, hset]
    cases e.attachTo Listener.check (hall b ids w).audience with
    | ok taken => exact ⟨rfl, hall_attach hb hids p taken.1 taken.2⟩
    | error f => exact ⟨rfl, rfl⟩

end Preflight.Scenario
