import Preflight.Callback
import Preflight.Proofs.Expectation.Handover

/-! Who is called at the checkpoints of a builder after any registrations: the handlers of those
that were granted, each once. An observer is refused when it comes again, and a set of expectations
when it is attached already; a refusal changes nothing. -/
namespace Preflight
variable {γ : Type}

namespace Audience

theorem perm_priorities (hs : List (Handler γ)) :
    (hs.filter (·.priority = .first) ++ (hs.filter (·.priority = .normal) ++
      hs.filter (·.priority = .last))).Perm hs := by
  induction hs with
  | nil => exact .nil
  | cons h rest ih =>
    cases hp : h.priority with
    | first => simpa [hp] using ih
    | normal => simpa [hp] using List.perm_middle.trans (ih.cons h)
    | last =>
      simp only [hp, List.filter_cons]
      rw [← List.append_assoc] at ih ⊢
      simpa using List.perm_middle.trans (ih.cons h)

/-- Every handler of the checkpoint is called once, wherever it wishes to stand. -/
theorem callOrder_perm (c : Checkpoint) (a : Audience γ) :
    (a.callOrder c).Perm ((a.handlers c).map (·.listener)) := by
  have hreversed : (a.callOrder c).Perm (ofPriority .first (a.handlers c) ++
      (ofPriority .normal (a.handlers c) ++ ofPriority .last (a.handlers c))) := by
    rw [callOrder, List.append_assoc]
    exact (List.reverse_perm _).append ((List.reverse_perm _).append_right _)
  refine hreversed.trans ?_
  simpa [ofPriority] using (perm_priorities (a.handlers c)).map (·.listener)

end Audience

namespace Callback

/-- The object that stands for a function has no method but that of its checkpoint. -/
theorem hookName_mem_methods (k : Callback) (c : Checkpoint) :
    c.hookName ∈ k.methods ↔ c = k.checkpoint := by
  obtain ⟨d, function⟩ := k
  cases c <;> cases d <;> simp [methods, Checkpoint.hookName, Checkpoint.word]

/-- Called as its checkpoint calls it, it hands on the view. -/
theorem receive_viewName {α : Type} (k : Callback) (view : α) :
    k.receive k.checkpoint.viewName view = some view := by
  simp [receive, accepts]

end Callback

/-- What is asked of a builder: to call a function at a checkpoint, to call an observer at all of
its own, or to take over the set of expectations in a place. -/
inductive Enlistment (γ : Type) where
  | callback (c : Checkpoint) (listener : γ)
  | observer (serial : Nat) (handlers : List (Handler γ))
  | expectations (place : Nat)

/-- A builder's audience, and the sets of expectations in their places. -/
structure Hall (γ : Type) where
  sets : Nat → Expectations
  audience : Audience γ := {}

abbrev Enlistments (γ : Type) := List (Enlistment γ × Except Fault Unit)

namespace Enlistment
variable {wrap : Expectations → γ} {sets : Nat → Expectations} {log : Enlistments γ} {d : Hall γ}

/-- The handlers that it adds if it is granted. The sets are as they were at first. -/
def brings (wrap : Expectations → γ) (sets : Nat → Expectations) :
    Enlistment γ → List (Handler γ)
  | callback c l => [{ checkpoint := c, listener := l }]
  | observer _ handlers => handlers
  | expectations p => Checkpoint.all.map fun c =>
    { checkpoint := c, listener := wrap (sets p).closed }

/-- It has not come before, and a set was not attached elsewhere. -/
def Fresh (sets : Nat → Expectations) (log : Enlistments γ) : Enlistment γ → Prop
  | callback .. => True
  | observer o _ => ∀ handlers, (observer o handlers, .ok ()) ∉ log
  | expectations p => (sets p).attached = false ∧ (expectations p, .ok ()) ∉ log

/-- The fault of one that is refused, as no callback is. -/
def refusal : Enlistment γ → Fault
  | expectations _ => .alreadyAttached
  | _ => .alreadyListening

def enlist (wrap : Expectations → γ) : Enlistment γ → EStateM Fault (Hall γ) Unit
  | callback c l => modify fun d => { d with audience := d.audience.listen c l }
  | observer o handlers => fun d =>
    match d.audience.register ⟨some o, handlers⟩ with
    | .ok a => .ok () { d with audience := a }
    | .error f => .error f d
  | expectations p => fun d =>
    match (d.sets p).attachTo wrap d.audience with
    | .ok (e, a) => .ok () ⟨Function.update d.sets p e, a⟩
    | .error f => .error f d

theorem outcome_enlist_observer (o : Nat) (handlers : List (Handler γ)) (d : Hall γ) :
    outcome (enlist wrap (.observer o handlers)) d =
      match d.audience.register ⟨some o, handlers⟩ with
      | .ok a => (.ok (), { d with audience := a })
      | .error f => (.error f, d) := by
  simp only [outcome, enlist]
  cases d.audience.register ⟨some o, handlers⟩ <;> rfl

theorem outcome_enlist_expectations (wrap : Expectations → γ) (p : Nat) (d : Hall γ) :
    outcome (enlist wrap (.expectations p)) d =
      match (d.sets p).attachTo wrap d.audience with
      | .ok (e, a) => (.ok (), ⟨Function.update d.sets p e, a⟩)
      | .error f => (.error f, d) := by
  simp only [outcome, enlist]
  cases (d.sets p).attachTo wrap d.audience <;> rfl

theorem enlist_observer_of_new {o : Nat} (h : o ∉ d.audience.observers)
    (handlers : List (Handler γ)) : enlist wrap (.observer o handlers) d =
      .ok () { d with audience := ⟨d.audience.registrations ++ [⟨some o, handlers⟩]⟩ } := by
  simp [enlist, Audience.register, h]

theorem enlist_observer_of_known {o : Nat} (h : o ∈ d.audience.observers)
    (handlers : List (Handler γ)) :
    enlist wrap (.observer o handlers) d = .error .alreadyListening d := by
  simp [enlist, Audience.register, h]

theorem enlist_expectations_of_open (wrap : Expectations → γ) {p : Nat}
    (h : (d.sets p).attached = false) : ∃ a,
      (d.sets p).attachTo wrap d.audience = .ok ((d.sets p).closed, a) ∧
      a.observers = d.audience.observers ∧ enlist wrap (.expectations p) d =
        .ok () ⟨Function.update d.sets p (d.sets p).closed, a⟩ := by
  have hattach := Expectations.attachTo_of_open wrap h d.audience
  refine ⟨_, hattach, ?_, by simp only [enlist, hattach]⟩
  simp only [Audience.observers_listen]

theorem enlist_expectations_of_attached {p : Nat} (h : (d.sets p).attached = true) :
    enlist wrap (.expectations p) d = .error .alreadyAttached d := by
  simp only [enlist, Expectations.attachTo_of_attached h]

/-- What a granted one does: its handlers are added, an observer is known and a set is attached. -/
structure Admits (wrap : Expectations → γ) (d : Hall γ) (ask : Enlistment γ) (t : Hall γ) :
    Prop where
  handlers : ∀ c, t.audience.handlers c =
    d.audience.handlers c ++ (ask.brings wrap d.sets).filter (·.checkpoint = c)
  observers : ∀ o, o ∈ t.audience.observers ↔
    o ∈ d.audience.observers ∨ ∃ handlers, ask = observer o handlers
  attached : ∀ p, ask = expectations p → (t.sets p).attached = true
  untouched : ∀ p, ask ≠ expectations p → t.sets p = d.sets p

theorem admits_callback (c : Checkpoint) (l : γ) :
    Admits wrap d (callback c l) { d with audience := d.audience.listen c l } where
  handlers e := by
    by_cases he : e = c
    · subst he
      simp [Audience.handlers_listen_self, brings]
    · simp [Audience.handlers_listen_of_ne he, brings, Ne.symm he]
  observers o := by simp [Audience.observers_listen]
  attached p hp := nomatch hp
  untouched p _ := rfl

theorem admits_observer (o : Nat) (handlers : List (Handler γ)) :
    Admits wrap d (observer o handlers)
      { d with audience := ⟨d.audience.registrations ++ [⟨some o, handlers⟩]⟩ } where
  handlers e := by simp [Audience.handlers, brings]
  observers q := by simp [Audience.observers, eq_comm]
  attached p hp := nomatch hp
  untouched p _ := rfl

theorem admits_expectations {p : Nat} {a : Audience γ}
    (hattach : (d.sets p).attachTo wrap d.audience = .ok ((d.sets p).closed, a))
    (hobservers : a.observers = d.audience.observers) :
    Admits wrap d (expectations p) ⟨Function.update d.sets p (d.sets p).closed, a⟩ where
  handlers c := by
    rw [Expectations.handlers_attachTo hattach c]
    cases c <;> rfl
  observers o := by simp [hobservers]
  attached q hq := by
    cases hq
    simp [Expectations.closed]
  untouched q hq := by
    have hpq : q ≠ p := fun h => hq (congrArg expectations h.symm)
    exact Function.update_of_ne hpq _ _

theorem admits_of_ok {ask : Enlistment γ} {t : Hall γ} (h : enlist wrap ask d = .ok () t) :
    Admits wrap d ask t := by
  cases ask with
  | callback c l =>
    cases h
    exact admits_callback c l
  | observer o handlers =>
    by_cases ho : o ∈ d.audience.observers
    · cases (enlist_observer_of_known ho handlers).symm.trans h
    · cases (enlist_observer_of_new ho handlers).symm.trans h
      exact admits_observer o handlers
  | expectations p =>
    cases hp : (d.sets p).attached with
    | true => cases (enlist_expectations_of_attached hp).symm.trans h
    | false =>
      obtain ⟨a, hattach, hobservers, henlist⟩ := enlist_expectations_of_open wrap hp
      cases henlist.symm.trans h
      exact admits_expectations hattach hobservers

/-- What a builder holds after some registrations. -/
structure Holds (wrap : Expectations → γ) (sets : Nat → Expectations) (log : Enlistments γ)
    (d : Hall γ) : Prop where
  handlers : ∀ c, d.audience.handlers c =
    (granted log).flatMap fun g => (g.1.brings wrap sets).filter (·.checkpoint = c)
  observers : ∀ o, o ∈ d.audience.observers ↔ ∃ handlers, (observer o handlers, .ok ()) ∈ log
  attached : ∀ p, (expectations p, .ok ()) ∈ log → (d.sets p).attached = true
  untouched : ∀ p, (expectations p, .ok ()) ∉ log → d.sets p = sets p

theorem Holds.empty : Holds wrap sets [] ⟨sets, {}⟩ where
  handlers _ := rfl
  observers _ := by simp [Audience.observers]
  attached _ h := nomatch h
  untouched _ _ := rfl

/-- It is granted if it is fresh; otherwise it is refused and changes nothing. -/
theorem Holds.enlist_iff (h : Holds wrap sets log d) (ask : Enlistment γ) :
    (ask.Fresh sets log ∧ ∃ t, enlist wrap ask d = .ok () t) ∨
      ¬ ask.Fresh sets log ∧ enlist wrap ask d = .error ask.refusal d := by
  cases ask with
  | callback c l => exact .inl ⟨trivial, _, rfl⟩
  | observer o handlers =>
    by_cases ho : o ∈ d.audience.observers
    · obtain ⟨others, hothers⟩ := (h.observers o).mp ho
      exact .inr ⟨fun hfresh => hfresh others hothers, enlist_observer_of_known ho handlers⟩
    · have hfresh : ∀ others, (observer o others, .ok ()) ∉ log :=
        fun others hmem => ho ((h.observers o).mpr ⟨others, hmem⟩)
      exact .inl ⟨hfresh, _, enlist_observer_of_new ho handlers⟩
  | expectations p =>
    cases hp : (d.sets p).attached with
    | true =>
      refine .inr ⟨fun hfresh => ?_, enlist_expectations_of_attached hp⟩
      rw [h.untouched p hfresh.2, hfresh.1] at hp
      cases hp
    | false =>
      have hnew : (expectations p, .ok ()) ∉ log := fun hmem => by
        rw [h.attached p hmem] at hp
        cases hp
      obtain ⟨a, -, -, henlist⟩ := enlist_expectations_of_open wrap hp
      exact .inl ⟨⟨h.untouched p hnew ▸ hp, hnew⟩, _, henlist⟩

/-- What a fresh one brings does not depend on what was asked before it. -/
theorem Holds.brings_eq (h : Holds wrap sets log d) {ask : Enlistment γ}
    (hfresh : ask.Fresh sets log) : ask.brings wrap d.sets = ask.brings wrap sets := by
  cases ask with
  | expectations p => simp only [brings, h.untouched p hfresh.2]
  | _ => rfl

theorem Holds.after_granted (h : Holds wrap sets log d) {ask : Enlistment γ} {t : Hall γ}
    (hfresh : ask.Fresh sets log) (ht : Admits wrap d ask t) :
    Holds wrap sets (log ++ [(ask, .ok ())]) t where
  handlers c := by
    rw [granted_append_ok, List.flatMap_append, ← h.handlers, ht.handlers, h.brings_eq hfresh]
    simp
  observers o := by simp [ht.observers, h.observers, exists_or, eq_comm]
  attached p hp := by
    by_cases hask : ask = expectations p
    · exact ht.attached p hask
    · rw [ht.untouched p hask]
      exact h.attached p (by simpa [Ne.symm hask] using hp)
  untouched p hp := by
    have hask : ask ≠ expectations p := by
      rintro rfl
      exact hp (List.mem_append_right _ (List.mem_singleton_self _))
    rw [ht.untouched p hask]
    exact h.untouched p fun hmem => hp (List.mem_append_left _ hmem)

theorem Holds.after_refused (h : Holds wrap sets log d) (ask : Enlistment γ) (f : Fault) :
    Holds wrap sets (log ++ [(ask, .error f)]) d where
  handlers c := by rw [granted_append_error, h.handlers]
  observers o := by simp [h.observers]
  attached p hp := h.attached p (by simpa using hp)
  untouched p hp := h.untouched p fun hmem => hp (List.mem_append_left _ hmem)

theorem Holds.after_enlist (h : Holds wrap sets log d) (ask : Enlistment γ) :
    Holds wrap sets (log ++ [(ask, (outcome (enlist wrap ask) d).1)])
      (outcome (enlist wrap ask) d).2 := by
  rcases h.enlist_iff ask with ⟨hfresh, t, hgranted⟩ | ⟨-, hrefused⟩
  · rw [outcome_of_ok hgranted]
    exact h.after_granted hfresh (admits_of_ok hgranted)
  · rw [outcome_of_error hrefused]
    exact h.after_refused ask _

theorem holds_run (wrap : Expectations → γ) (sets : Nat → Expectations)
    (asks : List (Enlistment γ)) :
    let run := outcomes (enlist wrap) asks ⟨sets, {}⟩
    Holds wrap sets run.1 run.2 :=
  outcomes_induction (Holds wrap sets) (fun _ _ ask h => h.after_enlist ask) .empty asks

end Enlistment
end Preflight
