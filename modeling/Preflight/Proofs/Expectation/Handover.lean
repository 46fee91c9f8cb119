import Preflight.Proofs.Bootstrap.Verdict

/-! A set of expectations from its first declaration on. While it is open, a declaration that can be
read adds one item to one list. Attaching it hands it over: nothing that is asked of the set later
changes it, so that what the listeners of its builder check is what was declared until then. -/
namespace Preflight

/-- What a declaration adds. -/
inductive Item where
  | metric (m : ExpectedMetric)
  | plugin (name : String)
  | element (kind : ElementKind) (name : ElementName)

def Item.metric? : Item → Option ExpectedMetric
  | metric m => some m
  | _ => none

def Item.plugin? : Item → Option String
  | plugin name => some name
  | _ => none

def Item.name? (kind : ElementKind) : Item → Option ElementName
  | element k n => if k = kind then some n else none
  | _ => none

/-- Only a metric that is given by values can be unreadable. -/
def Declaration.item : Declaration → Except Fault Item
  | metric name type unit => (ExpectedMetric.ofValues name type unit).map .metric
  | metricAsGiven m => .ok (.metric m)
  | plugin name => .ok (.plugin name)
  | element kind n => .ok (.element kind n)

namespace Expectations
variable {β π γ σ : Type}

/-- One item more, at the end of the list of its sort. -/
def add (i : Item) (e : Expectations) : Expectations :=
  match i with
  | .metric m => { e with metrics := e.metrics ++ [m] }
  | .plugin name => { e with plugins := e.plugins ++ [name] }
  | .element kind n => { e with elements := e.elements.push kind n }

/-- The items of each sort, in the order in which they came. -/
def ofItems (items : List Item) : Expectations where
  metrics := items.filterMap (·.metric?)
  plugins := items.filterMap (·.plugin?)
  elements :=
    { sources := items.filterMap (·.name? .source)
      transforms := items.filterMap (·.name? .transform)
      outputs := items.filterMap (·.name? .output) }

theorem ofItems_concat (items : List Item) (i : Item) :
    ofItems (items ++ [i]) = (ofItems items).add i := by
  cases i with
  | metric m => simp [ofItems, add, Item.metric?, Item.plugin?, Item.name?]
  | plugin name => simp [ofItems, add, Item.metric?, Item.plugin?, Item.name?]
  | element kind n =>
    cases kind <;> simp [ofItems, add, Item.metric?, Item.plugin?, Item.name?, Pipeline.push]

theorem open?_of_open {e : Expectations} (h : e.attached = false) : e.open? = .ok e := by
  simp [open?, h]

theorem open?_of_attached {e : Expectations} (h : e.attached = true) :
    e.open? = .error .alreadyAttached := by
  simp [open?, h]

theorem declare_of_open {e : Expectations} (h : e.attached = false) (d : Declaration) :
    e.declare d = d.item.map fun i => e.add i := by
  cases d with
  | metric name type unit =>
    cases hm : ExpectedMetric.ofValues name type unit with
    | ok m =>
      simp only [declare, addMetric, Declaration.item, open?_of_open h, hm]
      rfl
    | error f =>
      simp only [declare, Declaration.item, hm]
      rfl
  | metricAsGiven m =>
    simp only [declare, addMetric, Declaration.item, open?_of_open h]
    rfl
  | plugin name =>
    simp only [declare, Declaration.item, open?_of_open h]
    rfl
  | element kind n =>
    simp only [declare, Declaration.item, open?_of_open h]
    rfl

/-- What is asked of a set: to hold one more declaration, or to go to the builder in a place. -/
inductive Move where
  | declare (d : Declaration)
  | attach (builder : Nat)

/-- The fault of a move that comes too late. A metric that cannot be read is refused for that. -/
def Move.refusal : Move → Fault
  | declare d =>
    match d.item with
    | .ok _ => .alreadyAttached
    | .error f => f
  | attach _ => .alreadyAttached

theorem declare_of_attached {e : Expectations} (h : e.attached = true) (d : Declaration) :
    e.declare d = .error (Move.declare d).refusal := by
  cases d with
  | metric name type unit =>
    cases hm : ExpectedMetric.ofValues name type unit with
    | ok m =>
      simp only [declare, addMetric, Move.refusal, Declaration.item, open?_of_attached h, hm]
      rfl
    | error f =>
      simp only [declare, Move.refusal, Declaration.item, hm]
      rfl
  | metricAsGiven m =>
    simp only [declare, addMetric, open?_of_attached h]
    rfl
  | plugin name =>
    simp only [declare, open?_of_attached h]
    rfl
  | element kind n =>
    simp only [declare, open?_of_attached h]
    rfl

variable {wrap : Expectations → γ} {audiences : Nat → Audience γ}

theorem attachTo_of_open (wrap : Expectations → γ) {e : Expectations} (h : e.attached = false)
    (a : Audience γ) : e.attachTo wrap a = .ok (e.closed,
      ((a.listen .pluginsStarted (wrap e.closed)).listen .pluginsLoaded (wrap e.closed)).listen
        .operationBegins (wrap e.closed)) := by
  simp only [attachTo, attach, open?_of_open h]
  rfl

theorem exists_attachTo_of_open (wrap : Expectations → γ) {e : Expectations}
    (h : e.attached = false) (a : Audience γ) : ∃ b, e.attachTo wrap a = .ok (e.closed, b) :=
  ⟨_, attachTo_of_open wrap h a⟩

theorem attachTo_of_attached {e : Expectations} (h : e.attached = true) (a : Audience γ) :
    e.attachTo wrap a = .error .alreadyAttached := by
  simp only [attachTo, attach, open?_of_attached h]
  rfl

/-- A set of expectations, and the audiences of all builders. -/
structure Desk (γ : Type) where
  set : Expectations := {}
  audiences : Nat → Audience γ

def move (wrap : Expectations → γ) : Move → EStateM Fault (Desk γ) Unit
  | .declare d => fun k =>
    match k.set.declare d with
    | .ok e => .ok () { k with set := e }
    | .error f => .error f k
  | .attach b => fun k =>
    match k.set.attachTo wrap (k.audiences b) with
    | .ok (e, a) => .ok () ⟨e, Function.update k.audiences b a⟩
    | .error f => .error f k

theorem move_declare_of_open (wrap : Expectations → γ) {k : Desk γ}
    (h : k.set.attached = false) (d : Declaration) :
    move wrap (.declare d) k = match d.item with
      | .ok i => .ok () { k with set := k.set.add i }
      | .error f => .error f k := by
  simp only [move, declare_of_open h]
  cases d.item <;> rfl

theorem move_attach_of_open {k : Desk γ} {b : Nat} {e : Expectations} {a : Audience γ}
    (h : k.set.attachTo wrap (k.audiences b) = .ok (e, a)) :
    move wrap (.attach b) k = .ok () ⟨e, Function.update k.audiences b a⟩ := by
  simp only [move, h]

/-- Once the set is attached, whatever is asked is refused and nothing changes. -/
theorem move_of_attached {k : Desk γ} (h : k.set.attached = true) (m : Move) :
    move wrap m k = .error m.refusal k := by
  cases m with
  | declare d => simp only [move, declare_of_attached h]
  | attach b => simp only [move, attachTo_of_attached h, Move.refusal]

/-- Moves with what they came to. -/
abbrev Moves := List (Move × Except Fault Unit)

def Move.item? : Move → Option Item
  | declare d => d.item.toOption
  | attach _ => none

/-- The items of the declarations that were granted. -/
def Moves.items (log : Moves) : List Item := (granted log).filterMap fun g => g.1.item?

theorem Moves.items_append_ok (log : Moves) (m : Move) :
    Moves.items (log ++ [(m, .ok ())]) = log.items ++ m.item?.toList := by
  rw [Moves.items, granted_append_ok, List.filterMap_append]
  cases h : m.item? <;> simp [Moves.items, h]

theorem Moves.items_append_error (log : Moves) (m : Move) (f : Fault) :
    Moves.items (log ++ [(m, .error f)]) = log.items := by
  rw [Moves.items, granted_append_error, Moves.items]

/-- No builder has been given the set. -/
def Moves.Unattached (log : Moves) : Prop := ∀ b, (Move.attach b, .ok ()) ∉ log

theorem Moves.Unattached.concat {log : Moves} (h : log.Unattached) {m : Move}
    {r : Except Fault Unit} (hm : ∀ b, (m, r) ≠ (Move.attach b, .ok ())) :
    Moves.Unattached (log ++ [(m, r)]) := by
  intro b hb
  rcases List.mem_append.mp hb with hb | hb
  · exact h b hb
  · exact hm b (List.mem_singleton.mp hb).symm

/-- Where a set stands after some moves, when it was empty and the builders had `audiences`. -/
inductive Standing (wrap : Expectations → γ) (audiences : Nat → Audience γ) :
    Moves → Desk γ → Prop where
  | held {log : Moves} (unattached : log.Unattached) :
      Standing wrap audiences log ⟨ofItems log.items, audiences⟩
  | handedOver {before after : Moves} {b : Nat} {a : Audience γ} (unattached : before.Unattached)
      (taken : (ofItems before.items).attachTo wrap (audiences b) =
        .ok ((ofItems before.items).closed, a))
      (refused : ∀ m ∈ after, m.2 = .error m.1.refusal) :
      Standing wrap audiences (before ++ (.attach b, .ok ()) :: after)
        ⟨(ofItems before.items).closed, Function.update audiences b a⟩

theorem Standing.after_move {log : Moves} {k : Desk γ} (h : Standing wrap audiences log k)
    (m : Move) : Standing wrap audiences (log ++ [(m, (outcome (move wrap m) k).1)])
      (outcome (move wrap m) k).2 := by
  cases h with
  | held unattached =>
    cases m with
    | declare d =>
      have hmove := move_declare_of_open wrap
        (k := ⟨ofItems log.items, audiences⟩) rfl d
      cases hi : d.item with
      | ok i =>
        rw [hi] at hmove
        have hitems : Moves.items (log ++ [(.declare d, .ok ())]) = log.items ++ [i] := by
          rw [Moves.items_append_ok, Move.item?, hi]
          rfl
        rw [outcome_of_ok hmove, ← ofItems_concat, ← hitems]
        exact .held (unattached.concat fun b hb => by simp at hb)
      | error f =>
        rw [hi] at hmove
        rw [outcome_of_error hmove, ← Moves.items_append_error log (.declare d) f]
        exact .held (unattached.concat fun b hb => by simp at hb)
    | attach b =>
      obtain ⟨a, ha⟩ := exists_attachTo_of_open wrap (e := ofItems log.items) rfl (audiences b)
      rw [outcome_of_ok (move_attach_of_open ha)]
      exact .handedOver unattached ha (by simp)
  | @handedOver before after b a unattached taken refused =>
    rw [outcome_of_error (move_of_attached rfl m), List.append_assoc]
    refine .handedOver unattached taken fun x hx => ?_
    rcases List.mem_append.mp hx with hx | hx
    · exact refused x hx
    · rw [List.mem_singleton.mp hx]

theorem standing_run (wrap : Expectations → γ) (audiences : Nat → Audience γ)
    (moves : List Move) :
    let run := outcomes (move wrap) moves ⟨{}, audiences⟩
    Standing wrap audiences run.1 run.2 :=
  outcomes_induction (Standing wrap audiences) (fun _ _ m h => h.after_move m)
    (@Standing.held _ wrap audiences [] fun b hb => by cases hb) moves

theorem outcomes_of_attached {k : Desk γ} (h : k.set.attached = true) (later : List Move) :
    (outcomes (move wrap) later k).2 = k := by
  induction later with
  | nil => rfl
  | cons m rest ih =>
    rw [outcomes, outcome_of_error (move_of_attached h m)]
    exact ih

/-- Until a builder gets the set, each readable declaration adds its item and any other changes
nothing. From then on everything that is asked is refused, without a trace on the set or on any
builder; and the listeners of that one builder judge what had been declared before, which is what
the set holds at any later time. -/
theorem judged_as_declared (wrap : Expectations → γ) (audiences : Nat → Audience γ)
    (moves : List Move) :
    let run := outcomes (move wrap) moves ⟨{}, audiences⟩
    let k := run.2
    (Moves.Unattached run.1 ∧ k.set = ofItems (Moves.items run.1) ∧ k.audiences = audiences ∧
      (∀ d, move wrap (.declare d) k = match d.item with
        | .ok i => .ok () { k with set := k.set.add i }
        | .error f => .error f k) ∧
      ∀ b, ∃ a,
        move wrap (.attach b) k = .ok () ⟨k.set.closed, Function.update k.audiences b a⟩) ∨
    ∃ before b after, run.1 = before ++ (.attach b, .ok ()) :: after ∧
      Moves.Unattached before ∧ (∀ m ∈ after, m.2 = .error m.1.refusal) ∧
      k.set = (ofItems (Moves.items before)).closed ∧
      (∀ c, (k.audiences b).handlers c =
        (audiences b).handlers c ++ [{ checkpoint := c, listener := wrap k.set }]) ∧
      (∀ other, other ≠ b → k.audiences other = audiences other) ∧
      (∀ later, (outcomes (move wrap) later k).2 = k) ∧
      (∀ m, move wrap m k = .error m.refusal k) ∧
      (∀ other, (Move.attach other).refusal.kind = "ExpectationsSealedError") ∧
      ∀ (β π σ : Type) (L : Lifecycle β π γ σ), L.Checking wrap →
        ∀ (c : Checkpoint) (view : View π c),
          L.notify (wrap k.set) view = (ofItems (Moves.items before)).check L.name L.log view := by
  intro run k
  have h : Standing wrap audiences run.1 k := standing_run wrap audiences moves
  generalize run.1 = log at h ⊢
  clear_value k
  cases h with
  | held unattached =>
    refine Or.inl ⟨unattached, rfl, rfl, move_declare_of_open wrap rfl, fun b => ?_⟩
    obtain ⟨a, ha⟩ :=
      exists_attachTo_of_open wrap (e := ofItems (Moves.items log)) rfl (audiences b)
    exact ⟨a, move_attach_of_open ha⟩
  | @handedOver before after b a unattached taken refused =>
    refine Or.inr ⟨before, b, after, rfl, unattached, refused, rfl, fun c => ?_,
      fun other ho => ?_, outcomes_of_attached rfl, move_of_attached rfl, fun _ => rfl, ?_⟩
    · simpa using handlers_attachTo taken c
    · exact Function.update_of_ne ho _ _
    · intro β π σ L checking c view
      exact checking _ view

end Expectations
end Preflight
