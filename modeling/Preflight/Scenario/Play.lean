import Preflight.Scenario.World
import Preflight.Selection
import Preflight.Settings.Reading

/-! Scenarios played step by step. -/
namespace Preflight.Scenario
open Play (note find attempt)

/-! ## Plugins -/

/-- Edits the configuration in a place. What was done before a fault is kept. -/
def edit (place : Nat) : Edit Nat → Play Unit
  | .set key cell => modify fun w => w.setSlots place (Entries.put key cell (w.slots place))
  | .append key d => do
    let cell ← find (World.slots place) key
    match (← get).cell cell with
    | .list items => modify (World.setCell cell (.list (items ++ [d])))
    | old => throw (.lacks old.typeName "append")
  | .fail f => throw f

def construct (p : Plan) : Play Plugin := do
  let name := p.script.goesBy.getD p.script.name
  let w ← get
  note (.constructed name (w.config p.config))
  p.edits.forM (edit p.config)
  return { name, script := p.script }

def request (host : Nat) (plugin : String) (q : Request) : Play Reply :=
  onPart (World.host host) (World.setHost host) (Host.serve plugin q)

def move (host : Nat) (plugin : String) : StartMove → Play Unit
  | .ask q => do note (.granted (← request host plugin q))
  | .attempt q => do note (.attempted (← attempt (request host plugin q)))

def start (host : Nat) (p : Plugin) : Play Unit := do
  note (.starting p.name)
  modify fun w => { w with contexts := Entries.put p.name host w.contexts }
  p.script.start.forM (move host p.name)

def stop (p : Plugin) : Play Unit := do
  note (.stopping p.name)
  match p.script.stop with
  | [] => return
  | f :: _ => throw f

/-! ## Listeners -/

def act (play : Step → Play Answer) {c : Checkpoint} (view : View Plugin c) :
    Action → Play (View Plugin c)
  | .fail f => throw f
  | .clear => ofExcept view.clear
  | .ask plugin q => do
    note (.asked plugin (← attempt (do request (← find (·.contexts) plugin) plugin q)))
    return view
  | .play step => do
    note (.played (← attempt (play step)))
    return view

def notify (play : Step → Play Answer) {c : Checkpoint} :
    Listener → View Plugin c → Play (View Plugin c)
  | .check e, view => e.check (·.name) World.log view
  | .script s, view => do
    note (.called s.tag (view.map (·.name)))
    s.actions.foldlM (act play) view

def lifecycle (play : Step → Play Answer) (builder host : Nat) :
    Lifecycle Plan Plugin Listener World where
  name := (·.name)
  construct := construct
  start := start host
  stop := stop
  listeners c w := (w.builder builder).audience.callOrder c
  notify := notify play
  host := World.host host
  log := World.log

/-! ## Steps -/

def build (play : Step → Play Answer) (builder : Nat) (agent : String) : Play Answer := do
  let w ← get
  let host := w.hosts.length
  set w.addHost
  let a ← (lifecycle play builder host).launch (w.builder builder).plans
  let r : Run := { agent := a, builder, host }
  modify (World.putRun agent r)
  return .agent ((← get).snapshot r)

/-- Shuts an agent down, and notes whether it runs, also after a fault. -/
def shutdown (play : Step → Play Answer) (id : String) (r : Run) : Play Answer := fun w =>
  let (result, a) := r.agent.shutdown (lifecycle play r.builder r.host) w
  let after (w : World) : World := (w.putRun id { r with agent := a }).note (.running a.running)
  match result with
  | .ok _ w => .ok .nothing (after w)
  | .error f w => .error f (after w)

def builderFromSettings (id : String) (settings : Datum) (available : List PluginScript) :
    Play Answer := do
  let settings ← ofExcept ((Settings.readAgent settings).orFault .agent)
  let w ← get
  let routing ← ofExcept ((w.routing.getD {}).configure settings.logging)
  set { w with routing := some routing }
  let chosen ← ofExcept (Selection.select (·.name) available settings)
  modify fun w => ((World.addBuilder id chosen).run w).2
  return .nothing

def attach (builder : Nat) (id : String) (e : Expectations) : Play Answer := do
  let w ← get
  let (e, audience) ← ofExcept (e.attachTo Listener.check (w.builder builder).audience)
  set ((w.putExpectations id e).setAudience builder audience)
  return .sameBuilder

def conclude (e : Expectations) (c : Checkpoint) (verdict : Except Violation Unit) :
    Play Answer := do
  e.conclude World.log c verdict
  return .nothing

/-- One step. `play` plays the steps that listeners take in their turn. -/
def perform (play : Step → Play Answer) : Step → Play Answer
  | .expectations id => do
    modify (World.putExpectations id {})
    return .nothing
  | .declared id => return .declared (← find (·.expectations) id)
  | .declare id d => do
    let e ← find (·.expectations) id
    let e ← ofExcept (e.declare d)
    modify (World.putExpectations id e)
    return .sameExpectations
  | .checkPlugins id loaded => do
    let e ← find (·.expectations) id
    conclude e .pluginsLoaded (e.checkPlugins loaded)
  | .checkMetrics id registered => do
    let e ← find (·.expectations) id
    let metrics ← ofExcept (Registry.ofList registered)
    conclude e .pluginsStarted (e.checkMetrics metrics.lookup)
  | .checkAnswers id answers => do
    let e ← find (·.expectations) id
    conclude e .pluginsStarted (e.checkMetrics (Entries.get? · (Entries.ofList answers)))
  | .checkElements id pipeline => do
    let e ← find (·.expectations) id
    conclude e .operationBegins (e.checkElements pipeline)
  | .builder id plugins => do
    modify fun w => ((World.addBuilder id plugins).run w).2
    return .planned (plugins.map (·.1.name))
  | .builderFromSettings id settings available => builderFromSettings id settings available
  | .expect builder id => do
    let b ← find (·.builderPlaces) builder
    let e ← find (·.expectations) id
    attach b id e
  | .callback builder c script => do
    let b ← find (·.builderPlaces) builder
    modify fun w => w.setAudience b ((w.builder b).audience.listen c (.script script))
    return .sameBuilder
  | .observer id handlers => do
    modify (World.addObserver id (handlers.map (·.map .script)))
    return .nothing
  | .observe builder id => do
    let b ← find (·.builderPlaces) builder
    let o ← find (·.observers) id
    let w ← get
    let audience ← ofExcept ((w.builder b).audience.register ⟨some o.serial, o.handlers⟩)
    set (w.setAudience b audience)
    return .sameBuilder
  | .build builder agent => do
    let b ← find (·.builderPlaces) builder
    build play b agent
  | .inspect agent => do
    let r ← find (·.runs) agent
    return .agent ((← get).snapshot r)
  | .shutdown agent => do
    let r ← find (·.runs) agent
    shutdown play agent r

/-- A step, with at most `depth` levels of steps within steps. -/
def play : (depth : Nat) → Step → Play Answer
  | 0 => fun _ => throw .nestedTooDeep
  | depth + 1 => perform (play depth)

def maxDepth : Nat := 100

/-- A step's answer, and all that happened in the meantime. -/
structure Record where
  answer : Except Fault Answer
  occurrences : List Occurrence
  events : List Log.Event
  lines : List String

def record (step : Step) (w : World) : Record × World :=
  let w := { w with occurrences := [], events := [], lines := [] }
  match play maxDepth step w with
  | .ok a w => (⟨.ok a, w.occurrences, w.events, w.lines⟩, w)
  | .error f w => (⟨.error f, w.occurrences, w.events, w.lines⟩, w)

/-- Plays all steps; a fault ends its own step and no other. -/
def run : List Step → World → List Record
  | [], _ => []
  | step :: rest, w =>
    let (r, w) := record step w
    r :: run rest w

end Preflight.Scenario
