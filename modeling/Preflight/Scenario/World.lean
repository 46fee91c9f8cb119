import Preflight.Bootstrap.Launch
import Preflight.Log.Routing
import Preflight.Scenario.Script

/-! The state that the steps of a scenario share. What several parts hold in common is kept in a
list and referred to by its place there. -/
namespace Preflight.Scenario

inductive Listener where
  | script (s : ListenerScript Action)
  | check (e : Expectations)

/-- A configuration: its keys, with the cells that hold the values. A value that a script sets is in
one cell for good, so that what is appended to it is there when it is set again. -/
abbrev Slots := List (String × Nat)

/-- A plugin to be constructed from the configuration in a place, which all builds share. The edits
are those of the script. -/
structure Plan where
  script : PluginScript
  edits : List (Edit Nat)
  config : Nat

structure Builder where
  plans : List Plan := []
  audience : Audience Listener := {}

/-- An observer; another one made under the same id is not the same. -/
structure Observer where
  serial : Nat
  handlers : List (Handler Listener)

structure Plugin where
  name : String
  script : PluginScript

/-- An agent with the places of its builder and its host. -/
structure Run where
  agent : Agent Plugin
  builder : Nat
  host : Nat

structure World where
  expectations : List (String × Expectations) := []
  cells : List Datum := []
  configs : List Slots := []
  builders : List Builder := []
  builderPlaces : List (String × Nat) := []
  observers : List (String × Observer) := []
  observersMade : Nat := 0
  hosts : List Host := []
  /-- The host of the last start of a plugin of a name. -/
  contexts : List (String × Nat) := []
  runs : List (String × Run) := []
  /-- Until logging is configured, events are collected and not printed. -/
  routing : Option Log.Routing := none
  occurrences : List Occurrence := []
  events : List Log.Event := []
  lines : List String := []

namespace World

def builder (place : Nat) (w : World) : Builder := w.builders.getD place {}

def cell (place : Nat) (w : World) : Datum := w.cells.getD place .null

def slots (place : Nat) (w : World) : Slots := w.configs.getD place []

def config (place : Nat) (w : World) : Config :=
  (w.slots place).map fun (key, cell) => (key, w.cell cell)

def host (place : Nat) (w : World) : Host := w.hosts.getD place {}

def setCell (place : Nat) (d : Datum) (w : World) : World :=
  { w with cells := w.cells.set place d }

def setSlots (place : Nat) (slots : Slots) (w : World) : World :=
  { w with configs := w.configs.set place slots }

def setHost (place : Nat) (h : Host) (w : World) : World :=
  { w with hosts := w.hosts.set place h }

def addHost (w : World) : World := { w with hosts := w.hosts.concat {} }

def setAudience (place : Nat) (audience : Audience Listener) (w : World) : World :=
  { w with builders := w.builders.set place { w.builder place with audience } }

def newCell (d : Datum) : StateM World Nat :=
  modifyGet fun w => (w.cells.length, { w with cells := w.cells.concat d })

def newConfig (slots : Slots) : StateM World Nat :=
  modifyGet fun w => (w.configs.length, { w with configs := w.configs.concat slots })

def placeEdit : Edit Datum → StateM World (Edit Nat)
  | .set key d => return .set key (← newCell d)
  | .append key d => return .append key d
  | .fail f => return .fail f

def plan (script : PluginScript) (config : Config) : StateM World Plan := do
  let slots ← config.mapM fun (key, d) => return (key, ← newCell d)
  let edits ← script.construct.mapM placeEdit
  return { script, edits, config := ← newConfig slots }

def addBuilder (id : String) (plugins : List (PluginScript × Config)) : StateM World Unit := do
  let plans ← plugins.mapM fun (script, config) => plan script config
  modify fun w =>
    { w with
      builders := w.builders.concat { plans }
      builderPlaces := Entries.put id w.builders.length w.builderPlaces }

def addObserver (id : String) (handlers : List (Handler Listener)) (w : World) : World :=
  { w with
    observers := Entries.put id ⟨w.observersMade, handlers⟩ w.observers
    observersMade := w.observersMade + 1 }

def putExpectations (id : String) (e : Expectations) (w : World) : World :=
  { w with expectations := Entries.put id e w.expectations }

def putRun (id : String) (r : Run) (w : World) : World :=
  { w with runs := Entries.put id r w.runs }

def note (o : Occurrence) (w : World) : World := { w with occurrences := w.occurrences ++ [o] }

def log (e : Log.Event) (w : World) : World :=
  match w.routing with
  | none => { w with events := w.events ++ [e] }
  | some r => { w with lines := w.lines ++ r.lines Log.Event.lifeLogger e }

def snapshot (r : Run) (w : World) : Snapshot where
  plugins := r.agent.plugins.map (·.name)
  running := r.agent.running
  metrics := (w.host r.host).metrics
  pipeline := r.agent.pipeline

end World

abbrev Play := EStateM Fault World

namespace Play
variable {α : Type}

def note (o : Occurrence) : Play Unit := modify (World.note o)

/-- What is known under an id. -/
def find (table : World → List (String × α)) (id : String) : Play α := do
  match Entries.get? id (table (← get)) with
  | some a => return a
  | none => throw (.missingKey id)

/-- A part whose fault, even an interrupt, does not end the whole. -/
def attempt (p : Play α) : Play (Except Fault α) := fun w =>
  match p w with
  | .ok a w => .ok (.ok a) w
  | .error f w => .ok (.error f) w

end Play
end Preflight.Scenario
