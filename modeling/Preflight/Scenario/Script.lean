import Preflight.Expectation.Listening

/-! Scripts for the parts of a scenario: plugins and listeners that do what they are told, and the
steps that set up, run and inspect agents. Everything is named by a text. -/
namespace Preflight.Scenario

abbrev Config := List (String × Datum)

/-- What a plugin does with its configuration while it is constructed. The values that it sets are
given as `α`. -/
inductive Edit (α : Type) where
  | set (key : String) (value : α)
  | append (key : String) (value : Datum)
  | fail (f : Fault)

/-- What a plugin asks for while it starts. -/
inductive StartMove where
  | ask (q : Request)
  /-- A request whose failure the plugin takes note of and outlives. -/
  | attempt (q : Request)

structure PluginScript where
  name : String
  /-- A name that the constructed plugin goes by instead. -/
  goesBy : Option String := none
  construct : List (Edit Datum) := []
  start : List StartMove := []
  /-- The faults that stopping ends in; the first one is raised. -/
  stop : List Fault := []

/-- What a listener does once it has noted what it sees. -/
structure ListenerScript (α : Type) where
  tag : String
  actions : List α := []

mutual
inductive Action where
  | fail (f : Fault)
  /-- Empties the list that the view holds or gives out. -/
  | clear
  /-- A request made in the name of a plugin that has started. -/
  | ask (plugin : String) (q : Request)
  | play (step : Step)

inductive Step where
  | expectations (id : String)
  | declared (id : String)
  | declare (id : String) (d : Declaration)
  | checkPlugins (id : String) (loaded : List String)
  | checkMetrics (id : String) (registered : List Metric)
  /-- Checks against a table of answers, where a later entry for a name counts. -/
  | checkAnswers (id : String) (answers : List (String × Metric))
  | checkElements (id : String) (pipeline : Pipeline)
  | builder (id : String) (plugins : List (PluginScript × Config))
  | builderFromSettings (id : String) (settings : Datum) (available : List PluginScript)
  /-- The builder takes expectations over. -/
  | expect (builder id : String)
  | callback (builder : String) (c : Checkpoint) (script : ListenerScript Action)
  | observer (id : String) (handlers : List (Handler (ListenerScript Action)))
  | observe (builder id : String)
  | build (builder agent : String)
  | inspect (agent : String)
  | shutdown (agent : String)
end

/-- What an agent looks like from outside. -/
structure Snapshot where
  plugins : List String
  running : Bool
  metrics : Registry
  pipeline : Pipeline

inductive Answer where
  | nothing
  | declared (e : Expectations)
  | sameExpectations
  | sameBuilder
  | planned (plugins : List String)
  | agent (a : Snapshot)

/-- What plugins and listeners did. -/
inductive Occurrence where
  | constructed (plugin : String) (config : Config)
  | starting (plugin : String)
  | granted (r : Reply)
  | attempted (r : Except Fault Reply)
  | stopping (plugin : String)
  | called (tag : String) {c : Checkpoint} (view : View String c)
  | asked (plugin : String) (r : Except Fault Reply)
  | played (r : Except Fault Answer)
  | running (flag : Bool)

end Preflight.Scenario
