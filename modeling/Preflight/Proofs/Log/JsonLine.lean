import Preflight.Proofs.Json.RoundTrip
import Preflight.Proofs.Log.Paths

/-! Events on one line of JSON. A call whose fields keep off the names that logging uses itself is
printed as one object: the fields as they were given, and the message, level and time behind
them. -/
namespace Preflight.Log
variable {method : Method} {template text logger : String} {args : List Datum}
  {fields : List (String × Datum)} {level : Level}

/-- The names that are taken: a call's parameters, the entries of its own that a printed event has,
and those that steer the printing. -/
def reservedNames : List String :=
  ["self", "method_name", "event", "level", "timestamp", "positional_args", "exc_info",
    "stack_info", "_record", "_from_structlog"]

/-- The name of a method's level: two methods log as another does. -/
def normalWord (word : String) : String :=
  if word = "warn" then "warning" else if word = "fatal" then "critical" else word

theorem exists_method_normalWord {word : String} (h : word ∈ methodWords) :
    ∃ method, Method.ofWord? word = some method ∧ method.level.word = normalWord word := by
  have hall : ∀ word ∈ methodWords,
      (Method.ofWord? word).map (·.level.word) = some (normalWord word) := by decide
  exact Option.map_eq_some_iff.mp (hall word h)

/-- What an event prints besides its fields. -/
def toldEntries (level : Level) (text : String) : List (String × Datum) :=
  [("event", .text text), ("level", .text level.word), ("timestamp", .text timestamp)]

theorem keys_append {α : Type} (entries more : List (String × α)) :
    Entries.keys (entries ++ more) = Entries.keys entries ++ Entries.keys more := List.map_append

theorem entries_of_free (free : ∀ name ∈ reservedNames, name ∉ Entries.keys fields) :
    ({ level, message := .text text, fields } : Event).entries =
      fields ++ toldEntries level text := by
  have hevent : "event" ∉ Entries.keys fields := free _ (by decide)
  have hlevel : "level" ∉ Entries.keys (fields ++ [("event", Datum.text text)]) := by
    simpa [keys_append, Entries.keys] using free "level" (by decide)
  have htime : "timestamp" ∉ Entries.keys
      (fields ++ [("event", Datum.text text)] ++ [("level", .text level.word)]) := by
    simpa [keys_append, Entries.keys] using free "timestamp" (by decide)
  have hsteering : ∀ name ∈ steeringKeys, name ∉ Entries.keys
      (fields ++ [("event", Datum.text text)] ++ [("level", .text level.word)] ++
        [("timestamp", .text timestamp)]) := by
    intro name hname
    have hreserved : ∀ name ∈ steeringKeys, name ∈ reservedNames ∧
        name ∉ ["event", "level", "timestamp"] := by decide
    obtain ⟨htaken, htold⟩ := hreserved name hname
    rw [keys_append, keys_append, keys_append, List.append_assoc, List.append_assoc,
      List.mem_append, not_or]
    exact ⟨free name htaken, htold⟩
  simp only [Event.entries, Entries.put_of_not_mem hevent, Entries.put_of_not_mem hlevel,
    Entries.put_of_not_mem htime, Entries.without_of_not_mem hsteering]
  simp [toldEntries]

theorem lossless_entries (values : ∀ f ∈ fields, Json.Lossless f.2)
    (nodup : (Entries.keys fields).Nodup)
    (free : ∀ name ∈ reservedNames, name ∉ Entries.keys fields) (level : Level) (text : String) :
    Json.Lossless (.record (fields ++ toldEntries level text)) := by
  have hkeys : Entries.keys (toldEntries level text) = ["event", "level", "timestamp"] := rfl
  have htold : ∀ name ∈ ["event", "level", "timestamp"], name ∈ reservedNames := by decide
  refine .record ?_ (List.forall_mem_append.mpr ⟨values, ?_⟩)
  · rw [keys_append, hkeys]
    exact nodup.append (by decide) fun name hname hmem => free name (htold name hmem) hname
  · simp [toldEntries, Json.Lossless.text]

/-- A text in printable ASCII has no line break in it. -/
theorem split_of_isPlain {line : String} (h : ∀ c ∈ line.toList, Json.IsPlain c) :
    Text.split "\n" line = [line] := by
  have hbreak : '\n' ∉ line.toList := fun hmem => absurd (h _ hmem) (by decide)
  have hsplit : Text.splitFrom "\n".toList 0 line.toList = (line.toList, []) :=
    Text.splitFrom_of_not_mem rfl hbreak
  rw [Text.split, hsplit]
  exact congrArg (fun s => [s]) String.ofList_toList

end Preflight.Log
