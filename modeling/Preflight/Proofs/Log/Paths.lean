import Preflight.Proofs.Log.Routing

/-! The two ways to log. A structured logger fills the arguments in and makes an event of the
message, whether it is printed or not; a plain logger fills them in when it prints. Without fields,
and where the arguments can be filled in, both come to one event, and print it alike. -/
namespace Preflight.Log
variable {method : Method} {template text logger : String} {args : List Datum} {r : Routing}

/-! ## The event -/

namespace Call

theorem checkNames_of_free {c : Call}
    (free : ∀ name ∈ handedOn :: placed, name ∉ Entries.keys c.fields) : c.checkNames = .ok () := by
  have hplaced : (Entries.keys c.fields).find? (placed.contains ·) = none :=
    List.find?_eq_none.mpr fun name hname hmem =>
      free name (List.mem_cons_of_mem _ (List.contains_iff_mem.mp hmem)) hname
  have hhanded : handedOn ∉ Entries.keys c.fields := free handedOn List.mem_cons_self
  rw [checkNames, hplaced]
  exact if_neg hhanded

theorem shownFields_of_free {c : Call} (h : argumentsKey ∉ Entries.keys c.fields) :
    c.shownFields = c.fields := by
  have hnone : Entries.get? argumentsKey c.fields = none := Entries.get?_eq_none_iff.mpr h
  have hwithout : Entries.without [argumentsKey] c.fields = c.fields :=
    Entries.without_of_not_mem fun name hname => List.mem_singleton.mp hname ▸ h
  simp [shownFields, hnone, hwithout]

theorem filling?_of_free {c : Call} (h : argumentsKey ∉ Entries.keys c.fields) :
    c.filling? = .ok (if c.args.isEmpty then none else some (.ofList c.args)) := by
  rw [filling?, Entries.get?_eq_none_iff.mpr h]
  split <;> rfl

/-- Fields that leave the names of a call's parameters alone go into its event as they are. -/
theorem event_of_fields {fields : List (String × Datum)}
    (free : ∀ name ∈ handedOn :: placed, name ∉ Entries.keys fields)
    (arguments : argumentsKey ∉ Entries.keys fields)
    (h : Text.fillList template args = .ok text) :
    event { method, message := .text template, args, fields } =
      .ok { level := method.level, message := .text text, fields } := by
  let c : Call := { method, message := .text template, args, fields }
  have hnames : c.checkNames = .ok () := checkNames_of_free free
  have hfilling : c.filling? = .ok (if args.isEmpty then none else some (.ofList args)) :=
    filling?_of_free arguments
  have hshown : c.shownFields = fields := shownFields_of_free arguments
  change c.event = _
  simp only [event, hnames, hfilling, hshown, bind, Except.bind]
  cases args with
  | nil =>
    obtain rfl : template = text := Except.ok.inj h
    rfl
  | cons d rest =>
    have hfill : Text.fill template (.ofList (d :: rest)) = .ok text := h
    have hmessage : fillMessage c.message (.ofList (d :: rest)) = .ok (.text text) := by
      simp only [c, fillMessage, hfill]
    simp only [List.isEmpty_cons, Bool.false_eq_true, if_false, hmessage]
    rfl

end Call

/-- Arguments fill a message in for a structured logger as they do for a plain one. -/
theorem Call.event_of_filled (h : Text.fillList template args = .ok text) :
    Call.event { method, message := .text template, args } =
      .ok { level := method.level, message := .text text } :=
  Call.event_of_fields (fun _ _ => List.not_mem_nil) List.not_mem_nil h

theorem logStructured_of_filled (h : Text.fillList template args = .ok text) :
    r.logStructured logger { method, message := .text template, args } =
      .ok (r.lines logger { level := method.level, message := .text text }) := by
  rw [Routing.logStructured, Call.event_of_filled h]
  rfl

theorem logPlain_of_filled (h : Text.fillList template args = .ok text) :
    r.logPlain logger method (.text template) args =
      r.lines logger { level := method.level, message := .text text } := by
  have htemplate : (Datum.text template).plainText = template := rfl
  simp only [Routing.logPlain, htemplate, h]

/-! ## Its lines -/

/-- Without fields there is nothing below the columns that could not be printed. -/
theorem exists_text_of_no_fields (level : Level) (message : Datum) (style : Style) :
    ∃ s, ({ level, message } : Event).text? style = some s := by
  cases style <;> exact ⟨_, rfl⟩

theorem lines_ne_nil_of_no_fields (level : Level) (message : Datum) (style : Style) :
    ({ level, message } : Event).lines style ≠ [] := by
  obtain ⟨s, hs⟩ := exists_text_of_no_fields level message style
  rw [Event.lines, hs]
  simp [Text.split]

/-- The methods by which both kinds of loggers log. -/
def methodWords : List String :=
  ["debug", "info", "warning", "warn", "error", "critical", "fatal"]

theorem exists_method_of_mem {word : String} (h : word ∈ methodWords) :
    ∃ method, Method.ofWord? word = some method := by
  have hall : ∀ word ∈ methodWords, (Method.ofWord? word).isSome := by decide
  exact Option.isSome_iff_exists.mp (hall word h)

/-- Once logging is configured, both ways of logging a text print the same lines, or both print
none: those of the text filled in, in the style of the last configuration, if the logger lets the
level through. -/
theorem structured_prints_as_plain (uses : List Use) {settings : Settings.LoggingSettings}
    (last : (configurations (outcomes Use.act uses {}).1).getLast? = some settings)
    {word : String} (hword : word ∈ methodWords) (logger template : String) (args : List Datum)
    {text : String} (filled : Text.fillList template args = .ok text) :
    let r := (outcomes Use.act uses {}).2
    ∃ method lines, Method.ofWord? word = some method ∧
      r.logStructured logger { method, message := .text template, args } = .ok lines ∧
      r.logPlain logger method (.text template) args = lines ∧
      lines = (if r.prints logger method.level then
        ({ level := method.level, message := .text text } : Event).lines (styleOf settings)
        else []) ∧
      (lines = [] ↔ r.prints logger method.level = false) := by
  intro r
  obtain ⟨method, hmethod⟩ := exists_method_of_mem hword
  obtain ⟨rank, -, hr⟩ := (settled_run uses).at_last last
  have hlines : r.lines logger { level := method.level, message := .text text } =
      if r.prints logger method.level then
        ({ level := method.level, message := .text text } : Event).lines (styleOf settings)
      else [] := by
    rw [show r = .at rank (styleOf settings) from hr]
    exact lines_at rank _ logger _
  refine ⟨method, _, hmethod, logStructured_of_filled filled, logPlain_of_filled filled, hlines, ?_⟩
  rw [hlines]
  split
  next hprints => simp [hprints, lines_ne_nil_of_no_fields]
  next hprints => simpa using hprints

/-- Two texts from a list of arguments, after a level that is not known was refused. -/
theorem structured_prints_as_plain_of_two_texts :
    let uses : List Use := [.configure { json := true }, .configure { level := "LOUD" }]
    (configurations (outcomes Use.act uses {}).1).getLast? = some { json := true } ∧
    "warn" ∈ methodWords ∧
    Text.fillList "%s: 100%% of %s" [.text "cups", .text "coffee"] = .ok "cups: 100% of coffee" ∧
    ∃ method lines, Method.ofWord? "warn" = some method ∧
      (outcomes Use.act uses {}).2.logPlain "coffee" method (.text "%s: 100%% of %s")
        [.text "cups", .text "coffee"] = lines ∧ lines ≠ [] := by
  intro uses
  have hlast : (configurations (outcomes Use.act uses {}).1).getLast? = some { json := true } := rfl
  have hword : "warn" ∈ methodWords := by decide
  have hfilled : Text.fillList "%s: 100%% of %s" [.text "cups", .text "coffee"] =
      .ok "cups: 100% of coffee" := by decide
  obtain ⟨method, lines, hmethod, -, hplain, -, hnil⟩ :=
    structured_prints_as_plain uses hlast hword "coffee" "%s: 100%% of %s"
      [.text "cups", .text "coffee"] hfilled
  refine ⟨hlast, hword, hfilled, method, lines, hmethod, hplain, fun h => ?_⟩
  obtain rfl : Method.warning = method := Option.some.inj hmethod
  exact absurd (hnil.mp h) (by decide)

end Preflight.Log
