import Preflight.Proofs.Settings.Level
import Preflight.Proofs.Settings.Plain
import Preflight.Proofs.Settings.Reading

/-! What is loaded from a plain file, with no variable and with one that sets the level of the log.
Names inside a setting keep their case, and the level is read under a key in small letters: the
variable counts when the file has such a key for it to be put under, and is lost otherwise. -/
namespace Preflight.Settings
open Draft
open Text (upper lower)

/-! ## Read -/

/-- A text that is put into a record counts as the level where it is put under the key that the
level is read from. -/
theorem readLogging_putText {old : List (String × Datum)} {text : String} {l : LoggingSettings}
    (level : upper text ∈ levelNames) (h : readLogging (.record old) = .ok l) :
    readLogging (.record (Store.putText "LEVEL" text old)) =
      .ok { l with
        level := if findKey? "LEVEL" (Entries.keys old) = some "level" then upper text
          else l.level } := by
  obtain ⟨hlevel, hjson⟩ := readLogging_eq_ok_iff.mp h
  have hmeans : means "LEVEL" "json_output" = false := by decide +kernel
  have hother : findKey? "LEVEL" (Entries.keys old) ≠ some "json_output" := fun hfound => by
    rcases means_of_findKey? hfound with heq | hmeant
    · exact absurd heq (by decide)
    · exact absurd (hmeans.symm.trans hmeant) Bool.false_ne_true
  have hjsonKey := Store.key_ne (by decide : "LEVEL" ≠ "json_output") hother
  refine readLogging_eq_ok_iff.mpr ⟨?_, ?_⟩
  · by_cases hkey : findKey? "LEVEL" (Entries.keys old) = some "level"
    · have hread : readLevel (.text text) = .ok (upper text) := by simp [readLevel, level]
      rw [if_pos hkey, Store.putText, hkey, Option.getD_some]
      exact (field_eq_ok_iff (Entries.get?_put_self _ _ _)).mpr hread
    · have hlevelKey := Store.key_ne (by decide : "LEVEL" ≠ "level") hkey
      rw [if_neg hkey, field, Store.putText, Entries.get?_put_of_ne hlevelKey.symm]
      exact hlevel
  · rw [field, Store.putText, Entries.get?_put_of_ne hjsonKey.symm]
    exact hjson

/-! ## Loaded -/

/-- The settings of a file with names in small letters. -/
def lowered (top : List (String × Datum)) : List (String × Datum) :=
  Entries.ofList (top.map fun f => (lower f.1, f.2))

/-- A file of plain settings, in which what is about the log is so by one name. -/
structure PlainFile (fields : List (String × Datum)) : Prop where
  literal : Literal (.record fields)
  direct : ∀ f ∈ fields, Direct (topKey f.1)
  usual : ∀ f ∈ fields, topKey f.1 ∉ optionKeys
  logging : ∀ f ∈ fields, lower (topKey f.1) = "logging" → topKey f.1 = "LOGGING"

theorem mem_topFields {e : String × Datum} {fields : List (String × Datum)}
    (he : e ∈ Store.topFields fields) : ∃ f ∈ fields, (topKey f.1, f.2) = e :=
  List.mem_map.mp (Entries.mem_ofList he)

theorem mem_keys_topFields {name : String} {fields : List (String × Datum)}
    (hname : name ∈ Entries.keys (Store.topFields fields)) : ∃ f ∈ fields, topKey f.1 = name := by
  obtain ⟨e, he, rfl⟩ := List.mem_map.mp hname
  obtain ⟨f, hf, rfl⟩ := mem_topFields he
  exact ⟨f, hf, rfl⟩

theorem PlainFile.settings {fields : List (String × Datum)} (plain : PlainFile fields) :
    PlainSettings (Store.topFields fields) where
  nodup := Entries.nodup_keys_ofList _
  direct name hname := by
    obtain ⟨f, hf, rfl⟩ := mem_keys_topFields hname
    exact plain.direct f hf
  usual option hoption hname := by
    obtain ⟨f, hf, rfl⟩ := mem_keys_topFields hname
    exact plain.usual f hf hoption
  literal e he := by
    obtain ⟨f, hf, rfl⟩ := mem_topFields he
    have hvalue : Literal f.2 := plain.literal.value hf
    exact hvalue

theorem PlainFile.logging_of_lower {fields : List (String × Datum)} (plain : PlainFile fields)
    {name : String} (hname : name ∈ Entries.keys (Store.topFields fields))
    (hlower : lower name = "logging") : name = "LOGGING" := by
  obtain ⟨f, hf, rfl⟩ := mem_keys_topFields hname
  exact plain.logging f hf hlower

/-- What a file says of the log. -/
def loggingFields (fields : List (String × Datum)) : List (String × Datum) :=
  ((Entries.get? "LOGGING" (Store.topFields fields)).bind Datum.fields?).getD []

/-- The variables that settings are taken from. -/
def settingVariables (environment : List (String × String)) : List (String × String) :=
  environment.filter fun e => Store.variableStarts.any fun start =>
    start.toList.isPrefixOf e.1.toList

theorem variablesOf_settingVariables {start : String} (hstart : start ∈ Store.variableStarts)
    (environment : List (String × String)) :
    Store.variablesOf start environment =
      Store.variablesOf start (settingVariables environment) := by
  rw [settingVariables, Store.variablesOf, Store.variablesOf, List.filterMap_filter]
  refine List.filterMap_congr fun e _ => ?_
  by_cases hbegins : start.toList.isPrefixOf e.1.toList
  · have hany : (Store.variableStarts.any fun start => start.toList.isPrefixOf e.1.toList) = true :=
      List.any_eq_true.mpr ⟨start, hstart, hbegins⟩
    rw [if_pos hany]
  · simp [hbegins]

variable {fields top : List (String × Datum)} {environment : List (String × String)} {text : String}

theorem load_eq (plain : PlainFile fields)
    (hlaid : Store.variableStarts.foldlM (Store.overlay environment)
      (ofFields (Store.topFields fields)) = .ok (ofFields top))
    (literal : ∀ f ∈ top, Literal f.2) :
    load (.record fields) environment =
      (readAgent (.record (lowered top))).orFault .agent := by
  have hsettled : Scope.settle { store := ofFields top, environment } = .ok top :=
    settleFields_ofFields fun f hf => settle_literal _ (literal f hf)
  rw [load, Store.ofFile_plain plain.literal plain.settings]
  simp only [bind, Except.bind] at hlaid ⊢
  rw [hlaid]
  simp only [hsettled]
  rfl

theorem overlay_nothing {start : String} {s : Store}
    (h : Store.variablesOf start environment = []) :
    Store.overlay environment s start = .ok s := by
  rw [Store.overlay, h]
  rfl

theorem overlay_level (plain : PlainSettings top) (level : upper text ∈ levelNames)
    (hvariables : Store.variablesOf "METERLINE_" environment = [("LOGGING__LEVEL", text)])
    {old : List (String × Datum)}
    (hold : (Entries.get? "LOGGING" top).getD (.record []) = .record old) :
    Store.overlay environment (ofFields top) "METERLINE_" =
      .ok (ofFields (Entries.put "LOGGING" (.record (Store.putText "LEVEL" text old)) top)) := by
  have hcast : Store.isOn "AUTO_CAST" (ofFields top) = true :=
    Store.isOn_of_usual (by rw [keys_ofFields]; exact plain.usual) (by decide)
  have hpath : Text.split "." (Text.replace "__" "." "LOGGING__LEVEL") = ["LOGGING", "LEVEL"] := by
    decide +kernel
  have hkey : topKey "LOGGING" = "LOGGING" := by decide +kernel
  have hfirst : topKey (Text.trim "LOGGING") = "LOGGING" := by decide +kernel
  have hset := Store.set_text plain hpath hkey hfirst hold (plainText_of_level level)
    ⟨by decide, by decide⟩
  rw [Store.overlay, hvariables, hcast]
  simp only [List.mapM_cons, List.mapM_nil, readVariable_of_level level]
  simp only [bind, Except.bind, pure, Except.pure, Store.setAll, hset]

/-- A plain file alone is read as it is. -/
theorem load_plain (plain : PlainFile fields) (hvariables : settingVariables environment = []) :
    load (.record fields) environment =
      (readAgent (.record (lowered (Store.topFields fields)))).orFault .agent := by
  have hnone : ∀ start ∈ Store.variableStarts, Store.variablesOf start environment = [] :=
    fun start hstart => by
      rw [variablesOf_settingVariables hstart, hvariables]
      rfl
  refine load_eq plain ?_ plain.settings.literal
  rw [Store.variableStarts, List.foldlM_cons, overlay_nothing (hnone _ (by decide))]
  simp only [bind, Except.bind]
  rw [List.foldlM_cons, overlay_nothing (hnone _ (by decide))]
  rfl

theorem load_plain_level (plain : PlainFile fields) (level : upper text ∈ levelNames)
    (hvariables : settingVariables environment = [("METERLINE_LOGGING__LEVEL", text)])
    {old : List (String × Datum)}
    (hold : (Entries.get? "LOGGING" (Store.topFields fields)).getD (.record []) = .record old) :
    load (.record fields) environment =
      (readAgent (.record (lowered (Entries.put "LOGGING"
        (.record (Store.putText "LEVEL" text old)) (Store.topFields fields))))).orFault .agent := by
  have hfirst : Store.variablesOf "DYNACONF_" environment = [] := by
    rw [variablesOf_settingVariables (by decide), hvariables]
    rfl
  have hlast : Store.variablesOf "METERLINE_" environment = [("LOGGING__LEVEL", text)] := by
    rw [variablesOf_settingVariables (by decide), hvariables]
    rfl
  refine load_eq plain ?_ ?_
  · rw [Store.variableStarts, List.foldlM_cons, overlay_nothing hfirst]
    simp only [bind, Except.bind]
    rw [List.foldlM_cons, overlay_level plain.settings level hlast hold]
    rfl
  · intro f hf
    rcases Entries.mem_put hf with hf | rfl
    · exact plain.settings.literal f hf
    · exact Store.literal_putText (Store.literal_record plain.settings hold)
        (plainText_of_level level) ⟨by decide, by decide⟩

theorem get?_logging (nodup : (Entries.keys top).Nodup)
    (hname : ∀ {name}, name ∈ Entries.keys top → lower name = "logging" → name = "LOGGING") :
    Entries.get? "logging" (lowered top) = Entries.get? "LOGGING" top := by
  have hlower : lower "LOGGING" = "logging" := by decide +kernel
  rw [← hlower]
  exact Entries.get?_renamed lower nodup fun name hmem heq => hname hmem (heq.trans hlower)

theorem get?_logging_put (nodup : (Entries.keys top).Nodup)
    (hname : ∀ {name}, name ∈ Entries.keys top → lower name = "logging" → name = "LOGGING")
    (d : Datum) :
    Entries.get? "logging" (lowered (Entries.put "LOGGING" d top)) = some d := by
  rw [get?_logging (Entries.nodup_keys_put nodup _ _), Entries.get?_put_self]
  intro name hmem hlower
  exact (Entries.mem_keys_put.mp hmem).elim id (hname · hlower)

/-- What is said of the log is a record, if anything is, and is read as one. -/
theorem readLogging_of_field {l : LoggingSettings} (plain : PlainFile fields)
    (h : field "logging" {} readLogging (lowered (Store.topFields fields)) = .ok l) :
    (Entries.get? "LOGGING" (Store.topFields fields)).getD (.record []) =
        .record (loggingFields fields) ∧
      readLogging (.record (loggingFields fields)) = .ok l := by
  have hlogging := get?_logging plain.settings.nodup plain.logging_of_lower
  rw [loggingFields]
  cases hget : Entries.get? "LOGGING" (Store.topFields fields) with
  | none =>
    rw [field, hlogging, hget] at h
    exact ⟨rfl, h⟩
  | some d =>
    have hread : readLogging d = .ok l := (field_eq_ok_iff (hlogging.trans hget)).mp h
    cases d with
    | record inner => exact ⟨rfl, hread⟩
    | _ => cases hread

/-- The variable for the level changes nothing but the level, and that only where it is put under
the key that the level is read from. A file that gives no level, or gives it under another
spelling, keeps the level that it has without the variable. -/
theorem load_with_level_variable (plain : PlainFile fields) (level : upper text ∈ levelNames)
    (hvariables : settingVariables environment = [("METERLINE_LOGGING__LEVEL", text)])
    {a : AgentSettings} (valid : load (.record fields) [] = .ok a) :
    load (.record fields) environment =
      .ok { a with logging := { a.logging with
        level := if findKey? "LEVEL" (Entries.keys (loggingFields fields)) = some "level"
          then upper text else a.logging.level } } := by
  rw [load_plain plain rfl, orFault_eq_ok_iff] at valid
  obtain ⟨hplugins, hlogging⟩ := readAgent_eq_ok_iff.mp valid
  obtain ⟨hold, hread⟩ := readLogging_of_field plain hlogging
  rw [load_plain_level plain level hvariables hold, orFault_eq_ok_iff]
  refine readAgent_eq_ok_iff.mpr ⟨?_, ?_⟩
  · have hother : lower "LOGGING" ≠ "plugins" := by decide +kernel
    rw [field, lowered, Entries.get?_renamed_put lower hother]
    exact hplugins
  · have hput := get?_logging_put plain.settings.nodup plain.logging_of_lower
    exact (field_eq_ok_iff (hput _)).mpr (readLogging_putText level hread)

/-- A file that says nothing but at which level to log. -/
def debugFile : List (String × Datum) := [("logging", .record [("level", .text "debug")])]

theorem topFields_debugFile :
    Store.topFields debugFile = [("LOGGING", .record [("level", .text "debug")])] := by
  have hkey : topKey "logging" = "LOGGING" := by decide +kernel
  simp [Store.topFields, debugFile, Entries.ofList, Entries.put, hkey]

theorem plainFile_debugFile : PlainFile debugFile := by
  have hdebug : PlainText "debug" := plainText_of_level (by decide +kernel)
  have hlogging : Literal (.record [("level", .text "debug")]) :=
    .record (by decide) (by decide) (by decide) fun f hf => List.mem_singleton.mp hf ▸ .text hdebug
  have hkey : ∀ f ∈ debugFile, topKey f.1 = "LOGGING" := fun f hf => by
    rw [List.mem_singleton.mp hf]
    decide +kernel
  refine ⟨?_, fun f hf => ?_, fun f hf => ?_, fun f hf _ => hkey f hf⟩
  · exact .record (by decide) (by decide) (by decide) fun f hf =>
      List.mem_singleton.mp hf ▸ hlogging
  · rw [hkey f hf]
    exact ⟨by decide +kernel, by decide +kernel⟩
  · rw [hkey f hf]
    decide

theorem load_debugFile :
    load (.record debugFile) [] =
      .ok { plugins := [], logging := { level := "DEBUG", json := false } } := by
  have hlower : lower "LOGGING" = "logging" := by decide +kernel
  have hlowered : lowered [("LOGGING", .record [("level", .text "debug")])] =
      [("logging", .record [("level", .text "debug")])] := by
    simp [lowered, Entries.ofList, Entries.put, hlower]
  have hlevel : readLevel (.text "debug") = .ok "DEBUG" := by
    have hupper : upper "debug" = "DEBUG" := by decide +kernel
    simp [readLevel, hupper, levelNames]
  rw [load_plain plainFile_debugFile rfl, topFields_debugFile, hlowered, orFault_eq_ok_iff]
  refine readAgent_eq_ok_iff.mpr ⟨rfl, (field_eq_ok_iff rfl).mpr ?_⟩
  exact readLogging_eq_ok_iff.mpr ⟨(field_eq_ok_iff rfl).mpr hlevel, rfl⟩

theorem load_with_level_variable_debug :
    load (.record debugFile) [("HOME", "/"), ("METERLINE_LOGGING__LEVEL", "error")] =
      .ok { plugins := [], logging := { level := "ERROR", json := false } } := by
  have herror : upper "error" ∈ levelNames := by decide +kernel
  have hvariables :
      settingVariables [("HOME", "/"), ("METERLINE_LOGGING__LEVEL", "error")] =
        [("METERLINE_LOGGING__LEVEL", "error")] := by decide +kernel
  have hfound : findKey? "LEVEL" (Entries.keys (loggingFields debugFile)) = some "level" := by
    rw [loggingFields, topFields_debugFile]
    decide +kernel
  have hupper : upper "error" = "ERROR" := by decide +kernel
  have hload := load_with_level_variable plainFile_debugFile herror hvariables load_debugFile
  rw [if_pos hfound, hupper] at hload
  exact hload

/-- The level that a variable gives is lost on the empty file. -/
theorem level_variable_lost :
    ¬ ∀ (fields : List (String × Datum)) (environment : List (String × String)) (text : String)
      (a : AgentSettings), upper text ∈ levelNames →
      settingVariables environment = [("METERLINE_LOGGING__LEVEL", text)] →
      load (.record fields) [] = .ok a →
      ∃ b, load (.record fields) environment = .ok b ∧ b.logging.level = upper text := by
  intro always
  have plain : PlainFile [] :=
    ⟨.empty, List.forall_mem_nil _, List.forall_mem_nil _, List.forall_mem_nil _⟩
  have herror : upper "error" ∈ levelNames := by decide +kernel
  have hvariables : settingVariables [("METERLINE_LOGGING__LEVEL", "error")] =
      [("METERLINE_LOGGING__LEVEL", "error")] := by decide +kernel
  have halone : load (.record []) [] = .ok {} := by
    rw [load_plain plain rfl]
    rfl
  obtain ⟨b, hload, hlevel⟩ := always [] _ "error" {} herror hvariables halone
  rw [load_plain_level plain herror hvariables rfl, orFault_eq_ok_iff] at hload
  have hread := (readAgent_eq_ok_iff.mp hload).2
  rw [field_eq_ok_iff (get?_logging_put plain.settings.nodup plain.logging_of_lower _),
    readLogging_putText herror rfl] at hread
  have hinfo : b.logging.level = "INFO" := by
    rw [← Except.ok.inj hread]
    rfl
  rw [hinfo] at hlevel
  exact absurd hlevel (by decide +kernel)

end Preflight.Settings
