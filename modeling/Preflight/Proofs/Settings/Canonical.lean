import Mathlib.Logic.Relation
import Preflight.Proofs.Entries
import Preflight.Proofs.Settings.LevelNames

/-! Settings written as data, and data that say more than settings hold. Settings that were read are
read again from what they are written as; and what stands under a key that is not known does not
count, whether the rest is accepted or not. -/
namespace Preflight.Settings

/-! ## Settings written as data -/

theorem readPlugin_toDatum (p : PluginSettings) : readPlugin p.toDatum = .ok p := rfl

theorem readLogging_toDatum {l : LoggingSettings} (h : l.level ∈ levelNames) :
    readLogging l.toDatum = .ok l := by
  have hupper := upper_of_mem_levelNames _ h
  have hlevel : readLevel (.text l.level) = .ok l.level :=
    readLevel_text_eq_ok_iff.mpr ⟨by rwa [hupper], hupper⟩
  rw [LoggingSettings.toDatum, readLogging_eq_ok_iff]
  exact ⟨(field_eq_ok_iff rfl).mpr hlevel, rfl⟩

theorem readEntries_toDatum (ps : List (String × PluginSettings)) :
    readEntries (ps.map fun p => (p.1, p.2.toDatum)) = .ok ps := by
  induction ps with
  | nil => rfl
  | cons p rest ih =>
    rw [List.map_cons, readEntries, map_both_eq_ok_iff]
    exact ⟨p.2, rest, by rw [readPlugin_toDatum]; rfl, ih, rfl⟩

theorem readAgent_toDatum {a : AgentSettings} (h : a.logging.level ∈ levelNames) :
    readAgent a.toDatum = .ok a := by
  have hplugins : readPlugins (.record (a.plugins.map fun p => (p.1, p.2.toDatum))) =
      .ok a.plugins := readEntries_toDatum a.plugins
  rw [AgentSettings.toDatum, readAgent_eq_ok_iff]
  exact ⟨(field_eq_ok_iff rfl).mpr hplugins, (field_eq_ok_iff rfl).mpr (readLogging_toDatum h)⟩

/-! ## Keys that are not known -/

def agentKeys : List String := ["plugins", "logging"]
def pluginKeys : List String := ["enabled", "config"]
def loggingKeys : List String := ["level", "json_output"]

/-- The second record has one more entry, under a key that is not known. -/
inductive Widens (known : List String) :
    List (String × Datum) → List (String × Datum) → Prop where
  | insert {key : String} (unknown : key ∉ known) (d : Datum)
      (before after : List (String × Datum)) :
      Widens known (before ++ after) (before ++ (key, d) :: after)

/-- The second data have one more entry under a key that is not known: at the top, among the
settings of a plugin, or among those of the logging. -/
inductive SaysMore : Datum → Datum → Prop where
  | top {fields wider : List (String × Datum)} (h : Widens agentKeys fields wider) :
      SaysMore (.record fields) (.record wider)
  | plugin {fields wider : List (String × Datum)} (h : Widens pluginKeys fields wider)
      (name : String) (front back before after : List (String × Datum)) :
      SaysMore
        (.record (before ++
          ("plugins", .record (front ++ (name, .record fields) :: back)) :: after))
        (.record (before ++
          ("plugins", .record (front ++ (name, .record wider) :: back)) :: after))
  | logging {fields wider : List (String × Datum)} (h : Widens loggingKeys fields wider)
      (before after : List (String × Datum)) :
      SaysMore (.record (before ++ ("logging", .record fields) :: after))
        (.record (before ++ ("logging", .record wider) :: after))

section Unknown
variable {α : Type} {key : String} {fields wider : List (String × Datum)} {d d' : Datum}

theorem Widens.get?_eq {known : List String} (h : Widens known fields wider) (hkey : key ∈ known) :
    Entries.get? key wider = Entries.get? key fields := by
  cases h with
  | @insert other unknown d before after =>
    have hne : other ≠ key := fun heq => unknown (heq ▸ hkey)
    rw [Entries.get?_append, Entries.get?_append, Entries.get?_cons_of_ne hne]

theorem Widens.field_eq {known : List String} (h : Widens known fields wider) (hkey : key ∈ known)
    (default : α) (read : Datum → Verdict α) :
    field key default read wider = field key default read fields := by
  rw [field, h.get?_eq hkey, field]

theorem readPlugin_of_widens (h : Widens pluginKeys fields wider) :
    readPlugin (.record wider) = readPlugin (.record fields) := by
  have henabled : "enabled" ∈ pluginKeys := by decide
  have hconfig : "config" ∈ pluginKeys := by decide
  simp only [readPlugin, h.field_eq henabled, h.field_eq hconfig]

theorem readLogging_of_widens (h : Widens loggingKeys fields wider) :
    readLogging (.record wider) = readLogging (.record fields) := by
  have hlevel : "level" ∈ loggingKeys := by decide
  have hjson : "json_output" ∈ loggingKeys := by decide
  simp only [readLogging, h.field_eq hlevel, h.field_eq hjson]

theorem readEntries_replace (h : readPlugin d' = readPlugin d) (name : String)
    (front back : List (String × Datum)) :
    readEntries (front ++ (name, d') :: back) = readEntries (front ++ (name, d) :: back) := by
  induction front with
  | nil => rw [List.nil_append, List.nil_append, readEntries, readEntries, h]
  | cons e rest ih => rw [List.cons_append, List.cons_append, readEntries, readEntries, ih]

/-- Other data under a key make no difference to a field that reads them as it read those. -/
theorem field_replace {other : String} {read : Datum → Verdict α}
    (h : other = key → read d' = read d) (default : α) (before after : List (String × Datum)) :
    field key default read (before ++ (other, d') :: after) =
      field key default read (before ++ (other, d) :: after) := by
  simp only [field, Entries.get?_append]
  cases Entries.get? key before with
  | some e => rfl
  | none =>
    by_cases hkey : other = key
    · subst hkey
      simp only [Entries.get?_cons_self, Option.none_or, h rfl]
    · simp only [Entries.get?_cons_of_ne hkey]

theorem readAgent_congr
    (hplugins : field "plugins" [] readPlugins wider = field "plugins" [] readPlugins fields)
    (hlogging : field "logging" {} readLogging wider = field "logging" {} readLogging fields) :
    readAgent (.record wider) = readAgent (.record fields) := by
  rw [readAgent, readAgent, hplugins, hlogging]

theorem readAgent_of_saysMore (h : SaysMore d d') : readAgent d' = readAgent d := by
  cases h with
  | top h => exact readAgent_congr (h.field_eq (by decide) _ _) (h.field_eq (by decide) _ _)
  | plugin h name front back before after =>
    refine readAgent_congr (field_replace (fun _ => ?_) _ _ _)
      (field_replace (fun heq => absurd heq (by decide)) _ _ _)
    exact readEntries_replace (readPlugin_of_widens h) name front back
  | logging h before after =>
    refine readAgent_congr (field_replace (fun heq => absurd heq (by decide)) _ _ _)
      (field_replace (fun _ => ?_) _ _ _)
    exact readLogging_of_widens h

end Unknown

/-- Settings that were read are read again, all of them as they are, from what they are written as.
Whatever entries with keys that are not known come or go, the verdict is the same. -/
theorem read_settings_stay :
    (∀ d a, readAgent d = .ok a → readAgent a.toDatum = .ok a) ∧
    ∀ d d', Relation.EqvGen SaysMore d d' → readAgent d = readAgent d' := by
  refine ⟨fun d a h => readAgent_toDatum (level_mem_of_readAgent h), fun d d' h => ?_⟩
  induction h with
  | rel d d' h => exact (readAgent_of_saysMore h).symm
  | refl d => rfl
  | symm d d' _ ih => exact ih.symm
  | trans d d' d'' _ _ ih ih' => exact ih.trans ih'

/-- A flag by a word, and a configuration that is no one's business. -/
def looseEntry : List (String × Datum) :=
  [("enabled", .text "Off"), ("config", .record [("cups", .list [.null, .int 2])])]

/-- The settings of one plugin, and a level with a dotless i. -/
def looseFields : List (String × Datum) :=
  [("logging", .record [("json_output", .int 1), ("level", .text "ınfo")]),
    ("plugins", .record [("coffee", .record looseEntry)])]

theorem read_settings_stay_loose :
    let a : AgentSettings :=
      { plugins := [("coffee", { enabled := false, config := [("cups", .list [.null, .int 2])] })]
        logging := { level := "INFO", json := true } }
    readAgent (.record looseFields) = .ok a ∧ readAgent a.toDatum = .ok a ∧
      readAgent (.record (("Plugins", .int 5) :: looseFields)) = .ok a := by
  intro a
  have hflag : readFlag (.text "Off") = .ok false := by decide +kernel
  have hlevel : readLevel (.text "ınfo") = .ok "INFO" := by decide +kernel
  have hplugin : readPlugin (.record looseEntry) =
      .ok { enabled := false, config := [("cups", .list [.null, .int 2])] } :=
    map_both_eq_ok_iff.mpr
      ⟨false, _, (field_eq_ok_iff rfl).mpr hflag, (field_eq_ok_iff rfl).mpr rfl, rfl⟩
  have hplugins : readPlugins (.record [("coffee", .record looseEntry)]) = .ok a.plugins := by
    rw [readPlugins, readEntries, hplugin]
    rfl
  have hread : readAgent (.record looseFields) = .ok a :=
    readAgent_eq_ok_iff.mpr ⟨(field_eq_ok_iff rfl).mpr hplugins, (field_eq_ok_iff rfl).mpr
      (readLogging_eq_ok_iff.mpr
        ⟨(field_eq_ok_iff rfl).mpr hlevel, (field_eq_ok_iff rfl).mpr rfl⟩)⟩
  have hmore : SaysMore (.record looseFields) (.record (("Plugins", .int 5) :: looseFields)) :=
    .top (.insert (by decide) (.int 5) [] looseFields)
  refine ⟨hread, read_settings_stay.1 _ a hread, ?_⟩
  rw [← read_settings_stay.2 _ _ (.rel _ _ hmore), hread]

end Preflight.Settings
