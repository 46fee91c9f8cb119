import Preflight.Proofs.Entries
import Preflight.Proofs.Settings.Reading

/-! What is reported of data that cannot be read as settings. A reader collects: what it reports of
a record is what is reported of its fields, one after the other and each under its key. So nothing
is left out, and no place is reported on twice. -/
namespace Preflight.Settings
open Entries (keys)
variable {α β : Type} {key other : String} {fields entries : List (String × Datum)}

namespace Verdict
variable {x : Verdict α} {y : Verdict β}

/-- All that a verdict has against the data. -/
def issues : Verdict α → List Issue
  | .ok _ => []
  | .error is => is

def paths (x : Verdict α) : List (List String) := x.issues.map (·.path)

theorem issues_map (f : α → β) (x : Verdict α) : issues (x.map f) = x.issues := by
  cases x <;> rfl

theorem issues_both (x : Verdict α) (y : Verdict β) : (x.both y).issues = x.issues ++ y.issues := by
  cases x <;> cases y <;> simp [both, issues]

theorem issues_under (key : String) (x : Verdict α) :
    (x.under key).issues = x.issues.map (·.under key) := by
  cases x <;> rfl

theorem paths_map (f : α → β) (x : Verdict α) : paths (x.map f) = x.paths := by
  rw [paths, issues_map, paths]

theorem paths_both (x : Verdict α) (y : Verdict β) : (x.both y).paths = x.paths ++ y.paths := by
  rw [paths, issues_both, List.map_append, paths, paths]

theorem paths_under (key : String) (x : Verdict α) :
    (x.under key).paths = x.paths.map (key :: ·) := by
  simp [paths, issues_under, Issue.under, Function.comp_def]

/-- What is not accepted has an issue. -/
def Reasoned (x : Verdict α) : Prop := x.issues = [] → ∃ a, x = .ok a

theorem Reasoned.exists_ok_iff (hx : x.Reasoned) : (∃ a, x = .ok a) ↔ x.issues = [] := by
  constructor
  · rintro ⟨a, rfl⟩
    rfl
  · exact hx

theorem Reasoned.map (hx : x.Reasoned) (f : α → β) : Reasoned (x.map f) := by
  intro h
  obtain ⟨a, rfl⟩ := hx (by rwa [issues_map] at h)
  exact ⟨f a, rfl⟩

theorem Reasoned.under (hx : x.Reasoned) (key : String) : (x.under key).Reasoned := by
  intro h
  rw [issues_under, List.map_eq_nil_iff] at h
  obtain ⟨a, rfl⟩ := hx h
  exact ⟨a, rfl⟩

theorem Reasoned.both (hx : x.Reasoned) (hy : y.Reasoned) : (x.both y).Reasoned := by
  intro h
  rw [issues_both, List.append_eq_nil_iff] at h
  obtain ⟨a, rfl⟩ := hx h.1
  obtain ⟨b, rfl⟩ := hy h.2
  exact ⟨(a, b), rfl⟩

/-- Accepted as a whole, or rejected for one reason as a whole. -/
inductive Simple : Verdict α → Prop where
  | ok (a : α) : Simple (.ok a)
  | reject (p : Problem) : Simple (reject p)

theorem Simple.reasoned (h : x.Simple) : x.Reasoned := by
  cases h with
  | ok a => exact fun _ => ⟨a, rfl⟩
  | reject p => exact nofun

theorem Simple.nodup_paths (h : x.Simple) : x.paths.Nodup := by
  cases h with
  | ok a => exact List.nodup_nil
  | reject p => exact List.nodup_singleton _

end Verdict
open Verdict (issues paths Reasoned Simple)

/-! ## One value -/

theorem simple_flagOfNumber (n : Int) : Simple (flagOfNumber n) := by
  unfold flagOfNumber
  split_ifs <;> constructor

theorem simple_readFlag (d : Datum) : Simple (readFlag d) := by
  cases d with
  | bool b => exact .ok b
  | int n => exact simple_flagOfNumber n
  | float x =>
    rw [readFlag]
    split
    · split_ifs
      · exact .reject _
      · exact simple_flagOfNumber _
    · exact .reject _
  | text s =>
    rw [readFlag]
    split
    · exact .ok _
    · exact .reject _
  | _ => exact .reject _

theorem simple_readLevel (d : Datum) : Simple (readLevel d) := by
  cases d with
  | text s =>
    rw [readLevel]
    split_ifs
    · exact .ok _
    · exact .reject _
  | _ => exact .reject _

theorem simple_readRecord (d : Datum) : Simple (readRecord d) := by
  cases d with
  | record fs => exact .ok fs
  | _ => exact .reject _

/-! ## Fields -/

section Field
variable {default : α} {default' : β} {read : Datum → Verdict α} {read' : Datum → Verdict β}

theorem issues_field (key : String) (default : α) (read : Datum → Verdict α)
    (fields : List (String × Datum)) : (field key default read fields).issues =
      (Entries.get? key fields).elim [] fun d => (read d).issues.map (·.under key) := by
  rw [field]
  cases Entries.get? key fields with
  | none => rfl
  | some d => exact Verdict.issues_under key (read d)

theorem paths_field (key : String) (default : α) (read : Datum → Verdict α)
    (fields : List (String × Datum)) : (field key default read fields).paths =
      (Entries.get? key fields).elim [] fun d => (read d).paths.map (key :: ·) := by
  rw [field]
  cases Entries.get? key fields with
  | none => rfl
  | some d => exact Verdict.paths_under key (read d)

theorem reasoned_field (h : ∀ d, (read d).Reasoned) : (field key default read fields).Reasoned := by
  rw [field]
  cases Entries.get? key fields with
  | none => exact fun _ => ⟨default, rfl⟩
  | some d => exact (h d).under key

/-- Issues under different keys are in different places. -/
theorem nodup_paths_both_field (hne : key ≠ other)
    (h : ∀ d, Entries.get? key fields = some d → (read d).paths.Nodup)
    (h' : ∀ d, Entries.get? other fields = some d → (read' d).paths.Nodup) :
    ((field key default read fields).both (field other default' read' fields)).paths.Nodup := by
  rw [Verdict.paths_both, paths_field, paths_field]
  cases hget : Entries.get? key fields with
  | none =>
    cases hget' : Entries.get? other fields with
    | none => exact List.nodup_nil
    | some d' => exact (h' d' hget').map List.cons_injective
  | some d =>
    cases hget' : Entries.get? other fields with
    | none => simpa using (h d hget).map List.cons_injective
    | some d' =>
      refine List.Nodup.append ((h d hget).map List.cons_injective)
        ((h' d' hget').map List.cons_injective) fun p hp hp' => hne ?_
      obtain ⟨q, -, rfl⟩ := List.mem_map.mp hp
      obtain ⟨q', -, heq⟩ := List.mem_map.mp hp'
      exact (List.cons.inj heq).1.symm

end Field

/-! ## The readers -/

theorem reasoned_readLogging (d : Datum) : (readLogging d).Reasoned := by
  cases d with
  | record fields =>
    have hlevel : ∀ d, (readLevel d).Reasoned := fun d => (simple_readLevel d).reasoned
    have hflag : ∀ d, (readFlag d).Reasoned := fun d => (simple_readFlag d).reasoned
    exact ((reasoned_field hlevel).both (reasoned_field hflag)).map _
  | _ => exact (Simple.reject _).reasoned

theorem reasoned_readPlugin (d : Datum) : (readPlugin d).Reasoned := by
  cases d with
  | record fields =>
    have hflag : ∀ d, (readFlag d).Reasoned := fun d => (simple_readFlag d).reasoned
    have hrecord : ∀ d, (readRecord d).Reasoned := fun d => (simple_readRecord d).reasoned
    exact ((reasoned_field hflag).both (reasoned_field hrecord)).map _
  | _ => exact (Simple.reject _).reasoned

theorem nodup_paths_readLogging (d : Datum) : (readLogging d).paths.Nodup := by
  cases d with
  | record fields =>
    rw [readLogging, Verdict.paths_map]
    exact nodup_paths_both_field (by decide) (fun d _ => (simple_readLevel d).nodup_paths)
      fun d _ => (simple_readFlag d).nodup_paths
  | _ => exact (Simple.reject _).nodup_paths

theorem nodup_paths_readPlugin (d : Datum) : (readPlugin d).paths.Nodup := by
  cases d with
  | record fields =>
    rw [readPlugin, Verdict.paths_map]
    exact nodup_paths_both_field (by decide) (fun d _ => (simple_readFlag d).nodup_paths)
      fun d _ => (simple_readRecord d).nodup_paths
  | _ => exact (Simple.reject _).nodup_paths

theorem readEntries_eq_ok_iff {ps : List (String × PluginSettings)} :
    readEntries entries = .ok ps ↔
      List.Forall₂ (fun e p => p.1 = e.1 ∧ readPlugin e.2 = .ok p.2) entries ps := by
  induction entries generalizing ps with
  | nil => simp [readEntries, eq_comm]
  | cons e rest ih =>
    obtain ⟨name, d⟩ := e
    have hunder {p : PluginSettings} :
        (readPlugin d).under name = .ok p ↔ readPlugin d = .ok p := by
      cases readPlugin d <;> simp [Verdict.under]
    rw [readEntries, map_both_eq_ok_iff]
    constructor
    · rintro ⟨p, more, hp, hmore, rfl⟩
      exact .cons ⟨rfl, hunder.mp hp⟩ (ih.mp hmore)
    · intro h
      cases h with
      | @cons _ p _ more hp hmore =>
        obtain ⟨name', p⟩ := p
        obtain ⟨rfl, hp⟩ := hp
        exact ⟨p, more, hunder.mpr hp, ih.mpr hmore, rfl⟩

/-- What is reported of entries, each under its key. -/
theorem issues_readEntries (entries : List (String × Datum)) : (readEntries entries).issues =
    entries.flatMap fun e => (readPlugin e.2).issues.map (·.under e.1) := by
  induction entries with
  | nil => rfl
  | cons e rest ih =>
    rw [readEntries, Verdict.issues_map, Verdict.issues_both, Verdict.issues_under, ih,
      List.flatMap_cons]

theorem reasoned_readEntries (entries : List (String × Datum)) :
    (readEntries entries).Reasoned := by
  induction entries with
  | nil => exact fun _ => ⟨[], rfl⟩
  | cons e rest ih => exact (((reasoned_readPlugin e.2).under e.1).both ih).map _

theorem exists_key_of_mem_paths {p : List String} (h : p ∈ (readEntries entries).paths) :
    ∃ k ∈ keys entries, ∃ q, p = k :: q := by
  rw [paths, issues_readEntries] at h
  obtain ⟨i, hi, rfl⟩ := List.mem_map.mp h
  obtain ⟨e, he, hi⟩ := List.mem_flatMap.mp hi
  obtain ⟨i, -, rfl⟩ := List.mem_map.mp hi
  exact ⟨e.1, List.mem_map_of_mem he, i.path, rfl⟩

theorem nodup_paths_readEntries (nodup : (keys entries).Nodup) :
    (readEntries entries).paths.Nodup := by
  induction entries with
  | nil => exact List.nodup_nil
  | cons e rest ih =>
    obtain ⟨hnot, hrest⟩ := List.nodup_cons.mp nodup
    rw [readEntries, Verdict.paths_map, Verdict.paths_both, Verdict.paths_under]
    refine List.Nodup.append ((nodup_paths_readPlugin e.2).map List.cons_injective) (ih hrest) ?_
    intro p hp hp'
    obtain ⟨q, -, rfl⟩ := List.mem_map.mp hp
    obtain ⟨k, hk, q', heq⟩ := exists_key_of_mem_paths hp'
    obtain rfl : e.1 = k := (List.cons.inj heq).1
    exact hnot hk

theorem reasoned_readPlugins (d : Datum) : (readPlugins d).Reasoned := by
  cases d with
  | record entries => exact reasoned_readEntries entries
  | _ => exact (Simple.reject _).reasoned

theorem reasoned_readAgent (d : Datum) : (readAgent d).Reasoned := by
  cases d with
  | record fields =>
    exact ((reasoned_field reasoned_readPlugins).both (reasoned_field reasoned_readLogging)).map _
  | _ => exact (Simple.reject _).reasoned

/-! ## An agent and its parts -/

/-- The entries of the table of plugins, if there is one. -/
def pluginEntries (fields : List (String × Datum)) : List (String × Datum) :=
  match Entries.get? "plugins" fields with
  | some (.record entries) => entries
  | _ => []

/-- What is reported of the entries of plugins. -/
def entryIssues (entries : List (String × Datum)) : List Issue :=
  entries.flatMap fun e =>
    (readPlugin e.2).issues.map fun i => ⟨"plugins" :: e.1 :: i.path, i.problem⟩

/-- What is reported where something else stands in the place of the table of plugins. -/
def tableIssues (fields : List (String × Datum)) : List Issue :=
  match Entries.get? "plugins" fields with
  | none | some (.record _) => []
  | some _ => [⟨["plugins"], .notRecord⟩]

def loggingIssues (fields : List (String × Datum)) : List Issue :=
  match Entries.get? "logging" fields with
  | none => []
  | some d => (readLogging d).issues.map fun i => ⟨"logging" :: i.path, i.problem⟩

theorem issues_plugins (fields : List (String × Datum)) :
    (field "plugins" [] readPlugins fields).issues =
      tableIssues fields ++ entryIssues (pluginEntries fields) := by
  rw [issues_field, tableIssues, pluginEntries]
  cases Entries.get? "plugins" fields with
  | none => rfl
  | some d =>
    cases d with
    | record entries =>
      have hread : (readPlugins (.record entries)).issues = (readEntries entries).issues := rfl
      simp only [Option.elim_some, hread, issues_readEntries, List.map_flatMap, List.map_map,
        List.nil_append]
      rfl
    | _ => rfl

theorem issues_logging (fields : List (String × Datum)) :
    (field "logging" {} readLogging fields).issues = loggingIssues fields := by
  rw [issues_field, loggingIssues]
  cases Entries.get? "logging" fields <;> rfl

theorem issues_readAgent (fields : List (String × Datum)) : (readAgent (.record fields)).issues =
    tableIssues fields ++ entryIssues (pluginEntries fields) ++ loggingIssues fields := by
  rw [readAgent, Verdict.issues_map, Verdict.issues_both, issues_plugins, issues_logging]

theorem nodup_paths_readAgent (nodup : (keys (pluginEntries fields)).Nodup) :
    (readAgent (.record fields)).paths.Nodup := by
  rw [readAgent, Verdict.paths_map]
  refine nodup_paths_both_field (by decide) (fun d hd => ?_) fun d _ => nodup_paths_readLogging d
  cases d with
  | record entries =>
    rw [pluginEntries, hd] at nodup
    exact nodup_paths_readEntries nodup
  | _ => exact (Simple.reject _).nodup_paths

theorem entryIssues_eq_nil_iff :
    entryIssues entries = [] ↔ ∀ e ∈ entries, ∃ p, readPlugin e.2 = .ok p := by
  rw [entryIssues, List.flatMap_eq_nil_iff]
  refine forall₂_congr fun e _ => ?_
  rw [List.map_eq_nil_iff, (reasoned_readPlugin e.2).exists_ok_iff]

theorem plugins_accepted_iff :
    tableIssues fields = [] ∧ entryIssues (pluginEntries fields) = [] ↔
      ∀ d, Entries.get? "plugins" fields = some d → ∃ entries, d = .record entries ∧
        ∀ e ∈ entries, ∃ p, readPlugin e.2 = .ok p := by
  rw [tableIssues, pluginEntries]
  cases Entries.get? "plugins" fields with
  | none => simp [entryIssues]
  | some d => cases d <;> simp [entryIssues_eq_nil_iff]

theorem logging_accepted_iff : loggingIssues fields = [] ↔
    ∀ d, Entries.get? "logging" fields = some d → ∃ l, readLogging d = .ok l := by
  rw [loggingIssues]
  cases Entries.get? "logging" fields with
  | none => simp
  | some d => simp [(reasoned_readLogging d).exists_ok_iff]

theorem readAgent_accepts_iff : (∃ a, readAgent (.record fields) = .ok a) ↔
    (∀ d, Entries.get? "plugins" fields = some d → ∃ entries, d = .record entries ∧
      ∀ e ∈ entries, ∃ p, readPlugin e.2 = .ok p) ∧
    ∀ d, Entries.get? "logging" fields = some d → ∃ l, readLogging d = .ok l := by
  rw [(reasoned_readAgent _).exists_ok_iff, issues_readAgent, List.append_eq_nil_iff,
    List.append_eq_nil_iff, plugins_accepted_iff, logging_accepted_iff]

theorem forall₂_of_plugins {ps : List (String × PluginSettings)}
    (h : field "plugins" [] readPlugins fields = .ok ps) :
    List.Forall₂ (fun e p => p.1 = e.1 ∧ readPlugin e.2 = .ok p.2) (pluginEntries fields) ps := by
  rw [pluginEntries]
  cases hget : Entries.get? "plugins" fields with
  | none =>
    rw [field, hget] at h
    cases h
    exact .nil
  | some d =>
    rw [field_eq_ok_iff hget] at h
    cases d with
    | record entries => exact readEntries_eq_ok_iff.mp h
    | _ => cases h

/-- Data is read as the settings of an agent if and only if its plugins and its logging are, each by
itself, and the result is made of theirs. Otherwise all issues are reported: those of each plugin
under its name, in the order of the names, and then those of the logging; or, where something else
stands in the place of all plugins, that in the place of theirs. No place is reported on twice. -/
theorem agent_read_by_parts (fields : List (String × Datum)) :
    ((∃ a, readAgent (.record fields) = .ok a) ↔
      (∀ d, Entries.get? "plugins" fields = some d → ∃ entries, d = .record entries ∧
        ∀ e ∈ entries, ∃ p, readPlugin e.2 = .ok p) ∧
      ∀ d, Entries.get? "logging" fields = some d → ∃ l, readLogging d = .ok l) ∧
    (∀ a, readAgent (.record fields) = .ok a →
      List.Forall₂ (fun e p => p.1 = e.1 ∧ readPlugin e.2 = .ok p.2) (pluginEntries fields)
        a.plugins ∧
      (Entries.get? "logging" fields = none → a.logging = {}) ∧
      ∀ d, Entries.get? "logging" fields = some d → readLogging d = .ok a.logging) ∧
    ∀ is, readAgent (.record fields) = .error is →
      is = tableIssues fields ++ entryIssues (pluginEntries fields) ++ loggingIssues fields ∧
      is ≠ [] ∧ ((keys (pluginEntries fields)).Nodup → (is.map (·.path)).Nodup) := by
  refine ⟨readAgent_accepts_iff, fun a h => ?_, fun is h => ?_⟩
  · obtain ⟨hplugins, hlogging⟩ := readAgent_eq_ok_iff.mp h
    refine ⟨forall₂_of_plugins hplugins, fun hnone => ?_, fun d hd => ?_⟩
    · rw [field, hnone] at hlogging
      exact (Except.ok.inj hlogging).symm
    · exact (field_eq_ok_iff hd).mp hlogging
  · have hissues := issues_readAgent fields
    have hpaths : (readAgent (.record fields)).paths = is.map (·.path) := by
      rw [h]
      rfl
    rw [h] at hissues
    refine ⟨hissues, fun hnil => ?_, fun nodup => hpaths ▸ nodup_paths_readAgent nodup⟩
    obtain ⟨a, ha⟩ := reasoned_readAgent (.record fields) (by rw [h]; exact hnil)
    rw [h] at ha
    cases ha

/-- One plugin with two issues, one with none, one that is no record; and a level that is none. -/
def spoiltFields : List (String × Datum) :=
  [("plugins", .record
      [("coffee", .record [("enabled", .text "maybe"), ("config", .null)]),
        ("tea", .record [("enabled", .text "off")]), ("milk", .int 3)]),
    ("logging", .record [("level", .text "loud")])]

theorem agent_read_by_parts_spoilt :
    let is : List Issue :=
      [⟨["plugins", "coffee", "enabled"], .unclearFlag⟩,
        ⟨["plugins", "coffee", "config"], .notRecord⟩, ⟨["plugins", "milk"], .notModel .plugin⟩,
        ⟨["logging", "level"], .notLevel "loud"⟩]
    readAgent (.record spoiltFields) = .error is ∧
      is = tableIssues spoiltFields ++ entryIssues (pluginEntries spoiltFields) ++
        loggingIssues spoiltFields ∧
      (is.map (·.path)).Nodup := by
  intro is
  have hissues : (readAgent (.record spoiltFields)).issues = is := by decide +kernel
  cases h : readAgent (.record spoiltFields) with
  | ok a =>
    rw [h] at hissues
    exact absurd hissues.symm (List.cons_ne_nil _ _)
  | error js =>
    rw [h] at hissues
    obtain rfl : js = is := hissues
    obtain ⟨hparts, -, hnodup⟩ := (agent_read_by_parts spoiltFields).2.2 _ h
    exact ⟨rfl, hparts, hnodup (by decide)⟩

/-- A number in the place of all plugins is reported, although it has no entries. -/
theorem number_for_plugins_is_reported :
    let fields : List (String × Datum) := [("plugins", .int 5)]
    readAgent (.record fields) = .error [⟨["plugins"], .notRecord⟩] ∧
      ¬ ∀ is, readAgent (.record fields) = .error is →
        is = entryIssues (pluginEntries fields) ++ loggingIssues fields := by
  intro fields
  have hread : readAgent (.record fields) = .error [⟨["plugins"], .notRecord⟩] := rfl
  refine ⟨hread, fun h => ?_⟩
  cases h _ hread

end Preflight.Settings
