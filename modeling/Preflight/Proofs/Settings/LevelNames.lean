import Preflight.Proofs.Log.Routing
import Preflight.Proofs.Scenario.Chosen
import Preflight.Proofs.Settings.Reading

/-! The names of levels, as settings read them and as logging is configured by them. Both change a
text to upper case and look it up in a table of their own; every name of the first table is in the
second one, which has three more. -/
namespace Preflight.Settings
open Log (Routing rankOf? levelRanks)

variable {level name : String}

/-- A logging section that gives a level and nothing else. -/
def levelSection (level : String) : Datum := .record [("level", .text level)]

/-- Names of levels that can be configured, although no settings may name them. -/
def unlistedLevels : List String := ["WARN", "FATAL", "NOTSET"]

theorem upper_of_mem_levelNames : ∀ n ∈ levelNames, Text.upper n = n := by decide +kernel

theorem mem_keys_levelRanks {n : String} :
    n ∈ Entries.keys levelRanks ↔ n ∈ levelNames ∨ n ∈ unlistedLevels := by
  simp only [Entries.keys, levelRanks, levelNames, unlistedLevels, List.map_cons, List.map_nil,
    List.mem_cons, List.not_mem_nil, or_false]
  tauto

theorem not_mem_levelNames_of_unlisted : ∀ n ∈ unlistedLevels, n ∉ levelNames := by decide

/-! ## Reading -/

theorem readLevel_text_eq_ok_iff :
    readLevel (.text level) = .ok name ↔
      Text.upper level ∈ levelNames ∧ Text.upper level = name := by
  by_cases h : Text.upper level ∈ levelNames
  · simp [readLevel, h]
  · simp [readLevel, h, Verdict.reject]

theorem readLogging_levelSection_eq_ok_iff {l : LoggingSettings} :
    readLogging (levelSection level) = .ok l ↔
      Text.upper level ∈ levelNames ∧ l = { level := Text.upper level } := by
  have hlevel : Entries.get? "level" [("level", Datum.text level)] = some (.text level) := rfl
  have hjson : field "json_output" false readFlag [("level", Datum.text level)] = .ok false := rfl
  rw [levelSection, readLogging_eq_ok_iff, field_eq_ok_iff hlevel, readLevel_text_eq_ok_iff, hjson]
  constructor
  · rintro ⟨⟨hmem, hname⟩, hflag⟩
    obtain ⟨name, json⟩ := l
    cases hname
    cases hflag
    exact ⟨hmem, rfl⟩
  · rintro ⟨hmem, rfl⟩
    exact ⟨⟨hmem, rfl⟩, rfl⟩

theorem exists_readLogging_error_iff :
    (∃ is, readLogging (levelSection level) = .error is) ↔ Text.upper level ∉ levelNames := by
  cases h : readLogging (levelSection level) with
  | ok l => simp [(readLogging_levelSection_eq_ok_iff.mp h).1]
  | error is =>
    have hnot : Text.upper level ∉ levelNames := fun hmem => by
      rw [readLogging_levelSection_eq_ok_iff.mpr ⟨hmem, rfl⟩] at h
      cases h
    simp [hnot]

/-! ## Configuring -/

theorem exists_configure_iff (r : Routing) (level : String) (json : Bool) :
    (∃ t, r.configure ⟨level, json⟩ = .ok t) ↔ Text.upper level ∈ Entries.keys levelRanks := by
  rw [Routing.configure]
  cases h : rankOf? level with
  | none => simp [Log.rankOf?_eq_none_iff.mp h]
  | some rank =>
    have hknown : Text.upper level ∈ Entries.keys levelRanks := by
      by_contra hnot
      rw [Log.rankOf?_eq_none_iff.mpr hnot] at h
      cases h
    simp [hknown]

/-- A name in upper case has the rank of every text that is the name but for its case. -/
theorem rankOf?_upper (h : Text.upper (Text.upper level) = Text.upper level) :
    rankOf? (Text.upper level) = rankOf? level := by
  rw [rankOf?, h, rankOf?]

theorem exists_configure_upper (h : Text.upper level ∈ levelNames) (r : Routing) (json : Bool) :
    ∃ t, r.configure ⟨level, json⟩ = .ok t ∧ r.configure ⟨Text.upper level, json⟩ = .ok t := by
  obtain ⟨t, ht⟩ := (exists_configure_iff r level json).mpr (mem_keys_levelRanks.mpr (.inl h))
  refine ⟨t, ht, ?_⟩
  rw [Routing.configure] at ht ⊢
  rw [rankOf?_upper (upper_of_mem_levelNames _ h)]
  -- Where the rank is known, the spelling of the level is not looked at any more.
  cases hrank : rankOf? level with
  | none => rw [hrank] at ht; cases ht
  | some rank => rwa [hrank] at ht

/-- Making a builder from settings can fail in other ways. -/
theorem builderFromSettings_ne_unknownLevel (id : String) (d : Datum)
    (available : List Scenario.PluginScript) (w : Scenario.World) (text : String) :
    (outcome (Scenario.builderFromSettings id d available) w).1 ≠ .error (.unknownLevel text) := by
  intro h
  cases hread : readAgent d with
  | error is =>
    have hfault : (readAgent d).orFault .agent = .error (.invalidSettings .agent is) := by
      rw [hread]
      rfl
    rw [Scenario.builderFromSettings, hfault, outcome_bind_of_error rfl] at h
    cases h
  | ok a =>
    rcases Scenario.builderFromSettings_cases id w available hread with
      ⟨chosen, t, -, hr⟩ | ⟨f, t, hselect, hr⟩
    · rw [hr] at h
      cases h
    · rw [hr] at h
      cases h
      obtain ⟨-, n, -, -, -, -, hf⟩ := Selection.exists_of_select_eq_error hselect
      cases hf

/-- A level that settings accept is kept as one of five names, which they accept again and leave as
it is; and it configures logging, as it was given and as it is kept, to the same effect. So settings
that were read never name a level that is not known. What can be configured and is not accepted is,
in upper case, one of three names. -/
theorem levels_agree :
    (∀ level l, readLogging (levelSection level) = .ok l →
      l.level = Text.upper level ∧
      l.level ∈ ["CRITICAL", "DEBUG", "ERROR", "INFO", "WARNING"] ∧
      readLogging (levelSection l.level) = .ok l ∧
      ∀ (r : Routing) (json : Bool), ∃ t, r.configure ⟨level, json⟩ = .ok t ∧
        r.configure ⟨l.level, json⟩ = .ok t) ∧
    (∀ d a, readAgent d = .ok a → ∀ r : Routing, ∃ t, r.configure a.logging = .ok t) ∧
    (∀ id d available w text,
      (outcome (Scenario.builderFromSettings id d available) w).1 ≠ .error (.unknownLevel text)) ∧
    ∀ (level : String) (r : Routing) (json : Bool),
      (∃ t, r.configure ⟨level, json⟩ = .ok t) ∧
          (∃ is, readLogging (levelSection level) = .error is) ↔
        Text.upper level ∈ ["WARN", "FATAL", "NOTSET"] := by
  refine ⟨fun level l hread => ?_, fun d a hread => Scenario.exists_configure hread,
    builderFromSettings_ne_unknownLevel, fun level r json => ?_⟩
  · obtain ⟨hmem, rfl⟩ := readLogging_levelSection_eq_ok_iff.mp hread
    have hupper := upper_of_mem_levelNames _ hmem
    refine ⟨rfl, hmem, ?_, exists_configure_upper hmem⟩
    refine readLogging_levelSection_eq_ok_iff.mpr ⟨?_, ?_⟩
    · rwa [hupper]
    · rw [hupper]
  · rw [exists_configure_iff, exists_readLogging_error_iff, mem_keys_levelRanks]
    refine ⟨fun ⟨hknown, hnot⟩ => hknown.resolve_left hnot, fun hmem => ⟨.inr hmem, ?_⟩⟩
    exact not_mem_levelNames_of_unlisted _ hmem

/-- A dotless i has the capital of the plain one. -/
theorem levels_agree_of_dotless :
    readLogging (levelSection "ınfo") = .ok { level := "INFO" } ∧
      ∃ t, ({} : Routing).configure ⟨"ınfo", true⟩ = .ok t ∧
        ({} : Routing).configure ⟨"INFO", true⟩ = .ok t := by
  have hread : readLogging (levelSection "ınfo") = .ok { level := "INFO" } :=
    readLogging_levelSection_eq_ok_iff.mpr (by decide +kernel)
  obtain ⟨-, -, -, hconfigure⟩ := levels_agree.1 "ınfo" _ hread
  exact ⟨hread, hconfigure {} true⟩

end Preflight.Settings
