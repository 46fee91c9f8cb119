import Mathlib.Logic.Basic
import Preflight.Settings.Reading

/-! What it takes for data to be read as settings, field by field; and that a level that was read is
one of those that settings may name. -/
namespace Preflight.Settings

theorem orFault_eq_ok_iff {α : Type} {model : Model} {x : Verdict α} {a : α} :
    x.orFault model = .ok a ↔ x = .ok a := by
  cases x <;> simp [Verdict.orFault]

theorem map_both_eq_ok_iff {α β γ : Type} {x : Verdict α} {y : Verdict β} {f : α × β → γ} {c : γ} :
    (x.both y).map f = .ok c ↔ ∃ a b, x = .ok a ∧ y = .ok b ∧ f (a, b) = c := by
  cases x <;> cases y <;> simp [Verdict.both, Except.map]

theorem field_eq_ok_iff {α : Type} {key : String} {default a : α} {read : Datum → Verdict α}
    {fields : List (String × Datum)} {d : Datum} (h : Entries.get? key fields = some d) :
    field key default read fields = .ok a ↔ read d = .ok a := by
  rw [field, h]
  cases hread : read d <;> simp [Verdict.under, hread]

theorem readLogging_eq_ok_iff {fields : List (String × Datum)} {l : LoggingSettings} :
    readLogging (.record fields) = .ok l ↔
      field "level" "INFO" readLevel fields = .ok l.level ∧
        field "json_output" false readFlag fields = .ok l.json := by
  rw [readLogging, map_both_eq_ok_iff]
  constructor
  · rintro ⟨level, json, hlevel, hjson, rfl⟩
    exact ⟨hlevel, hjson⟩
  · rintro ⟨hlevel, hjson⟩
    exact ⟨l.level, l.json, hlevel, hjson, rfl⟩

theorem readAgent_eq_ok_iff {fields : List (String × Datum)} {a : AgentSettings} :
    readAgent (.record fields) = .ok a ↔
      field "plugins" [] readPlugins fields = .ok a.plugins ∧
        field "logging" {} readLogging fields = .ok a.logging := by
  rw [readAgent, map_both_eq_ok_iff]
  constructor
  · rintro ⟨plugins, logging, hplugins, hlogging, rfl⟩
    exact ⟨hplugins, hlogging⟩
  · rintro ⟨hplugins, hlogging⟩
    exact ⟨a.plugins, a.logging, hplugins, hlogging, rfl⟩

theorem eq_or_exists_of_field {α : Type} {key : String} {default a : α} {read : Datum → Verdict α}
    {fields : List (String × Datum)} (h : field key default read fields = .ok a) :
    a = default ∨ ∃ d, read d = .ok a := by
  cases hget : Entries.get? key fields with
  | none =>
    rw [field, hget] at h
    cases h
    exact Or.inl rfl
  | some d => exact Or.inr ⟨d, (field_eq_ok_iff hget).mp h⟩

theorem level_mem_of_readLevel {d : Datum} {level : String} (h : readLevel d = .ok level) :
    level ∈ levelNames := by
  unfold readLevel at h
  split at h
  next =>
    split at h
    next hlevel =>
      cases h
      exact List.contains_iff_mem.mp hlevel
    next => cases h
  next => cases h

theorem level_mem_of_readLogging {d : Datum} {l : LoggingSettings} (h : readLogging d = .ok l) :
    l.level ∈ levelNames := by
  cases d with
  | record fields =>
    rcases eq_or_exists_of_field (readLogging_eq_ok_iff.mp h).1 with hlevel | ⟨d, hlevel⟩
    · rw [hlevel]
      decide
    · exact level_mem_of_readLevel hlevel
  | _ => cases h

theorem level_mem_of_readAgent {d : Datum} {a : AgentSettings} (h : readAgent d = .ok a) :
    a.logging.level ∈ levelNames := by
  cases d with
  | record fields =>
    rcases eq_or_exists_of_field (readAgent_eq_ok_iff.mp h).2 with hlogging | ⟨d, hlogging⟩
    · rw [hlogging]
      decide
    · exact level_mem_of_readLogging hlogging
  | _ => cases h

end Preflight.Settings
