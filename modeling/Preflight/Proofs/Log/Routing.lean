import Preflight.Proofs.Entries
import Preflight.Proofs.Log.Lineage
import Preflight.Proofs.Outcomes

/-! Histories of a logging state. It is configured again and again, and in between events are
logged. Whatever came before, the state is that of the last configuration that succeeded; from it
each logger has one of two levels, by whether it stands under one of the quiet loggers. -/
namespace Preflight.Log
open Settings (LoggingSettings)

/-- What is done with a logging state. -/
inductive Use where
  | configure (settings : LoggingSettings)
  | structured (logger : String) (c : Call)
  | plain (logger : String) (method : Method) (message : Datum) (args : List Datum)

namespace Use

/-- A use answers with the lines it prints. -/
def act : Use → EStateM Fault Routing (List String)
  | configure settings => do
    set (← ofExcept ((← get).configure settings))
    return []
  | structured logger c => do ofExcept ((← get).logStructured logger c)
  | plain logger method message args => return (← get).logPlain logger method message args

def settings? : Use → Option LoggingSettings
  | configure settings => some settings
  | _ => none

end Use

/-- The settings that were put to use, in order. -/
def configurations (log : List (Use × Except Fault (List String))) : List LoggingSettings :=
  (granted log).filterMap (·.1.settings?)

def styleOf (settings : LoggingSettings) : Style := if settings.json then .json else .columns

/-- The routing that a configuration sets up, from any other one. -/
def Routing.at (rank : Nat) (style : Style) : Routing where
  root := rank
  handlers := [style]
  levels := quietLoggers.map (·, max rank warningRank)

/-! ## Configuring -/

variable {log : List (Use × Except Fault (List String))} {r : Routing} {settings : LoggingSettings}
  {rank n : Nat} {style : Style} {logger : String}

theorem put_quietLoggers (m n : Nat) :
    quietLoggers.foldl (fun ls name => Entries.put name m ls) (quietLoggers.map (·, n)) =
      quietLoggers.map (·, m) := by
  simp [quietLoggers, Entries.put]

theorem configure_of_known (hlevels : r.levels = quietLoggers.map (·, n))
    (hrank : rankOf? settings.level = some rank) :
    r.configure settings = .ok (.at rank (styleOf settings)) := by
  simp only [Routing.configure, hrank, hlevels, put_quietLoggers]
  rfl

theorem configure_of_unknown (hrank : rankOf? settings.level = none) :
    r.configure settings = .error (.unknownLevel settings.level) := by
  simp only [Routing.configure, hrank]

theorem rankOf?_eq_none_iff {level : String} :
    rankOf? level = none ↔ Text.upper level ∉ Entries.keys levelRanks := Entries.get?_eq_none_iff

theorem act_configure_of_known (hlevels : r.levels = quietLoggers.map (·, n))
    (hrank : rankOf? settings.level = some rank) :
    (Use.configure settings).act r = .ok [] (.at rank (styleOf settings)) := by
  have hget : (get : EStateM Fault Routing Routing) r = .ok r r := rfl
  rw [Use.act, bind_of_ok hget, configure_of_known hlevels hrank]
  rfl

theorem act_configure_of_unknown (hrank : rankOf? settings.level = none) :
    (Use.configure settings).act r = .error (.unknownLevel settings.level) r := by
  have hget : (get : EStateM Fault Routing Routing) r = .ok r r := rfl
  rw [Use.act, bind_of_ok hget, configure_of_unknown hrank]
  rfl

/-- Logging leaves the state alone, whether it succeeds or not. -/
theorem act_of_no_settings {use : Use} (h : use.settings? = none) :
    (outcome use.act r).2 = r := by
  cases use with
  | configure settings => cases h
  | structured logger c =>
    have hact : outcome (Use.structured logger c).act r =
        outcome (ofExcept (r.logStructured logger c) : EStateM Fault Routing _) r := rfl
    rw [hact]
    cases r.logStructured logger c <;> rfl
  | plain logger method message args => rfl

/-- The state is the fresh one or that of the last configuration. -/
inductive Settled (log : List (Use × Except Fault (List String))) (r : Routing) : Prop where
  | fresh (none : (configurations log).getLast? = none) (state : r = {})
  | configured {settings : LoggingSettings} {rank : Nat}
      (last : (configurations log).getLast? = some settings)
      (known : rankOf? settings.level = some rank) (state : r = .at rank (styleOf settings))

theorem Settled.exists_levels (h : Settled log r) : ∃ n, r.levels = quietLoggers.map (·, n) := by
  cases h with
  | fresh _ state => exact ⟨0, by rw [state]⟩
  | configured _ _ state => exact ⟨_, by rw [state]; rfl⟩

theorem configurations_append_of_none {use : Use} (h : use.settings? = none)
    (answer : Except Fault (List String)) :
    configurations (log ++ [(use, answer)]) = configurations log := by
  cases answer with
  | ok lines => simp [configurations, granted_append_ok, h]
  | error f => simp [configurations, granted_append_error]

theorem Settled.of_same {log' : List (Use × Except Fault (List String))} (h : Settled log r)
    (hsame : configurations log' = configurations log) : Settled log' r := by
  cases h with
  | fresh none state => exact .fresh (hsame ▸ none) state
  | configured last known state => exact .configured (hsame ▸ last) known state

/-- What one use preserves. -/
theorem Settled.after_act (h : Settled log r) (use : Use) :
    Settled (log ++ [(use, (outcome use.act r).1)]) (outcome use.act r).2 := by
  cases hsettings : use.settings? with
  | none =>
    rw [act_of_no_settings hsettings]
    exact h.of_same (configurations_append_of_none hsettings _)
  | some settings =>
    obtain rfl : use = .configure settings := by
      cases use with
      | configure settings' => exact congrArg Use.configure (Option.some.inj hsettings)
      | structured logger c => cases hsettings
      | plain logger method message args => cases hsettings
    cases hrank : rankOf? settings.level with
    | none =>
      rw [outcome_of_error (act_configure_of_unknown hrank)]
      exact h.of_same (by simp [configurations, granted_append_error])
    | some rank =>
      obtain ⟨n, hlevels⟩ := h.exists_levels
      rw [outcome_of_ok (act_configure_of_known hlevels hrank)]
      refine .configured ?_ hrank rfl
      simp [configurations, granted_append_ok, Use.settings?]

theorem settled_run (uses : List Use) :
    Settled (outcomes Use.act uses {}).1 (outcomes Use.act uses {}).2 :=
  outcomes_induction Settled (fun _ _ use h => h.after_act use) (.fresh rfl rfl) uses

theorem Settled.at_last (h : Settled log r)
    (hlast : (configurations log).getLast? = some settings) :
    ∃ rank, rankOf? settings.level = some rank ∧ r = .at rank (styleOf settings) := by
  cases h with
  | fresh none state =>
    rw [none] at hlast
    cases hlast
  | @configured settings' rank last known state =>
    obtain rfl : settings = settings' := Option.some.inj (hlast.symm.trans last)
    exact ⟨rank, known, state⟩

/-! ## Levels -/

theorem ownLevel_at (rank : Nat) (style : Style) (logger : String) :
    (Routing.at rank style).ownLevel logger =
      if logger ∈ quietLoggers then max rank warningRank else 0 := by
  by_cases hdynaconf : "dynaconf" = logger
  · simp [Routing.ownLevel, Routing.at, quietLoggers, Entries.get?, ← hdynaconf]
  · by_cases hpluggy : "pluggy" = logger
    · simp [Routing.ownLevel, Routing.at, quietLoggers, Entries.get?, ← hpluggy]
    · simp [Routing.ownLevel, Routing.at, quietLoggers, Entries.get?, hdynaconf, hpluggy,
        Ne.symm hdynaconf, Ne.symm hpluggy]

theorem ownLevel_at_of_mem {q : String} (hq : q ∈ quietLoggers) :
    (Routing.at rank style).ownLevel q = max rank warningRank := by
  rw [ownLevel_at, if_pos hq]

/-- The nearest name that has a level of its own decides, and only quiet loggers have one. -/
theorem levelOf_at_of_mem {q : String} (hq : q ∈ quietLoggers) (h : q ∈ lineage logger) :
    (Routing.at rank style).levelOf logger = max rank warningRank := by
  have hpos : max rank warningRank ≠ 0 := by simp [warningRank, Level.rank]
  rw [Routing.levelOf]
  cases hfind : ((lineage logger).map (Routing.at rank style).ownLevel).find? (· ≠ 0) with
  | none =>
    have hzero := List.find?_eq_none.mp hfind _ (List.mem_map_of_mem h)
    rw [ownLevel_at_of_mem hq] at hzero
    exact absurd (decide_eq_true hpos) hzero
  | some level =>
    obtain ⟨name, -, hname⟩ := List.mem_map.mp (List.mem_of_find?_eq_some hfind)
    have hlevel : level ≠ 0 := by simpa using List.find?_some hfind
    rw [ownLevel_at] at hname
    split at hname
    · exact hname.symm
    · exact absurd hname.symm hlevel

theorem levelOf_at_of_not_mem (h : ∀ q ∈ quietLoggers, q ∉ lineage logger) :
    (Routing.at rank style).levelOf logger = rank := by
  have hnone : ((lineage logger).map (Routing.at rank style).ownLevel).find? (· ≠ 0) = none := by
    refine List.find?_eq_none.mpr fun level hlevel => ?_
    obtain ⟨name, hname, rfl⟩ := List.mem_map.mp hlevel
    rw [ownLevel_at, if_neg fun hq => h name hq hname]
    simp
  rw [Routing.levelOf, hnone]
  rfl

theorem dot_not_mem_quietLoggers : ∀ q ∈ quietLoggers, '.' ∉ q.toList := by decide

/-- A quiet logger, and what is close beneath one, is kept at warnings. -/
theorem levelOf_at_of_quiet (h : ∃ q ∈ quietLoggers, logger = q ∨ CloseBeneath q logger) :
    (Routing.at rank style).levelOf logger = max rank warningRank := by
  obtain ⟨q, hq, hlogger⟩ := h
  exact levelOf_at_of_mem hq (mem_lineage (dot_not_mem_quietLoggers q hq) hlogger)

theorem levelOf_at_of_other (h : ∀ q ∈ quietLoggers, logger ≠ q ∧ ¬ Beneath q logger) :
    (Routing.at rank style).levelOf logger = rank := by
  refine levelOf_at_of_not_mem fun q hq hmem => ?_
  rcases eq_or_beneath_of_mem_lineage hmem with hlogger | hlogger
  · exact (h q hq).1 hlogger
  · exact (h q hq).2 hlogger

theorem levelOf_at_cases (rank : Nat) (style : Style) (logger : String) :
    (Routing.at rank style).levelOf logger = max rank warningRank ∨
      (Routing.at rank style).levelOf logger = rank := by
  by_cases h : ∃ q ∈ quietLoggers, q ∈ lineage logger
  · obtain ⟨q, hq, hmem⟩ := h
    exact .inl (levelOf_at_of_mem hq hmem)
  · exact .inr (levelOf_at_of_not_mem (by simpa using h))

theorem prints_iff {level : Level} :
    r.prints logger level = true ↔ r.levelOf logger ≤ level.rank := by
  rw [Routing.prints, decide_eq_true_iff]

/-- There is one handler. -/
theorem lines_at (rank : Nat) (style : Style) (logger : String) (e : Event) :
    (Routing.at rank style).lines logger e =
      if (Routing.at rank style).prints logger e.level then e.lines style else [] := by
  have hhandlers : (Routing.at rank style).handlers.flatMap e.lines = e.lines style := by
    simp [Routing.at]
  rw [Routing.lines, hhandlers]

/-- After any history with a configuration in it, the routing is that of the last one alone: its
style on the one handler, its level at the root, and warnings or above from the quiet loggers. A
level that is not known is refused and nothing changes. Of loggers whose name goes on with two dots
after a quiet one's, it is only said that one of the two levels counts. -/
theorem routing_of_last_configuration (uses : List Use) :
    let run := outcomes Use.act uses {}
    let r := run.2
    (∀ settings, (configurations run.1).getLast? = some settings → ∃ rank,
      rankOf? settings.level = some rank ∧ r = .at rank (styleOf settings) ∧
      (∀ q ∈ quietLoggers, r.ownLevel q = max rank warningRank) ∧
      (∀ logger e, r.lines logger e =
        if r.prints logger e.level then e.lines (styleOf settings) else []) ∧
      ∀ logger (level : Level),
        ((∃ q ∈ quietLoggers, logger = q ∨ CloseBeneath q logger) →
          (r.prints logger level = true ↔ max rank warningRank ≤ level.rank)) ∧
        ((∀ q ∈ quietLoggers, logger ≠ q ∧ ¬ Beneath q logger) →
          (r.prints logger level = true ↔ rank ≤ level.rank)) ∧
        ((r.prints logger level = true ↔ max rank warningRank ≤ level.rank) ∨
          (r.prints logger level = true ↔ rank ≤ level.rank))) ∧
    ∀ settings : LoggingSettings,
      (Text.upper settings.level ∉ Entries.keys levelRanks → ∃ f,
        (Use.configure settings).act r = .error f r ∧ f.kind = "ValueError" ∧
          f.message = "Unknown log level: " ++ Text.quote settings.level) ∧
      (Text.upper settings.level ∈ Entries.keys levelRanks → ∃ rank,
        (Use.configure settings).act r = .ok [] (.at rank (styleOf settings))) := by
  intro run r
  have hsettled : Settled run.1 r := settled_run uses
  refine ⟨fun settings hlast => ?_, fun settings => ⟨fun hlevel => ?_, fun hlevel => ?_⟩⟩
  · obtain ⟨rank, known, state⟩ := hsettled.at_last hlast
    refine ⟨rank, known, state, ?_⟩
    rw [state]
    refine ⟨fun q hq => ownLevel_at_of_mem hq, lines_at rank _, fun logger level => ?_⟩
    simp only [prints_iff]
    refine ⟨fun h => by rw [levelOf_at_of_quiet h], fun h => by rw [levelOf_at_of_other h], ?_⟩
    rcases levelOf_at_cases rank (styleOf settings) logger with h | h
    · exact .inl (by rw [h])
    · exact .inr (by rw [h])
  · have hrank := rankOf?_eq_none_iff.mpr hlevel
    exact ⟨_, act_configure_of_unknown hrank, rfl, rfl⟩
  · obtain ⟨n, hlevels⟩ := hsettled.exists_levels
    cases hrank : rankOf? settings.level with
    | none => exact absurd hlevel (rankOf?_eq_none_iff.mp hrank)
    | some rank => exact ⟨rank, act_configure_of_known hlevels hrank⟩

/-- The second of two dots hides the name in front of the first, so that the logger is not kept
quiet. -/
theorem two_dots_escape_quiet :
    let r := (outcomes Use.act [.configure {}] {}).2
    (configurations (outcomes Use.act [.configure {}] {}).1).getLast? = some {} ∧
      rankOf? ({} : LoggingSettings).level = some Level.info.rank ∧
      Beneath "dynaconf" "dynaconf..loaders" ∧
      r.prints "dynaconf..loaders" .info = true ∧
      ¬ max Level.info.rank warningRank ≤ Level.info.rank := by
  refine ⟨rfl, rfl, ⟨".loaders", rfl⟩, by decide, by decide⟩

end Preflight.Log
