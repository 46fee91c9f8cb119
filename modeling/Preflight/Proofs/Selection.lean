import Mathlib.Data.String.Basic
import Preflight.Proofs.Expectation.Met
import Preflight.Selection

/-! Which plugins settings choose. Each enabled entry of the settings is given the last available
plugin of its name; the first one that has none is reported, with the names that there are. Where an
available plugin stands counts among those of its own name alone. -/
namespace Preflight.Selection
open Settings (AgentSettings PluginSettings)

variable {κ : Type} {name : κ → String} {available available' : List κ} {wanted : String} {k : κ}

/-! ## The last of a name -/

theorem lastNamed?_eq_some_iff : lastNamed? name wanted available = some k ↔
    name k = wanted ∧ ∃ before after, available = before ++ k :: after ∧
      ∀ x ∈ after, name x ≠ wanted := by
  rw [lastNamed?, List.find?_eq_some_iff_append, beq_iff_eq]
  refine and_congr_right fun _ => ?_
  constructor
  · rintro ⟨after, before, hlist, hafter⟩
    refine ⟨before.reverse, after.reverse, ?_, fun x hx => ?_⟩
    · rw [← List.reverse_reverse available, hlist]
      simp
    · simpa using hafter x (List.mem_reverse.mp hx)
  · rintro ⟨before, after, rfl, hafter⟩
    exact ⟨after.reverse, before.reverse, by simp, fun x hx => by
      simpa using hafter x (List.mem_reverse.mp hx)⟩

theorem lastNamed?_eq_none_iff :
    lastNamed? name wanted available = none ↔ wanted ∉ available.map name := by
  simp [lastNamed?]

/-- Only the plugins of a name decide which is the last of it. -/
theorem lastNamed?_eq_getLast? :
    lastNamed? name wanted available = (available.filter (name · == wanted)).getLast? := by
  rw [lastNamed?, ← List.head?_filter, List.filter_reverse, List.head?_reverse]

/-- Those of each name stand in the same order. -/
def SameByName (name : κ → String) (available available' : List κ) : Prop :=
  ∀ n, available'.filter (name · == n) = available.filter (name · == n)

/-- Where no name comes twice, any order is the same. -/
theorem sameByName_of_perm (h : available'.Perm available) (distinct : (available.map name).Nodup) :
    SameByName name available available' := by
  intro n
  have halone : ∀ {xs : List κ}, (xs.map name).Nodup →
      (xs.filter (name · == n)).Pairwise fun _ _ => False := fun {xs} hxs => by
    refine ((List.pairwise_map.mp hxs).filter _).imp_of_mem fun ha hb hne => hne ?_
    rw [beq_iff_eq.mp (List.mem_filter.mp ha).2, beq_iff_eq.mp (List.mem_filter.mp hb).2]
  refine (h.filter _).eq_of_pairwise (fun _ _ _ _ h => h.elim) (halone ?_) (halone distinct)
  exact (h.map name).nodup_iff.mpr distinct

theorem SameByName.mem_map_iff (h : SameByName name available available') :
    wanted ∈ available'.map name ↔ wanted ∈ available.map name := by
  have hlast : lastNamed? name wanted available' = lastNamed? name wanted available := by
    rw [lastNamed?_eq_getLast?, lastNamed?_eq_getLast?, h wanted]
  rw [← not_iff_not, ← lastNamed?_eq_none_iff, ← lastNamed?_eq_none_iff, hlast]

/-! ## The names there are -/

theorem mem_offered : wanted ∈ offered name available ↔ wanted ∈ available.map name := by
  rw [offered, List.mem_mergeSort, List.mem_eraseDups]

theorem not_lt_iff_le {n m : String} : (!decide (m < n)) = true ↔ n ≤ m := by
  rw [Bool.not_eq_true', decide_eq_false_iff_not, not_lt]

theorem pairwise_lt_offered : (offered name available).Pairwise (· < ·) := by
  have hsorted : (offered name available).Pairwise (· ≤ ·) := by
    refine (List.pairwise_mergeSort (fun n m o hnm hmo => ?_) (fun n m => ?_) _).imp
      not_lt_iff_le.mp
    · exact not_lt_iff_le.mpr ((not_lt_iff_le.mp hnm).trans (not_lt_iff_le.mp hmo))
    · rw [Bool.or_eq_true, not_lt_iff_le, not_lt_iff_le]
      exact le_total n m
  have hnodup : (offered name available).Nodup :=
    (List.mergeSort_perm _ _).nodup_iff.mpr (nodup_eraseDups _)
  exact (hsorted.and hnodup).imp fun h => lt_of_le_of_ne h.1 h.2

theorem SameByName.offered_eq (h : SameByName name available available') :
    offered name available' = offered name available := by
  have hperm : (offered name available').Perm (offered name available) :=
    (List.perm_ext_iff_of_nodup (pairwise_lt_offered.imp ne_of_lt)
      (pairwise_lt_offered.imp ne_of_lt)).mpr fun n => by
        rw [mem_offered, mem_offered, h.mem_map_iff]
  exact hperm.eq_of_pairwise (fun _ _ _ _ hab hba => absurd hab hba.asymm) pairwise_lt_offered
    pairwise_lt_offered

/-! ## The choice -/

/-- The last available plugin of an entry's name, with the configuration that the entry gives. -/
structure Chosen (name : κ → String) (available : List κ) (entry : String × PluginSettings)
    (choice : κ × List (String × Datum)) : Prop where
  named : name choice.1 = entry.1
  last : ∃ before after, available = before ++ choice.1 :: after ∧ ∀ k ∈ after, name k ≠ entry.1
  config : choice.2 = entry.2.config

variable {entry : String × PluginSettings} {a : AgentSettings} {f : Fault}

theorem choose_eq_ok_iff {choice : κ × List (String × Datum)} :
    choose name available entry = .ok choice ↔ Chosen name available entry choice := by
  rw [choose]
  constructor
  · intro h
    split at h
    next hlast =>
      cases h
      obtain ⟨hname, hplace⟩ := lastNamed?_eq_some_iff.mp hlast
      exact ⟨hname, hplace, rfl⟩
    next => cases h
  · rintro ⟨hname, hplace, hconfig⟩
    rw [lastNamed?_eq_some_iff.mpr ⟨hname, hplace⟩, ← hconfig]

theorem choose_eq_error_iff : choose name available entry = .error f ↔
    entry.1 ∉ available.map name ∧ f = .unknownPlugin entry.1 (offered name available) := by
  rw [← lastNamed?_eq_none_iff, choose]
  cases lastNamed? name entry.1 available <;> simp [eq_comm]

theorem exists_choose_iff :
    (∃ choice, choose name available entry = .ok choice) ↔ entry.1 ∈ available.map name := by
  cases h : choose name available entry with
  | ok choice =>
    have hmem : entry.1 ∈ available.map name :=
      (choose_eq_ok_iff.mp h).named ▸ List.mem_map_of_mem (by
        obtain ⟨before, after, hlist, -⟩ := (choose_eq_ok_iff.mp h).last
        rw [hlist]
        exact List.mem_append_right _ List.mem_cons_self)
    simpa using hmem
  | error f => simpa using (choose_eq_error_iff.mp h).1

theorem select_eq_ok_iff {choices : List (κ × List (String × Datum))} :
    select name available a = .ok choices ↔
      List.Forall₂ (Chosen name available) (a.plugins.filter (·.2.enabled)) choices := by
  rw [select, mapM_eq_ok_iff]
  simp only [choose_eq_ok_iff]

/-- The first enabled name without a plugin is reported. -/
theorem exists_of_select_eq_error (h : select name available a = .error f) :
    ∃ before n after, a.enabledPlugins = before ++ n :: after ∧
      (∀ m ∈ before, m ∈ available.map name) ∧ n ∉ available.map name ∧
        f = .unknownPlugin n (offered name available) := by
  obtain ⟨before, entry, after, hlist, hbefore, herror⟩ := exists_of_mapM_eq_error h
  obtain ⟨hout, hf⟩ := choose_eq_error_iff.mp herror
  refine ⟨before.map (·.1), entry.1, after.map (·.1), ?_, ?_, hout, hf⟩
  · rw [AgentSettings.enabledPlugins, hlist, List.map_append, List.map_cons]
  · exact List.forall_mem_map.mpr fun e he => exists_choose_iff.mp (hbefore e he)

theorem names_of_chosen {entries : List (String × PluginSettings)}
    {choices : List (κ × List (String × Datum))}
    (h : List.Forall₂ (Chosen name available) entries choices) :
    choices.map (name ·.1) = entries.map (·.1) := by
  induction h with
  | nil => rfl
  | cons hfirst _ ih => rw [List.map_cons, List.map_cons, hfirst.named, ih]

theorem exists_select_iff : (∃ choices, select name available a = .ok choices) ↔
    ∀ n ∈ a.enabledPlugins, n ∈ available.map name := by
  rw [select, exists_mapM_iff, AgentSettings.enabledPlugins, List.forall_mem_map]
  simp only [exists_choose_iff]

theorem SameByName.choose_eq (h : SameByName name available available') :
    choose name available' = choose name available := by
  funext entry
  rw [choose, choose, lastNamed?_eq_getLast?, lastNamed?_eq_getLast?, h entry.1, h.offered_eq]

/-- Neither disabled entries count nor the order among plugins of different names. -/
theorem select_congr {a' : AgentSettings}
    (hentries : a'.plugins.filter (·.2.enabled) = a.plugins.filter (·.2.enabled))
    (h : SameByName name available available') :
    select name available' a' = select name available a := by
  rw [select, select, hentries, h.choose_eq]

end Preflight.Selection
