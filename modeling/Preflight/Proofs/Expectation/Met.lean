import Mathlib.Data.Prod.Lex
import Mathlib.Data.String.Basic
import Preflight.Expectation.Check
import Preflight.Proofs.Enrolment
import Preflight.Proofs.Rows

/-! What it takes to pass the checks. The algorithms look up, scan and compare sorted lists; what
they decide is whether names are among those loaded, whether metrics are among those registered,
and whether two sets of names are the same. -/
namespace Preflight

namespace ElementName

theorem le_iff {a b : ElementName} :
    le a b = true ↔ toLex (a.plugin, a.label) ≤ toLex (b.plugin, b.label) := by
  rw [← not_lt, Prod.Lex.toLex_lt_toLex, le, Bool.not_eq_true', ← Bool.not_eq_true, lt,
    Bool.or_eq_true, Bool.and_eq_true, decide_eq_true_eq, decide_eq_true_eq, beq_iff_eq]

theorem le_transitive {a b c : ElementName} (hab : le a b = true) (hbc : le b c = true) :
    le a c = true := le_iff.mpr ((le_iff.mp hab).trans (le_iff.mp hbc))

theorem le_connected (a b : ElementName) : (le a b || le b a) = true := by
  rw [Bool.or_eq_true, le_iff, le_iff]
  exact le_total _ _

theorem eq_of_le_of_le {a b : ElementName} (hab : le a b = true) (hba : le b a = true) :
    a = b := by
  have hkey := le_antisymm (le_iff.mp hab) (le_iff.mp hba)
  cases a
  cases b
  simpa using hkey

theorem pairwise_sort (xs : List ElementName) : (sort xs).Pairwise fun a b => le a b = true := by
  rw [sort]
  exact @List.pairwise_mergeSort _ le (fun _ _ _ => le_transitive) le_connected xs

theorem sort_perm (xs : List ElementName) : (sort xs).Perm xs := List.mergeSort_perm xs le

theorem sort_eq_sort_iff {xs ys : List ElementName} : sort xs = sort ys ↔ xs.Perm ys := by
  constructor
  · intro h
    have hperm := sort_perm xs
    rw [h] at hperm
    exact hperm.symm.trans (sort_perm ys)
  · intro h
    have hperm : (sort xs).Perm (sort ys) := (sort_perm xs).trans (h.trans (sort_perm ys).symm)
    exact hperm.eq_of_pairwise (fun _ _ _ _ => eq_of_le_of_le) (pairwise_sort xs) (pairwise_sort ys)

end ElementName

theorem nodup_eraseDups {α : Type} [DecidableEq α] (xs : List α) : xs.eraseDups.Nodup := by
  induction hn : xs.length using Nat.strong_induction_on generalizing xs with
  | h n ih =>
    cases xs with
    | nil => exact List.nodup_nil
    | cons x rest =>
      have hlt : (rest.filter fun y => !y == x).length < n := by
        rw [← hn, List.length_cons]
        exact Nat.lt_succ_of_le (List.length_filter_le _ rest)
      rw [List.eraseDups_cons, List.nodup_cons]
      exact ⟨by simp [List.mem_eraseDups], ih _ hlt _ rfl⟩

namespace Expectations

/-- What a set asks of an agent by a checkpoint: plugins, among those loaded; metrics, among those
registered; and of each kind exactly the elements that are registered, the harness's own aside. -/
def MetAt (e : Expectations) (loaded : List String) (registered : Host) : Checkpoint → Prop
  | .pluginsLoaded => ∀ name ∈ e.plugins, name ∈ loaded
  | .pluginsStarted => ∀ m ∈ e.metrics, ∃ found ∈ registered.metrics.metrics,
      found.name = m.name ∧ found.unit = m.unit ∧ found.measurement = m.measurement
  | .operationBegins => ∀ kind n, n ∈ e.elements.names kind ↔
      n ∈ registered.pipeline.names kind ∧ ¬ (kind = .source ∧ n = .harness)

/-- What the check of a checkpoint comes to. -/
def verdict (e : Expectations) (loaded : List String) (registered : Host) :
    Checkpoint → Except Violation Unit
  | .pluginsLoaded => e.checkPlugins loaded
  | .pluginsStarted => e.checkMetrics registered.metrics.lookup
  | .operationBegins => e.checkElements registered.pipeline

/-- All sets are checked at one checkpoint before any is checked at the next. -/
def verdicts (sets : List Expectations) (loaded : List String) (registered : Host) :
    Except Violation Unit :=
  Checkpoint.all.forM fun c => sets.forM fun e => e.verdict loaded registered c

theorem verdicts_eq (sets : List Expectations) (loaded : List String) (registered : Host) :
    verdicts sets loaded registered =
      (sets.forM (·.checkPlugins loaded) >>= fun _ =>
        sets.forM (·.checkMetrics registered.metrics.lookup) >>= fun _ =>
          sets.forM (·.checkElements registered.pipeline)) := by
  have hlast : (sets.forM (·.checkElements registered.pipeline) >>= fun _ => .ok ()) =
      sets.forM (·.checkElements registered.pipeline) := bind_pure_unit
  rw [← hlast]
  rfl

theorem checkPlugins_eq_ok_iff {e : Expectations} {loaded : List String} :
    e.checkPlugins loaded = .ok () ↔ ∀ name ∈ e.plugins, name ∈ loaded := by
  rw [checkPlugins, forM_eq_ok_iff]
  refine forall₂_congr fun name _ => ?_
  by_cases hname : name ∈ loaded <;> simp [checkPlugin, hname]

theorem checkMetric_eq_ok_iff {lookup : String → Option Metric} {m : ExpectedMetric} :
    checkMetric lookup m = .ok () ↔ ∃ found, lookup m.name = some found ∧
      found.name = m.name ∧ found.unit = m.unit ∧ found.measurement = m.measurement := by
  unfold checkMetric
  cases lookup m.name with
  | none => simp
  | some found =>
    by_cases hname : found.name = m.name <;> by_cases hunit : found.unit = m.unit <;>
      by_cases hmeasurement : found.measurement = m.measurement <;>
      simp [hname, hunit, hmeasurement]

theorem checkMetrics_eq_ok_iff {e : Expectations} {r : Registry} (hr : r.Consistent) :
    e.checkMetrics r.lookup = .ok () ↔ ∀ m ∈ e.metrics, ∃ found ∈ r.metrics,
      found.name = m.name ∧ found.unit = m.unit ∧ found.measurement = m.measurement := by
  rw [checkMetrics, forM_eq_ok_iff]
  refine forall₂_congr fun m _ => ?_
  rw [checkMetric_eq_ok_iff]
  refine exists_congr fun found => ?_
  rw [hr.lookup_eq_some_iff]
  exact ⟨fun h => ⟨h.1.1, h.2⟩, fun h => ⟨⟨h.1, h.2.1⟩, h.2⟩⟩

theorem mem_counted {kind : ElementKind} {names : List ElementName} {n : ElementName} :
    n ∈ counted kind names ↔ n ∈ names ∧ ¬ (kind = .source ∧ n = .harness) := by
  cases kind <;> simp [counted]

theorem nodup_counted {kind : ElementKind} {names : List ElementName} (h : names.Nodup) :
    (counted kind names).Nodup := by
  cases kind with
  | source => exact h.filter _
  | transform => exact h
  | output => exact h

/-- Of the elements of a kind each is registered once, and they are those that are declared. -/
def Matches (e : Expectations) (actual : Pipeline) (kind : ElementKind) : Prop :=
  (counted kind (actual.names kind)).Nodup ∧
    ∀ n, n ∈ counted kind (actual.names kind) ↔ n ∈ e.elements.names kind

/-- Sorted lists are the same as soon as they have the same members without repetitions. -/
theorem checkKind_eq_ok_iff_matches {e : Expectations} {actual : Pipeline} {kind : ElementKind} :
    e.checkKind actual kind = .ok () ↔ e.Matches actual kind := by
  have hpassed : e.checkKind actual kind = .ok () ↔
      (counted kind (actual.names kind)).Perm (e.elements.names kind).eraseDups := by
    rw [checkKind, ← ElementName.sort_eq_sort_iff]
    split <;> simp [*]
  have hdeclared := nodup_eraseDups (e.elements.names kind)
  rw [hpassed]
  constructor
  · intro hperm
    exact ⟨hperm.nodup_iff.mpr hdeclared, fun n => by rw [hperm.mem_iff, List.mem_eraseDups]⟩
  · rintro ⟨hnodup, hsame⟩
    rw [List.perm_ext_iff_of_nodup hnodup hdeclared]
    exact fun n => by rw [hsame, List.mem_eraseDups]

theorem matches_iff_of_nodup {e : Expectations} {actual : Pipeline} {kind : ElementKind}
    (h : (actual.names kind).Nodup) : e.Matches actual kind ↔ ∀ n, n ∈ e.elements.names kind ↔
      n ∈ actual.names kind ∧ ¬ (kind = .source ∧ n = .harness) := by
  rw [Matches, and_iff_right (nodup_counted h)]
  refine forall_congr' fun n => ?_
  rw [mem_counted]
  exact ⟨Iff.symm, Iff.symm⟩

theorem checkElements_eq_ok_iff_matches {e : Expectations} {actual : Pipeline} :
    e.checkElements actual = .ok () ↔ ∀ kind, e.Matches actual kind := by
  rw [checkElements, forM_eq_ok_iff]
  refine forall_congr' fun kind => ?_
  rw [checkKind_eq_ok_iff_matches]
  exact ⟨fun hk => hk (by cases kind <;> simp [ElementKind.all]), fun hk _ => hk⟩

theorem checkElements_eq_ok_iff {e : Expectations} {actual : Pipeline}
    (h : ∀ kind, (actual.names kind).Nodup) :
    e.checkElements actual = .ok () ↔ ∀ kind n, n ∈ e.elements.names kind ↔
      n ∈ actual.names kind ∧ ¬ (kind = .source ∧ n = .harness) := by
  rw [checkElements_eq_ok_iff_matches]
  exact forall_congr' fun kind => matches_iff_of_nodup (h kind)

theorem verdict_eq_ok_iff {e : Expectations} {loaded : List String} {registered : Host}
    (h : registered.Sound) (c : Checkpoint) :
    e.verdict loaded registered c = .ok () ↔ e.MetAt loaded registered c := by
  cases c with
  | pluginsLoaded => exact checkPlugins_eq_ok_iff
  | pluginsStarted => exact checkMetrics_eq_ok_iff h.consistent
  | operationBegins => exact checkElements_eq_ok_iff h.nodup

theorem verdicts_eq_ok_iff {sets : List Expectations} {loaded : List String} {registered : Host}
    (h : registered.Sound) : verdicts sets loaded registered = .ok () ↔
      ∀ e ∈ sets, ∀ c, e.MetAt loaded registered c := by
  rw [verdicts, forM_eq_ok_iff]
  constructor
  · intro hall e he c
    have hc := forM_eq_ok_iff.mp (hall c (by cases c <;> simp [Checkpoint.all])) e he
    exact (verdict_eq_ok_iff h c).mp hc
  · intro hmet c _
    exact forM_eq_ok_iff.mpr fun e he => (verdict_eq_ok_iff h c).mpr (hmet e he c)

/-- The violation `v` is the one to report of `sets`, the oldest first: at the first checkpoint `c`
where a set is not met, it is what the newest such set says. -/
structure Blames (sets : List Expectations) (loaded : List String) (registered : Host)
    (c : Checkpoint) (v : Violation) : Prop where
  earlier : ∃ before after, Checkpoint.all = before ++ c :: after ∧
    ∀ d ∈ before, ∀ e ∈ sets, e.MetAt loaded registered d
  newest : ∃ older e newer, sets = older ++ e :: newer ∧
    e.verdict loaded registered c = .error v ∧ ¬ e.MetAt loaded registered c ∧
    ∀ e' ∈ newer, e'.MetAt loaded registered c

theorem blames_of_verdicts {sets : List Expectations} {loaded : List String} {registered : Host}
    {v : Violation} (h : registered.Sound)
    (hv : verdicts sets.reverse loaded registered = .error v) :
    ∃ c, Blames sets loaded registered c v := by
  obtain ⟨before, c, after, hall, hbefore, hc⟩ := exists_of_forM_eq_error hv
  obtain ⟨newer, e, older, hsets, hnewer, he⟩ := exists_of_forM_eq_error hc
  refine ⟨c, ⟨before, after, hall, fun d hd e he => ?_⟩, older.reverse, e, newer.reverse, ?_, he,
    ?_, fun e' he' => ?_⟩
  · have hd := forM_eq_ok_iff.mp (hbefore d hd) e (List.mem_reverse.mpr he)
    exact (verdict_eq_ok_iff h d).mp hd
  · simpa using congrArg List.reverse hsets
  · intro hmet
    rw [(verdict_eq_ok_iff h c).mpr hmet] at he
    cases he
  · exact (verdict_eq_ok_iff h c).mp (hnewer e' (List.mem_reverse.mp he'))

/-! ## What checks do not depend on -/

theorem counted_perm (kind : ElementKind) {xs ys : List ElementName} (h : xs.Perm ys) :
    (counted kind xs).Perm (counted kind ys) := by
  cases kind with
  | source => exact h.filter _
  | transform => exact h
  | output => exact h

theorem counted_counted (kind : ElementKind) (names : List ElementName) :
    counted kind (counted kind names) = counted kind names := by
  cases kind <;> simp [counted]

/-- Adding a name that counts. -/
theorem counted_concat {kind : ElementKind} {n : ElementName} (hn : n ≠ .harness)
    (names : List ElementName) : counted kind (names ++ [n]) = counted kind names ++ [n] := by
  cases kind <;> simp [counted, hn]

theorem checkKind_congr (e : Expectations) {p p' : Pipeline} (kind : ElementKind)
    (h : (counted kind (p.names kind)).Perm (counted kind (p'.names kind))) :
    e.checkKind p kind = e.checkKind p' kind := by
  simp only [checkKind, ElementName.sort_eq_sort_iff.mpr h]

/-- Only the names that count do, and not their order. -/
theorem checkElements_congr (e : Expectations) {p p' : Pipeline}
    (h : ∀ kind, (counted kind (p.names kind)).Perm (counted kind (p'.names kind))) :
    e.checkElements p = e.checkElements p' := by
  have hcheck : e.checkKind p = e.checkKind p' := funext fun kind => e.checkKind_congr kind (h kind)
  rw [checkElements, checkElements, hcheck]

/-- Of the plugins, only those that are asked for count. -/
theorem checkPlugins_congr (e : Expectations) {loaded loaded' : List String}
    (h : ∀ name ∈ e.plugins, name ∈ loaded ↔ name ∈ loaded') :
    e.checkPlugins loaded = e.checkPlugins loaded' := by
  refine forM_congr fun name hname => ?_
  have hcontains : loaded.contains name = loaded'.contains name := by
    rw [Bool.eq_iff_iff, List.contains_iff_mem, List.contains_iff_mem, h name hname]
  simp only [checkPlugin, hcontains]

end Expectations
end Preflight
