import Preflight.Proofs.Expectation.Met

/-! What the check of elements reports. It compares two sorted lists: of the declared names each
counts once, and of the registered ones all but the harness's own, with their repetitions. -/
namespace Preflight

namespace ElementName

theorem lt_iff {a b : ElementName} : lt a b = true ↔ le a b = true ∧ a ≠ b := by
  have hle : lt a b = true ↔ le b a = false := by rw [le, Bool.not_eq_false']
  have hself : le a a = true := le_iff.mpr (le_refl _)
  rw [hle]
  constructor
  · intro hba
    have hab := le_connected a b
    rw [hba, Bool.or_false] at hab
    refine ⟨hab, ?_⟩
    rintro rfl
    exact absurd (hself.symm.trans hba) (by decide)
  · rintro ⟨hab, hne⟩
    exact Bool.eq_false_iff.mpr fun hba => hne (eq_of_le_of_le hab hba)

/-- Names of which none comes twice are sorted strictly. -/
theorem pairwise_lt_sort {xs : List ElementName} (h : xs.Nodup) :
    (sort xs).Pairwise fun a b => lt a b = true := by
  have hnodup : (sort xs).Nodup := (sort_perm xs).nodup_iff.mpr h
  exact ((pairwise_sort xs).and hnodup).imp lt_iff.mpr

end ElementName

namespace Violation

theorem lacking_eq_filter (names others : List ElementName) :
    lacking names others = names.filter (· ∉ others) := by
  simp [lacking, List.contains_eq_mem]

theorem message_elementsDiffer (kind : ElementKind) (expected found : List ElementName) :
    (elementsDiffer kind expected found).message =
      "registered " ++ kind.plural ++ " do not match what you requested\n  expected: " ++
        paths kind expected ++ "\n  actual:   " ++ paths kind found ++ "\n  missing: " ++
        paths kind (expected.filter (· ∉ found)) ++ ", unexpected: " ++
        paths kind (found.filter (· ∉ expected)) := by
  rw [← lacking_eq_filter, ← lacking_eq_filter]
  rfl

end Violation

namespace Expectations
open Violation (paths)

/-- How a mismatch of one kind is reported: as the two sorted lists, and in words that also say
which names either list has and the other one lacks. -/
structure Mismatch (e : Expectations) (actual : Pipeline) (kind : ElementKind)
    (expected found : List ElementName) (v : Violation) : Prop where
  declared : ∀ n, n ∈ expected ↔ n ∈ e.elements.names kind
  increasing : expected.Pairwise fun a b => ElementName.lt a b = true
  registered : found.Perm (counted kind (actual.names kind))
  ordered : found.Pairwise fun a b => ElementName.le a b = true
  topic : v.topic = kind.word
  subject : v.subject = kind.plural
  expectedNames : v.expected = .list (expected.map fun n => .element ⟨kind, n⟩)
  actualNames : v.actual = .list (found.map fun n => .element ⟨kind, n⟩)
  message : v.message =
    "registered " ++ kind.plural ++ " do not match what you requested\n  expected: " ++
      paths kind expected ++ "\n  actual:   " ++ paths kind found ++ "\n  missing: " ++
      paths kind (expected.filter (· ∉ found)) ++ ", unexpected: " ++
      paths kind (found.filter (· ∉ expected))

variable {e : Expectations} {actual : Pipeline} {kind : ElementKind}

theorem mismatch_elementsDiffer (e : Expectations) (actual : Pipeline) (kind : ElementKind) :
    let expected := ElementName.sort (e.elements.names kind).eraseDups
    let found := ElementName.sort (counted kind (actual.names kind))
    Mismatch e actual kind expected found (.elementsDiffer kind expected found) where
  declared n := by rw [(ElementName.sort_perm _).mem_iff, List.mem_eraseDups]
  increasing := ElementName.pairwise_lt_sort (nodup_eraseDups _)
  registered := ElementName.sort_perm _
  ordered := ElementName.pairwise_sort _
  topic := rfl
  subject := rfl
  expectedNames := rfl
  actualNames := rfl
  message := Violation.message_elementsDiffer kind _ _

theorem checkKind_eq_error_iff {v : Violation} :
    e.checkKind actual kind = .error v ↔ ¬ e.Matches actual kind ∧
      v = .elementsDiffer kind (ElementName.sort (e.elements.names kind).eraseDups)
        (ElementName.sort (counted kind (actual.names kind))) := by
  rw [← checkKind_eq_ok_iff_matches, checkKind]
  split <;> simp [eq_comm]

theorem exists_mismatch_of_checkKind {v : Violation} (h : e.checkKind actual kind = .error v) :
    ∃ expected found, Mismatch e actual kind expected found v := by
  obtain ⟨-, rfl⟩ := checkKind_eq_error_iff.mp h
  exact ⟨_, _, mismatch_elementsDiffer e actual kind⟩

/-- Of the kinds, the sources are checked first. -/
theorem checkElements_of_sources {v : Violation} (h : e.checkKind actual .source = .error v) :
    e.checkElements actual = .error v := by
  have hall : e.checkElements actual = e.checkKind actual .source >>= fun _ =>
      [ElementKind.transform, .output].forM (e.checkKind actual) := rfl
  rw [hall, h]
  rfl

theorem Mismatch.nodup_found {expected found : List ElementName} {v : Violation}
    (h : Mismatch e actual kind expected found v) (registered : (actual.names kind).Nodup) :
    found.Nodup := h.registered.nodup_iff.mpr (nodup_counted registered)

/-- Two lists may be different and yet have the same members. Not so where no element is registered
twice. -/
theorem Mismatch.differs {expected found : List ElementName} {v : Violation}
    (h : Mismatch e actual kind expected found v) (registered : (actual.names kind).Nodup)
    (refused : ¬ e.Matches actual kind) :
    expected.filter (· ∉ found) ≠ [] ∨ found.filter (· ∉ expected) ≠ [] := by
  by_contra hsame
  obtain ⟨hmissing, hunexpected⟩ := not_or.mp hsame
  have hfound : ∀ n ∈ expected, n ∈ found := by
    simpa using List.filter_eq_nil_iff.mp (not_not.mp hmissing)
  have hexpected : ∀ n ∈ found, n ∈ expected := by
    simpa using List.filter_eq_nil_iff.mp (not_not.mp hunexpected)
  refine refused ⟨nodup_counted registered, fun n => ?_⟩
  rw [← h.declared, ← h.registered.mem_iff]
  exact ⟨hexpected n, hfound n⟩

/-- Neither the order of the names nor a repeated declaration counts. -/
theorem checkKind_same {e' : Expectations} {actual' : Pipeline}
    (declared : ∀ n, n ∈ e'.elements.names kind ↔ n ∈ e.elements.names kind)
    (registered : (actual'.names kind).Perm (actual.names kind)) :
    e'.checkKind actual' kind = e.checkKind actual kind := by
  have hexpected : ElementName.sort (e'.elements.names kind).eraseDups =
      ElementName.sort (e.elements.names kind).eraseDups := by
    rw [ElementName.sort_eq_sort_iff,
      List.perm_ext_iff_of_nodup (nodup_eraseDups _) (nodup_eraseDups _)]
    exact fun n => by rw [List.mem_eraseDups, List.mem_eraseDups, declared]
  rw [e'.checkKind_congr kind (counted_perm kind registered)]
  simp only [checkKind, hexpected]

/-- The check is passed when of every kind each element that counts is registered once, and they are
those that were declared. Otherwise the first kind of which this is not so is reported. Neither the
order of the names nor repeated declarations make a difference. -/
theorem elements_reported_by_kind (e : Expectations) (actual : Pipeline) :
    (e.checkElements actual = .ok () ↔ ∀ kind, e.Matches actual kind) ∧
    (∀ v, e.checkElements actual = .error v → ∃ before kind after,
      [ElementKind.source, .transform, .output] = before ++ kind :: after ∧
        (∀ k ∈ before, e.Matches actual k) ∧ ¬ e.Matches actual kind ∧
        ∃ expected found, Mismatch e actual kind expected found v) ∧
    ∀ (e' : Expectations) (actual' : Pipeline),
      (∀ kind n, n ∈ e'.elements.names kind ↔ n ∈ e.elements.names kind) →
      (∀ kind, (actual'.names kind).Perm (actual.names kind)) →
      e'.checkElements actual' = e.checkElements actual := by
  refine ⟨checkElements_eq_ok_iff_matches, fun v h => ?_, fun e' actual' declared registered => ?_⟩
  · obtain ⟨before, kind, after, hall, hbefore, hkind⟩ := exists_of_forM_eq_error h
    refine ⟨before, kind, after, hall, fun k hk => checkKind_eq_ok_iff_matches.mp (hbefore k hk),
      fun hmatches => ?_, exists_mismatch_of_checkKind hkind⟩
    rw [checkKind_eq_ok_iff_matches.mpr hmatches] at hkind
    cases hkind
  · exact forM_congr fun kind _ => checkKind_same (declared kind) (registered kind)

end Expectations
end Preflight
