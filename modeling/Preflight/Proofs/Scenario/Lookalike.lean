import Preflight.Proofs.Scenario.Requests
import Preflight.Proofs.Text.Quoted

/-! Names of elements that look alike. A printed name does not show where the plugin ends and the
label begins, so two names of a kind look alike exactly if they cut one text at two of its slashes.
A report may show such a pair as one name that is missing and unexpected at once. -/
namespace Preflight

namespace ElementName
variable {a b : ElementName} {kind : ElementKind}

/-- One text in two cuts, the first of them further to the left. -/
def Recut (a b : ElementName) : Prop :=
  ∃ piece, a.label = piece ++ "/" ++ b.label ∧ b.plugin = a.plugin ++ "/" ++ piece

theorem Recut.path_eq (h : Recut a b) (kind : ElementKind) : a.path kind = b.path kind := by
  obtain ⟨piece, hlabel, hplugin⟩ := h
  simp only [path, hlabel, hplugin, String.append_assoc]

theorem Recut.slash_mem_plugin (h : Recut a b) : '/' ∈ b.plugin.toList := by
  obtain ⟨piece, -, hplugin⟩ := h
  simp [hplugin]

theorem Recut.slash_mem_label (h : Recut a b) : '/' ∈ a.label.toList := by
  obtain ⟨piece, hlabel, -⟩ := h
  simp [hlabel]

/-- When the first of two cuts is no further to the right, both are the same or it is a recut. -/
theorem eq_or_recut_of_append {more : List Char}
    (hplugin : b.plugin.toList = a.plugin.toList ++ more)
    (hlabel : '/' :: a.label.toList = more ++ '/' :: b.label.toList) : a = b ∨ Recut a b := by
  cases more with
  | nil =>
    have hp : a.plugin = b.plugin := String.toList_inj.mp (by simpa using hplugin.symm)
    have hl : a.label = b.label := String.toList_inj.mp (by simpa using hlabel)
    exact Or.inl (by cases a; cases b; simp_all)
  | cons slash piece =>
    obtain ⟨rfl, hpiece⟩ := List.cons.inj hlabel
    refine Or.inr ⟨.ofList piece, ?_, ?_⟩
    · exact String.toList_inj.mp (by simpa using hpiece)
    · exact String.toList_inj.mp (by simpa using hplugin)

theorem path_eq_path_iff : a.path kind = b.path kind ↔ a = b ∨ Recut a b ∨ Recut b a := by
  constructor
  · intro h
    have hchars : a.plugin.toList ++ '/' :: a.label.toList =
        b.plugin.toList ++ '/' :: b.label.toList := by
      simpa [path, ← String.toList_inj] using h
    rcases List.append_eq_append_iff.mp hchars with
      ⟨more, hplugin, hlabel⟩ | ⟨more, hplugin, hlabel⟩
    · exact (eq_or_recut_of_append hplugin hlabel).imp_right Or.inl
    · exact (eq_or_recut_of_append hplugin hlabel).imp Eq.symm Or.inr
  · rintro (rfl | h | h)
    · rfl
    · exact h.path_eq kind
    · exact (h.path_eq kind).symm

/-- A name as the lists of a report show it. -/
def printed (kind : ElementKind) (n : ElementName) : String := Text.quote (n.path kind)

theorem printed_eq_printed_iff :
    a.printed kind = b.printed kind ↔ a = b ∨ Recut a b ∨ Recut b a :=
  Text.quote_injective.eq_iff.trans path_eq_path_iff

section Lists
variable {missing unexpected : List ElementName}

/-- What two lists without a common name both print are pairs of cuts of one text. -/
theorem mem_both_printed_iff (apart : ∀ n ∈ missing, n ∉ unexpected) (text : String) :
    text ∈ missing.map (·.printed kind) ∧ text ∈ unexpected.map (·.printed kind) ↔
      ∃ a ∈ missing, ∃ b ∈ unexpected, (Recut a b ∨ Recut b a) ∧ a.printed kind = text := by
  constructor
  · rintro ⟨hmissing, hunexpected⟩
    obtain ⟨a, ha, rfl⟩ := List.mem_map.mp hmissing
    obtain ⟨b, hb, hprinted⟩ := List.mem_map.mp hunexpected
    rcases printed_eq_printed_iff.mp hprinted with rfl | hcut
    · exact absurd hb (apart b ha)
    · exact ⟨a, ha, b, hb, hcut.symm, rfl⟩
  · rintro ⟨a, ha, b, hb, hcut, rfl⟩
    refine ⟨List.mem_map_of_mem ha, List.mem_map.mpr ⟨b, hb, ?_⟩⟩
    exact printed_eq_printed_iff.mpr (Or.inr hcut.symm)

theorem not_mem_printed_of_no_slash (apart : ∀ n ∈ missing, n ∉ unexpected)
    (noSlash : (∀ n ∈ missing ++ unexpected, '/' ∉ n.plugin.toList) ∨
      ∀ n ∈ missing ++ unexpected, '/' ∉ n.label.toList)
    {text : String} (h : text ∈ missing.map (·.printed kind)) :
    text ∉ unexpected.map (·.printed kind) := by
  intro h'
  obtain ⟨a, ha, b, hb, hcut, -⟩ := (mem_both_printed_iff apart text).mp ⟨h, h'⟩
  have ha := List.mem_append_left unexpected ha
  have hb := List.mem_append_right missing hb
  rcases noSlash with hplugin | hlabel
  · rcases hcut with hcut | hcut
    · exact hplugin b hb hcut.slash_mem_plugin
    · exact hplugin a ha hcut.slash_mem_plugin
  · rcases hcut with hcut | hcut
    · exact hlabel a ha hcut.slash_mem_label
    · exact hlabel b hb hcut.slash_mem_label

end Lists
end ElementName

theorem Violation.paths_eq_printed (kind : ElementKind) (names : List ElementName) :
    paths kind names = "[" ++ ", ".intercalate (names.map (·.printed kind)) ++ "]" := by
  rw [paths, Text.quoteList, List.map_map]
  rfl

namespace Expectations
open ElementName (Recut)
variable {e : Expectations} {actual : Pipeline} {v : Violation}

/-- Two names of a kind are printed alike exactly if they are two cuts of one text. So what a report
prints both as missing and as unexpected are the pairs of such cuts, one expected and the other one
registered; and there are none where no plugin, or no label, holds a slash. -/
theorem recuts_printed_alike (h : e.checkElements actual = .error v) :
    (∀ kind (a b : ElementName),
      a.printed kind = b.printed kind ↔ a = b ∨ Recut a b ∨ Recut b a) ∧
    (∀ kind (names : List ElementName), Violation.paths kind names =
      "[" ++ ", ".intercalate (names.map (·.printed kind)) ++ "]") ∧
    ∃ kind expected found, Mismatch e actual kind expected found v ∧
      let missing := expected.filter (· ∉ found)
      let unexpected := found.filter (· ∉ expected)
      (∀ text, text ∈ missing.map (·.printed kind) ∧ text ∈ unexpected.map (·.printed kind) ↔
        ∃ a ∈ missing, ∃ b ∈ unexpected, (Recut a b ∨ Recut b a) ∧ a.printed kind = text) ∧
      ((∀ n ∈ missing ++ unexpected, '/' ∉ n.plugin.toList) ∨
          (∀ n ∈ missing ++ unexpected, '/' ∉ n.label.toList) →
        ∀ text ∈ missing.map (·.printed kind), text ∉ unexpected.map (·.printed kind)) := by
  refine ⟨fun _ _ _ => ElementName.printed_eq_printed_iff, Violation.paths_eq_printed, ?_⟩
  obtain ⟨_, kind, _, -, -, hkind⟩ := exists_of_forM_eq_error h
  obtain ⟨expected, found, mismatch⟩ := exists_mismatch_of_checkKind hkind
  have apart : ∀ n ∈ expected.filter (· ∉ found), n ∉ found.filter (· ∉ expected) := by
    intro n hn hn'
    have hfound := (List.mem_filter.mp hn').1
    exact absurd hfound (by simpa using (List.mem_filter.mp hn).2)
  exact ⟨kind, expected, found, mismatch, ElementName.mem_both_printed_iff apart,
    fun noSlash _ => ElementName.not_mem_printed_of_no_slash apart noSlash⟩

section Rack
open Scenario

/-- Its name holds a slash. -/
def rackGpu : PluginScript := { name := "rack/gpu", start := [.ask (.element .source "power")] }

def rackWorld : World := ((World.addBuilder "rack" [(rackGpu, [])]).run {}).2

def rackLife : Lifecycle Plan Plugin Listener World := lifecycle (play 0) 0 rackWorld.hosts.length

/-- The plugin registers one source. -/
def rackPipeline : Pipeline := { sources := [⟨"rack/gpu", "power"⟩] }

/-- Expects a source of another plugin, whose label holds the slash. -/
def rackSources : Expectations := { elements := { sources := [⟨"rack", "gpu/power"⟩] } }

theorem rackSources_refuse :
    let expected : List ElementName := [⟨"rack", "gpu/power"⟩]
    let found : List ElementName := [⟨"rack/gpu", "power"⟩]
    let v : Violation := .elementsDiffer .source expected found
    rackSources.checkElements rackPipeline = .error v ∧
      Mismatch rackSources rackPipeline .source expected found v := by
  have hexpected : ElementName.sort (rackSources.elements.names .source).eraseDups =
      [⟨"rack", "gpu/power"⟩] := List.mergeSort_singleton _
  have hfound : ElementName.sort (counted .source (rackPipeline.names .source)) =
      [⟨"rack/gpu", "power"⟩] := List.mergeSort_singleton _
  have hdiffers : ¬ rackSources.Matches rackPipeline .source := by
    intro matched
    exact absurd ((matched.2 ⟨"rack", "gpu/power"⟩).mpr (by decide)) (by decide)
  have refused := checkElements_of_sources (checkKind_eq_error_iff.mpr ⟨hdiffers, rfl⟩)
  have mismatch := mismatch_elementsDiffer rackSources rackPipeline .source
  rw [hexpected, hfound] at refused mismatch
  exact ⟨refused, mismatch⟩

theorem recuts_printed_alike_rack :
    ∃ v, rackSources.checkElements rackPipeline = .error v ∧ ∃ kind expected found,
      Mismatch rackSources rackPipeline kind expected found v ∧
      ∀ text, text ∈ (expected.filter (· ∉ found)).map (·.printed kind) ∧
          text ∈ (found.filter (· ∉ expected)).map (·.printed kind) ↔
        ∃ a ∈ expected.filter (· ∉ found), ∃ b ∈ found.filter (· ∉ expected),
          (Recut a b ∨ Recut b a) ∧ a.printed kind = text := by
  obtain ⟨-, -, kind, expected, found, mismatch, hboth, -⟩ :=
    recuts_printed_alike rackSources_refuse.1
  exact ⟨_, rackSources_refuse.1, kind, expected, found, mismatch, hboth⟩

/-- An agent starts with one source, and another one is expected. The report shows them as one name
that is both missing and unexpected. -/
theorem recut_is_missing_and_unexpected :
    ∃ agent t, rackLife.launch (rackWorld.builder 0).plans rackWorld.addHost = .ok agent t ∧
      rackLife.Takes (rackWorld.builder 0).plans rackWorld.addHost agent.pipeline ∧
      ∃ v, rackSources.checkElements agent.pipeline = .error v ∧
        v.message = "registered sources do not match what you requested\n" ++
          "  expected: ['source/rack/gpu/power']\n  actual:   ['source/rack/gpu/power']\n" ++
          "  missing: ['source/rack/gpu/power'], unexpected: ['source/rack/gpu/power']" ∧
        ∃ kind expected found, Mismatch rackSources agent.pipeline kind expected found v ∧
          ¬ (∀ text ∈ (expected.filter (· ∉ found)).map (·.printed kind),
            text ∉ (found.filter (· ∉ expected)).map (·.printed kind)) ∧
          ¬ ∀ a b : ElementName, a.printed kind = b.printed kind → a = b := by
  have hpipeline : (outcome (rackLife.launch (rackWorld.builder 0).plans)
      rackWorld.addHost).1.toOption.map (·.pipeline) = some rackPipeline := by decide +kernel
  obtain ⟨agent, t, h, hagent⟩ := exists_of_toOption hpipeline
  obtain ⟨refused, mismatch⟩ := rackSources_refuse
  rw [← hagent] at refused mismatch
  have cut : Recut ⟨"rack", "gpu/power"⟩ ⟨"rack/gpu", "power"⟩ := ⟨"gpu", by decide, by decide⟩
  have alike : ElementName.printed .source _ = ElementName.printed .source _ :=
    ElementName.printed_eq_printed_iff.mpr (Or.inr (Or.inl cut))
  refine ⟨agent, t, h, Lifecycle.takes_of_launch_ok h, _, refused, by decide +kernel, .source,
    _, _, mismatch, fun apart => ?_, fun same => ?_⟩
  · exact apart _ (List.mem_map_of_mem (by decide)) (List.mem_map.mpr ⟨_, by decide, alike.symm⟩)
  · exact absurd (same _ _ alike) (by decide)

end Rack
end Expectations
end Preflight
