import Preflight.Proofs.Toml
import Preflight.Settings.Reading
import Preflight.Settings.Mark
import Preflight.Proofs.Settings.Literal

/-! Names of log levels, in letters of any case, as variables give them: none has a mark or is a
TOML value, so that each is the text that it is. -/
namespace Preflight.Settings
open Text (upper upperChar trim)

theorem upperChar_subset {s : String} {c : Char} (hc : c ∈ s.toList) :
    upperChar c ⊆ (upper s).toList := by
  intro x hx
  rw [upper, String.toList_ofList]
  exact List.mem_flatMap.mpr ⟨c, hc, hx⟩

theorem mem_of_mem_trim {s : String} {c : Char} (hc : c ∈ (trim s).toList) : c ∈ s.toList := by
  rw [trim, String.toList_ofList, Text.dropEnd, List.mem_reverse] at hc
  have hreverse := List.dropWhile_subset _ hc
  exact List.dropWhile_subset _ (List.mem_reverse.mp hreverse)

/-- The characters with a meaning of their own before a text, at the end of a line or between
words. They have no case. -/
def separators : List Char := "@# \t\n\r\u0085\u2028\u2029".toList

section Level
variable {text : String} (level : upper text ∈ levelNames)
include level

theorem not_mem_of_level {c x : Char} (hx : x ∈ upperChar c)
    (hlevels : ∀ name ∈ levelNames, x ∉ name.toList) : c ∉ text.toList :=
  fun hc => hlevels _ level (upperChar_subset hc hx)

theorem separator_not_mem {c : Char} (hc : c ∈ separators) : c ∉ text.toList := by
  -- Checked over the list alone: a check of every character would run through all of them.
  have hall : (separators.all fun c =>
      (upperChar c).contains c && levelNames.all fun name => !name.toList.contains c) = true := by
    decide +kernel
  obtain ⟨hself, hnames⟩ : c ∈ upperChar c ∧ ∀ name ∈ levelNames, c ∉ name.toList := by
    simpa using List.all_eq_true.mp hall c hc
  exact not_mem_of_level level hself hnames

theorem plainText_of_level : PlainText text where
  unmarked := fun hhead => separator_not_mem level (by decide) (List.mem_of_head? hhead)
  line c hc := by
    have hne : ∀ x ∈ separators, c ≠ x := fun x hx hcx =>
      separator_not_mem level hx (hcx ▸ hc)
    simp [isLineBreak, hne '\u0085' (by decide), hne '\u2028' (by decide),
      hne '\u2029' (by decide)]
  joinMark := by
    rintro rfl
    exact absurd level (by decide +kernel)
  uniqueMark := by
    rintro rfl
    exact absurd level (by decide +kernel)

theorem trim_ne_flag : trim text ≠ "True" ∧ trim text ≠ "False" := by
  have hmem : ∀ word : String, trim text = word → ∀ c ∈ word.toList, c ∈ text.toList :=
    fun word hword c hc => mem_of_mem_trim (hword ▸ hc)
  constructor
  · intro htrue
    have htu : ∀ name ∈ levelNames, 'T' ∉ name.toList ∨ 'U' ∉ name.toList := by decide
    have ht : 'T' ∈ (upper text).toList :=
      upperChar_subset (hmem _ htrue 'T' (by decide)) (by decide +kernel)
    have hu : 'U' ∈ (upper text).toList :=
      upperChar_subset (hmem _ htrue 'u' (by decide)) (by decide +kernel)
    exact (htu _ level).elim (· ht) (· hu)
  · intro hfalse
    have hs : 's' ∉ text.toList :=
      not_mem_of_level level (x := 'S') (by decide +kernel) (by decide)
    exact hs (hmem _ hfalse 's' (by decide))

theorem toml_of_level : Toml.read? text = none := by
  cases htext : text.toList with
  | nil =>
    have hempty : upper text = "" := by rw [upper, htext]; rfl
    rw [hempty] at level
    exact absurd level (by decide)
  | cons c cs =>
    have hname : (upper text).toList = upperChar c ++ cs.flatMap upperChar := by
      rw [upper, htext, String.toList_ofList, List.flatMap_cons]
    have hne : ∀ x ∈ separators, c ≠ x := fun x hx hcx =>
      separator_not_mem level hx (by rw [htext, hcx]; exact List.mem_cons_self)
    refine Toml.read?_of_closed htext (separator_not_mem level (by decide)) ?_ ?_ ?_
    · simp [Toml.isBlank, hne ' ' (by decide), hne '\t' (by decide)]
    · intro hopening
      have hall : (Toml.opening.all fun c =>
          levelNames.all fun name => !(upperChar c).isPrefixOf name.toList) = true := by
        decide +kernel
      have hbegins : ∀ name ∈ levelNames, (upperChar c).isPrefixOf name.toList = false := by
        simpa using List.all_eq_true.mp hall c hopening
      have hupper : (upperChar c).isPrefixOf (upper text).toList = true :=
        List.isPrefixOf_iff_prefix.mpr ⟨_, hname.symm⟩
      exact absurd ((hbegins _ level).symm.trans hupper) Bool.false_ne_true
    · rintro rest rfl rfl
      cases rest with
      | nil =>
        have hinf : upper text = "INF" := by
          rw [upper, htext]
          decide +kernel
        rw [hinf] at level
        exact absurd level (by decide)
      | cons r rest =>
        have hne : ∀ x ∈ separators, r ≠ x := fun x hx hrx =>
          separator_not_mem level hx (by rw [htext, hrx]; simp)
        have hskip : Toml.skipBlanks (r :: rest) = r :: rest := by
          simp [Toml.skipBlanks, Toml.isBlank, hne ' ' (by decide), hne '\t' (by decide)]
        rw [hskip]
        unfold Toml.Document.endLine
        split
        case h_4 => rfl
        all_goals
          rename_i heq
          cases heq
        · exact (hne '#' (by decide) rfl).elim
        · exact (hne '\n' (by decide) rfl).elim

/-- As the value of a variable, the name of a level is a text. -/
theorem readVariable_of_level : readVariable true text = .ok (.text text) := by
  have hflag : ¬ (trim text = "True" ∨ trim text = "False") :=
    not_or.mpr (trim_ne_flag level)
  have htoml : readMarked.ofToml text = .text text := by
    rw [readMarked.ofToml, toml_of_level level]
    rfl
  simp only [readVariable, if_neg hflag, if_true]
  rw [readMarked_of_unmarked _ _ (plainText_of_level level).unmarked, htoml]

end Level
end Preflight.Settings
