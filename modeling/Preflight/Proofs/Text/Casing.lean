import Mathlib.Data.Bool.AllAny
import Preflight.Proofs.Log.Lineage
import Preflight.Text.Blank
import Preflight.Text.Casing

/-! Names in upper and in lower case. Most small letters come from their capitals alone, and no name
in upper case has a small letter, so that one name in upper case is in lower case a word of such
letters. Blanks have no case, and may be taken for underscores before the case is changed or
after. -/
namespace Preflight.Text

/-- Small letters that no character but the capital has for its lower case. -/
def smallLetters : List Char := "abcdefghijlmnopqrstuvwxyz".toList

def capital (c : Char) : Char := Char.ofNat (c.toNat - 32)

theorem toNat_pos_of_small {x : Char} (h : x ∈ smallLetters) : 0 < x.toNat := by
  have hall : ∀ y ∈ smallLetters, 0 < y.toNat := List.all_iff_forall_prop.mp (by decide)
  exact hall x h

theorem toNat_of_ofNat {n : Nat} {c : Char} (h : Char.ofNat n = c) (hc : 0 < c.toNat) :
    n = c.toNat := by
  by_cases hvalid : n.isValidChar
  · rw [← h, Char.ofNat, dif_pos hvalid]
    rfl
  · rw [Char.ofNat, dif_neg hvalid] at h
    subst h
    exact absurd hc (by decide)

/-- A character that a one-to-one range takes to another stands at that one's place in the range. -/
theorem toNat_of_holds {ranges : List CaseRange} {c x : Char} {r : CaseRange}
    (hfind : ranges.find? (·.holds c.toNat) = some r)
    (hx : Char.ofNat (c.toNat + r.shift).toNat = x) (hpos : 0 < x.toNat) :
    r ∈ ranges ∧ r.holds (x.toNat - r.shift).toNat = true ∧
      c.toNat = (x.toNat - r.shift).toNat := by
  have hn := toNat_of_ofNat hx hpos
  have hc : c.toNat = (x.toNat - r.shift).toNat := by omega
  have hholds : r.holds c.toNat = true := by simpa using List.find?_some hfind
  exact ⟨List.mem_of_find?_eq_some hfind, hc ▸ hholds, hc⟩

/-- No character in upper case is a small letter. -/
theorem not_mem_upperChar {c x : Char} (hx : x ∈ smallLetters) : x ∉ upperChar c := by
  intro hmem
  rw [upperChar, applyCase] at hmem
  split at hmem
  next r hfind =>
    have hall : (upperRanges.all fun r => smallLetters.all fun x =>
        !r.holds (x.toNat - r.shift).toNat) = true := by decide +kernel
    obtain ⟨hr, hholds, -⟩ :=
      toNat_of_holds hfind (List.mem_singleton.mp hmem).symm (toNat_pos_of_small hx)
    have hnot := List.all_eq_true.mp (List.all_eq_true.mp hall r hr) x hx
    rw [hholds] at hnot
    exact absurd hnot (by decide)
  next hnone =>
    split at hmem
    next n ns hfind =>
      have hall : (upperExpansions.all fun e => smallLetters.all fun x =>
          !(e.2.map Char.ofNat).contains x) = true := by decide +kernel
      have hnot := List.all_eq_true.mp
        (List.all_eq_true.mp hall _ (List.mem_of_find?_eq_some hfind)) x hx
      rw [List.contains_iff_mem.mpr hmem] at hnot
      exact absurd hnot (by decide)
    next =>
      obtain rfl : x = c := List.mem_singleton.mp hmem
      have hall : ∀ x ∈ smallLetters, (upperRanges.find? (·.holds x.toNat)).isSome = true :=
        List.all_eq_true.mp (by decide +kernel)
      have hsome := hall x hx
      rw [hnone] at hsome
      cases hsome

/-- What is in lower case small letters alone, and is none itself, is one of their capitals. -/
theorem lowerChar_of_small {c : Char} (hc : c ∉ smallLetters)
    (h : ∀ x ∈ lowerChar c, x ∈ smallLetters) : [c] = (lowerChar c).map capital := by
  rw [lowerChar, applyCase] at h ⊢
  split at h
  next r hfind =>
    have hsmall := h _ (List.mem_singleton_self _)
    obtain ⟨hr, hholds, hplace⟩ := toNat_of_holds hfind rfl (toNat_pos_of_small hsmall)
    have hall : (lowerRanges.all fun r => smallLetters.all fun x =>
        !r.holds (x.toNat - r.shift).toNat || (x.toNat - r.shift).toNat == x.toNat - 32) = true :=
      by decide +kernel
    have hcapital := List.all_eq_true.mp (List.all_eq_true.mp hall r hr) _ hsmall
    rw [hholds, Bool.not_true, Bool.false_or, beq_iff_eq, ← hplace] at hcapital
    simp only [List.map_cons, List.map_nil, capital, ← hcapital, Char.ofNat_toNat]
  next hnone =>
    split at h
    next n ns hfind =>
      have hall : (lowerExpansions.all fun e =>
          (e.2.map Char.ofNat).any fun x => !smallLetters.contains x) = true := by decide +kernel
      have hany := List.all_eq_true.mp hall _ (List.mem_of_find?_eq_some hfind)
      obtain ⟨x, hx, hout⟩ := List.any_eq_true.mp hany
      simp [h x hx] at hout
    next => exact absurd (h c (List.mem_singleton_self c)) hc

theorem lowerBetween_of_small {before rest : List Char} {c : Char} (hc : c ∉ smallLetters)
    (h : ∀ x ∈ lowerBetween before c rest, x ∈ smallLetters) :
    [c] = (lowerBetween before c rest).map capital := by
  by_cases hsigma : c = 'Σ'
  · subst hsigma
    have hout : 'ς' ∉ smallLetters ∧ 'σ' ∉ smallLetters := by decide
    rw [lowerBetween, if_pos (beq_self_eq_true _)] at h
    have hmem := h _ (List.mem_singleton_self _)
    split at hmem
    · exact absurd hmem hout.1
    · exact absurd hmem hout.2
  · have hplain : lowerBetween before c rest = lowerChar c := by simp [lowerBetween, hsigma]
    rw [hplain] at h ⊢
    exact lowerChar_of_small hc h

theorem lowerFrom_of_small {before cs : List Char} (hcs : ∀ c ∈ cs, c ∉ smallLetters)
    (h : ∀ x ∈ lowerFrom before cs, x ∈ smallLetters) : cs = (lowerFrom before cs).map capital := by
  induction cs generalizing before with
  | nil => rfl
  | cons c cs ih =>
    obtain ⟨hc, hmore⟩ := List.forall_mem_cons.mp hcs
    rw [lowerFrom] at h ⊢
    obtain ⟨hfirst, hrest⟩ := List.forall_mem_append.mp h
    rw [List.map_append, ← ih hmore hrest, ← lowerBetween_of_small hc hfirst]
    rfl

/-- A name in upper case that is in lower case a word is this word in capitals. -/
theorem upper_eq_of_lower {s word : String} (hword : ∀ c ∈ word.toList, c ∈ smallLetters)
    (h : lower (upper s) = word) : upper s = .ofList (word.toList.map capital) := by
  have hlower : lowerFrom [] (upper s).toList = word.toList := by
    rw [← h, lower, String.toList_ofList]
  have hupper : ∀ c ∈ (upper s).toList, c ∉ smallLetters := fun c hc hsmall => by
    rw [upper, String.toList_ofList] at hc
    obtain ⟨d, -, hd⟩ := List.mem_flatMap.mp hc
    exact not_mem_upperChar hsmall hd
  have hchars := lowerFrom_of_small hupper fun x hx => hword x (hlower ▸ hx)
  rw [hlower] at hchars
  rw [← hchars, String.ofList_toList]

theorem mem_lowerFrom {before cs : List Char} (h : '_' ∈ cs) : '_' ∈ lowerFrom before cs := by
  have hself : lowerChar '_' = ['_'] := by decide +kernel
  induction cs generalizing before with
  | nil => cases h
  | cons c cs ih =>
    rw [lowerFrom]
    rcases List.mem_cons.mp h with rfl | h
    · simp [lowerBetween, hself]
    · exact List.mem_append_right _ (ih h)

/-! ## Blanks -/

/-- The places of the characters that are trimmed. -/
def blankPlaces : List Nat :=
  [0x09, 0x0a, 0x0b, 0x0c, 0x0d, 0x1c, 0x1d, 0x1e, 0x1f, 0x20, 0x85, 0xa0, 0x1680, 0x2000, 0x2001,
    0x2002, 0x2003, 0x2004, 0x2005, 0x2006, 0x2007, 0x2008, 0x2009, 0x200a, 0x2028, 0x2029, 0x202f,
    0x205f, 0x3000]

theorem mem_upperChar_of_isSpace {c : Char} (h : isSpace c = true) : c ∈ upperChar c := by
  have hall : ∀ n ∈ blankPlaces, Char.ofNat n ∈ upperChar (Char.ofNat n) := by decide +kernel
  have hmem : c.toNat ∈ blankPlaces := by
    simp only [isSpace, Bool.or_eq_true, Bool.and_eq_true, decide_eq_true_eq, beq_iff_eq] at h
    simp only [blankPlaces, List.mem_cons, List.not_mem_nil, or_false]
    omega
  simpa using hall _ hmem

theorem trim_eq_self {s : String} (h : ∀ c ∈ s.toList, isSpace c = false) : trim s = s := by
  have hstay : ∀ cs : List Char, (∀ c ∈ cs, isSpace c = false) → cs.dropWhile isSpace = cs := by
    intro cs hcs
    cases cs with
    | nil => rfl
    | cons c cs => rw [List.dropWhile_cons_of_neg (by simp [hcs c List.mem_cons_self])]
  have hback := hstay s.toList.reverse fun c hc => h c (List.mem_reverse.mp hc)
  rw [trim, hstay _ h, dropEnd, hback, List.reverse_reverse, String.ofList_toList]

/-! ## Blanks taken for underscores -/

def shade (c : Char) : Char := if c = ' ' then '_' else c

theorem intercalate_splitOn (x y : Char) (cs : List Char) :
    [y].intercalate (cs.splitOn x) = cs.map fun c => if c = x then y else c := by
  induction cs with
  | nil => rfl
  | cons c cs ih =>
    rw [List.splitOn_cons_eq_if_modifyHead, List.map_cons, ← ih]
    obtain ⟨part, parts, hparts⟩ := List.exists_cons_of_ne_nil (List.splitOn_ne_nil x cs)
    rw [hparts]
    by_cases hc : c = x
    · simp [hc, List.intercalate_cons_cons]
    · cases parts <;> simp [hc, List.intercalate_cons_cons]

theorem replace_blank (s : String) : (replace " " "_" s).toList = s.toList.map shade := by
  have hsplit : (split " " s).map String.toList = s.toList.splitOn ' ' := by
    have hparts : split " " s = (s.toList.splitOn ' ').map String.ofList := by
      rw [← splitFrom_singleton]
      rfl
    rw [hparts, List.map_map]
    simp [Function.comp_def]
  rw [replace, String.toList_intercalate, hsplit]
  exact intercalate_splitOn ' ' '_' s.toList

theorem dropWhile_shade (cs : List Char) :
    (((cs.map shade).dropWhile isCaseIgnorable).head?.any isCased) =
      ((cs.dropWhile isCaseIgnorable).head?.any isCased) := by
  have hblank : isCaseIgnorable ' ' = false ∧ isCaseIgnorable '_' = false ∧
      isCased ' ' = false ∧ isCased '_' = false := by decide +kernel
  induction cs with
  | nil => rfl
  | cons c cs ih =>
    by_cases hc : c = ' '
    · subst hc
      simp [shade, hblank.1, hblank.2.1, hblank.2.2.1, hblank.2.2.2]
    · have hshade : shade c = c := if_neg hc
      rw [List.map_cons, hshade, List.dropWhile_cons, List.dropWhile_cons]
      split
      · exact ih
      · rfl

theorem lowerFrom_shade (before cs : List Char) :
    (lowerFrom (before.map shade) (cs.map shade)).map shade = (lowerFrom before cs).map shade := by
  have hblank : lowerChar ' ' = [' '] ∧ lowerChar '_' = ['_'] := by decide +kernel
  induction cs generalizing before with
  | nil => rfl
  | cons c cs ih =>
    have hlater := ih (c :: before)
    rw [List.map_cons] at hlater
    rw [List.map_cons, lowerFrom, lowerFrom, List.map_append, List.map_append, hlater]
    refine congrArg (· ++ _) ?_
    by_cases hc : c = ' '
    · subst hc
      simp [shade, lowerBetween, hblank.1, hblank.2]
    · have hshade : shade c = c := if_neg hc
      have hfinal : isFinalSigma (before.map shade) (cs.map shade) = isFinalSigma before cs := by
        rw [isFinalSigma, isFinalSigma, dropWhile_shade, dropWhile_shade]
      rw [hshade, lowerBetween, lowerBetween, hfinal]

/-- Taking blanks for underscores first does not change the lower case but for them. -/
theorem replace_lower_replace (s : String) :
    replace " " "_" (lower (replace " " "_" s)) = replace " " "_" (lower s) := by
  rw [← String.toList_inj, replace_blank, replace_blank, lower, lower, String.toList_ofList,
    String.toList_ofList, replace_blank]
  exact lowerFrom_shade [] s.toList

end Preflight.Text
