import Preflight.Proofs.Text.Casing

/-! Words that only ASCII spells. The lower case of a text is a word of letters and digits, `k` not
among them, exactly if it is the word when letters of ASCII alone change their case; no other
character becomes one of these. -/
namespace Preflight.Text

/-- What the lower case of no character but itself and its capital holds. -/
def steadyChars : List Char := "0123456789".toList ++ smallLetters

theorem toList_toLower (s : String) : s.toLower.toList = s.toList.map Char.toLower :=
  String.toList_map

theorem toNat_pos_of_steady {x : Char} (h : x ∈ steadyChars) : 0 < x.toNat := by
  have hall : ∀ y ∈ steadyChars, 0 < y.toNat := List.all_iff_forall_prop.mp (by decide)
  exact hall x h

/-- A character changes its case in ASCII only if it is a capital there. -/
theorem toLower_cases (c : Char) :
    c.toLower = c ∨ c = capital c.toLower ∧ 97 ≤ c.toLower.toNat := by
  by_cases h : c.val ≥ 'A'.val ∧ c.val ≤ 'Z'.val
  · have hcapital : 65 ≤ c.toNat ∧ c.toNat ≤ 90 := h
    have hplus : c.toLower.val = c.val + 32 := congrArg Char.val (dif_pos h)
    have hlower : c.toLower.toNat = c.toNat + 32 := by
      show c.toLower.val.toNat = c.toNat + 32
      rw [hplus, UInt32.toNat_add]
      show (c.toNat + 32) % 2 ^ 32 = _
      omega
    refine Or.inr ⟨?_, by omega⟩
    rw [capital, hlower, Nat.add_sub_cancel, Char.ofNat_toNat]
  · exact Or.inl (dif_neg h)

theorem lowerChar_of_steady {c : Char} (h : ∀ x ∈ lowerChar c, x ∈ steadyChars) :
    lowerChar c = [c.toLower] := by
  rw [lowerChar, applyCase] at h ⊢
  split at h
  next r hfind =>
    have hsteady := h _ (List.mem_singleton_self _)
    obtain ⟨hr, hholds, hplace⟩ := toNat_of_holds hfind rfl (toNat_pos_of_steady hsteady)
    have hall : (lowerRanges.all fun r => steadyChars.all fun x =>
        !r.holds (x.toNat - r.shift).toNat ||
          ((x.toNat - r.shift).toNat == x.toNat - 32 && (capital x).toLower == x)) = true := by
      decide +kernel
    have hcapital := List.all_eq_true.mp (List.all_eq_true.mp hall r hr) _ hsteady
    rw [hholds, Bool.not_true, Bool.false_or, Bool.and_eq_true, beq_iff_eq, beq_iff_eq,
      ← hplace] at hcapital
    obtain ⟨hat, hlower⟩ := hcapital
    rw [capital, ← hat, Char.ofNat_toNat] at hlower
    rw [hlower]
  next hnone =>
    split at h
    next n ns hfind =>
      have hall : (lowerExpansions.all fun e =>
          (e.2.map Char.ofNat).any fun x => !steadyChars.contains x) = true := by decide +kernel
      have hany := List.all_eq_true.mp hall _ (List.mem_of_find?_eq_some hfind)
      obtain ⟨x, hx, hout⟩ := List.any_eq_true.mp hany
      simp [h x hx] at hout
    next =>
      have hall : ∀ x ∈ steadyChars, x.toLower = x := List.all_iff_forall_prop.mp (by decide)
      rw [hall c (h c (List.mem_singleton_self c))]

theorem lowerBetween_of_steady {before rest : List Char} {c : Char}
    (h : ∀ x ∈ lowerBetween before c rest, x ∈ steadyChars) :
    lowerBetween before c rest = [c.toLower] := by
  by_cases hsigma : c = 'Σ'
  · subst hsigma
    have hout : 'ς' ∉ steadyChars ∧ 'σ' ∉ steadyChars := by decide
    rw [lowerBetween, if_pos (beq_self_eq_true _)] at h
    have hmem := h _ (List.mem_singleton_self _)
    split at hmem
    · exact absurd hmem hout.1
    · exact absurd hmem hout.2
  · have hplain : lowerBetween before c rest = lowerChar c := by simp [lowerBetween, hsigma]
    rw [hplain] at h ⊢
    exact lowerChar_of_steady h

theorem lowerBetween_of_toLower {c : Char} (h : c.toLower ∈ steadyChars)
    (before rest : List Char) : lowerBetween before c rest = [c.toLower] := by
  have hself : ∀ x ∈ steadyChars, lowerChar x = [x] ∧ x ≠ 'Σ' :=
    List.all_iff_forall_prop.mp (by decide +kernel)
  have hcapital : ∀ x ∈ steadyChars, 97 ≤ x.toNat →
      lowerChar (capital x) = [x] ∧ capital x ≠ 'Σ' :=
    List.all_iff_forall_prop.mp (by decide +kernel)
  have hc : lowerChar c = [c.toLower] ∧ c ≠ 'Σ' := by
    rcases toLower_cases c with hsame | ⟨hsame, hletter⟩
    · rw [hsame] at h ⊢
      exact hself c h
    · obtain ⟨hlower, hne⟩ := hcapital _ h hletter
      rw [← hsame] at hlower hne
      exact ⟨hlower, hne⟩
  simp [lowerBetween, hc.1, hc.2]

theorem lowerFrom_of_steady {before cs : List Char}
    (h : ∀ x ∈ lowerFrom before cs, x ∈ steadyChars) :
    lowerFrom before cs = cs.map Char.toLower := by
  induction cs generalizing before with
  | nil => rfl
  | cons c cs ih =>
    rw [lowerFrom] at h ⊢
    obtain ⟨hfirst, hrest⟩ := List.forall_mem_append.mp h
    rw [lowerBetween_of_steady hfirst, ih hrest]
    rfl

theorem lowerFrom_of_toLower {before cs : List Char} (h : ∀ c ∈ cs, c.toLower ∈ steadyChars) :
    lowerFrom before cs = cs.map Char.toLower := by
  induction cs generalizing before with
  | nil => rfl
  | cons c cs ih =>
    obtain ⟨hfirst, hrest⟩ := List.forall_mem_cons.mp h
    rw [lowerFrom, lowerBetween_of_toLower hfirst, ih hrest]
    rfl

theorem lower_eq_iff_toLower {s word : String} (hword : ∀ x ∈ word.toList, x ∈ steadyChars) :
    lower s = word ↔ s.toLower = word := by
  have hlower : lower s = word ↔ lowerFrom [] s.toList = word.toList := by
    rw [← String.toList_inj, lower, String.toList_ofList]
  have hascii : s.toLower = word ↔ s.toList.map Char.toLower = word.toList := by
    rw [← String.toList_inj, toList_toLower]
  rw [hlower, hascii]
  constructor
  · intro h
    rw [← lowerFrom_of_steady (h ▸ hword), h]
  · intro h
    rw [lowerFrom_of_toLower, h]
    exact List.forall_mem_map.mp (h ▸ hword)

theorem toNat_lt_of_toLower {c : Char} (h : c.toLower ∈ steadyChars) : c.toNat < 128 := by
  have hall : ∀ x ∈ steadyChars, x.toNat < 128 ∧ (capital x).toNat < 128 :=
    List.all_iff_forall_prop.mp (by decide)
  rcases toLower_cases c with hsame | ⟨hsame, -⟩
  · exact (hall c (hsame ▸ h)).1
  · rw [hsame]
    exact (hall _ h).2

/-- A text that spells such a word is one of ASCII. -/
theorem toNat_lt_of_mem {s word : String} (hword : ∀ x ∈ word.toList, x ∈ steadyChars)
    (h : s.toLower = word) {c : Char} (hc : c ∈ s.toList) : c.toNat < 128 := by
  refine toNat_lt_of_toLower (hword _ ?_)
  rw [← h, toList_toLower]
  exact List.mem_map_of_mem hc

end Preflight.Text
