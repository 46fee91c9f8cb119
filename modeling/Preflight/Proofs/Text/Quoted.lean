import Mathlib.Logic.Function.Basic
import Mathlib.Tactic.SplitIfs
import Preflight.Proofs.Text.Digits

/-! Quoted texts. What is written for a character tells where it ends and which character it stands
for, so different texts are quoted differently. -/
namespace Preflight.Text
variable {mark c d : Char} {xs ys s t : List Char}

/-- How many digits an escape has behind its letter. -/
def escapeWidth (letter : Char) : Nat :=
  if letter = 'x' then 2 else if letter = 'u' then 4 else if letter = 'U' then 8 else 0

/-- The character that an escape stands for. -/
def escapedChar (letter : Char) (digits : List Char) : Char :=
  if 0 < escapeWidth letter then Char.ofNat (valueIn 16 digits)
  else if letter = 'n' then '\n'
  else if letter = 'r' then '\r'
  else if letter = 't' then '\t'
  else letter

/-- The characters are an escape that stands for `c`. -/
def Escapes (c : Char) (cs : List Char) : Prop :=
  ∃ letter digits, cs = '\\' :: letter :: digits ∧ digits.length = escapeWidth letter ∧
    escapedChar letter digits = c

theorem escapes_letter {letter : Char} (hwidth : escapeWidth letter = 0)
    (h : escapedChar letter [] = c) : Escapes c ['\\', letter] :=
  ⟨letter, [], rfl, hwidth.symm, h⟩

theorem escapes_digits {letter : Char} {width n : Nat} (hletter : escapeWidth letter = width)
    (hwidth : 0 < width) (h : n < 16 ^ width) :
    Escapes (Char.ofNat n) ('\\' :: letter :: hexDigits width n) := by
  refine ⟨letter, hexDigits width n, rfl, ?_, ?_⟩
  · rw [length_hexDigits hwidth h, hletter]
  · rw [escapedChar, hletter, if_pos hwidth, valueIn_hexDigits]

theorem escapes_escapeCode {n : Nat} (h : n < 0x110000) :
    Escapes (Char.ofNat n) (escapeCode n) := by
  unfold escapeCode
  split
  next hshort => exact escapes_digits rfl (by decide) hshort
  next =>
    split
    next hmiddle => exact escapes_digits rfl (by decide) hmiddle
    next => exact escapes_digits rfl (by decide) (by omega)

/-- A character stands for itself, unless it is the bar that all escapes begin with; or it is
written as an escape. -/
theorem escapeChar_cases (hmark : mark = '\'' ∨ mark = '"') (c : Char) :
    escapeChar mark c = [c] ∧ c ≠ '\\' ∨ Escapes c (escapeChar mark c) := by
  rw [escapeChar]
  split_ifs with hself hline hreturn htab hshown
  · right
    rw [Bool.or_eq_true, decide_eq_true_eq, decide_eq_true_eq] at hself
    rcases hself with rfl | rfl
    · rcases hmark with rfl | rfl <;> exact escapes_letter (by decide) (by decide)
    · exact escapes_letter (by decide) (by decide)
  · exact .inr (hline ▸ escapes_letter (by decide) (by decide))
  · exact .inr (hreturn ▸ escapes_letter (by decide) (by decide))
  · exact .inr (htab ▸ escapes_letter (by decide) (by decide))
  · exact .inl ⟨rfl, fun h => hself (by simp [h])⟩
  · have hvalid : c.toNat < 0xd800 ∨ 0xdfff < c.toNat ∧ c.toNat < 0x110000 := c.valid
    have hcode := escapes_escapeCode (n := c.toNat) (by omega)
    rw [Char.ofNat_toNat] at hcode
    exact .inr hcode

theorem Escapes.append_inj {cs ds : List Char} (hc : Escapes c cs) (hd : Escapes d ds)
    (h : cs ++ xs = ds ++ ys) : c = d ∧ xs = ys := by
  obtain ⟨letter, digits, rfl, hlength, rfl⟩ := hc
  obtain ⟨letter', digits', rfl, hlength', rfl⟩ := hd
  simp only [List.cons_append, List.cons.injEq, true_and] at h
  obtain ⟨rfl, h⟩ := h
  obtain ⟨rfl, rfl⟩ := List.append_inj h (hlength.trans hlength'.symm)
  exact ⟨rfl, rfl⟩

theorem Escapes.append_ne {cs : List Char} (h : Escapes c cs) (hd : d ≠ '\\') :
    cs ++ xs ≠ d :: ys := by
  obtain ⟨letter, digits, rfl, -⟩ := h
  exact fun heq => hd (List.cons.inj heq).1.symm

theorem escapeChar_append_inj (hmark : mark = '\'' ∨ mark = '"')
    (h : escapeChar mark c ++ xs = escapeChar mark d ++ ys) : c = d ∧ xs = ys := by
  rcases escapeChar_cases hmark c with ⟨hc, hbar⟩ | hc
  · rcases escapeChar_cases hmark d with ⟨hd, -⟩ | hd
    · rw [hc, hd] at h
      exact List.cons.inj h
    · rw [hc] at h
      exact absurd h.symm (hd.append_ne hbar)
  · rcases escapeChar_cases hmark d with ⟨hd, hbar⟩ | hd
    · rw [hd] at h
      exact absurd h (hc.append_ne hbar)
    · exact hc.append_inj hd h

theorem escapeChar_ne_nil (hmark : mark = '\'' ∨ mark = '"') (c : Char) :
    escapeChar mark c ≠ [] := by
  rcases escapeChar_cases hmark c with ⟨hc, -⟩ | ⟨letter, digits, hc, -⟩
  · rw [hc]
    exact List.cons_ne_nil _ _
  · rw [hc]
    exact List.cons_ne_nil _ _

theorem flatMap_escapeChar_inj (hmark : mark = '\'' ∨ mark = '"')
    (h : s.flatMap (escapeChar mark) = t.flatMap (escapeChar mark)) : s = t := by
  induction s generalizing t with
  | nil =>
    cases t with
    | nil => rfl
    | cons d t =>
      exact absurd (List.append_eq_nil_iff.mp h.symm).1 (escapeChar_ne_nil hmark d)
  | cons c s ih =>
    cases t with
    | nil => exact absurd (List.append_eq_nil_iff.mp h).1 (escapeChar_ne_nil hmark c)
    | cons d t =>
      obtain ⟨rfl, hrest⟩ := escapeChar_append_inj hmark h
      rw [ih hrest]

theorem quote_injective : Function.Injective quote := by
  intro s t h
  have hchars : quoteChars s.toList = quoteChars t.toList := by
    simpa [quote] using congrArg String.toList h
  obtain ⟨hmark, hrest⟩ := List.cons.inj hchars
  rw [hmark] at hrest
  have hbody := (List.append_inj' hrest rfl).1
  exact String.toList_inj.mp (flatMap_escapeChar_inj (quoteMark_eq t.toList) hbody)

end Preflight.Text
