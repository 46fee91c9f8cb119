import Mathlib.Data.Char
import Preflight.Json.Reader
import Preflight.Json.Writer
import Preflight.Proofs.Text.Digits

/-! Texts in JSON. A character that is escaped is read back from its escape, one beyond the first
plane from the two units that it has in UTF-16; and what is written is printable ASCII alone. -/
namespace Preflight.Json
open Text (hexDigits hexValue? valueIn)

/-- A character of printable ASCII. -/
def IsPlain (c : Char) : Prop := ' ' ≤ c ∧ c ≤ '~'

instance : DecidablePred IsPlain := fun _ => inferInstanceAs (Decidable (_ ∧ _))

/-! ## Units -/

theorem unit?_of_values {a b c d : Char} {u v w x : Nat} (ha : hexValue? a = some u)
    (hb : hexValue? b = some v) (hc : hexValue? c = some w) (hd : hexValue? d = some x) :
    unit? a b c d = some (valueIn 16 [a, b, c, d]) := by
  simp only [unit?, ha, hb, hc, hd, valueIn, List.foldl, bind, Option.bind, pure]
  congr 1
  simp only [Option.getD_some]
  omega

theorem exists_unit {n : Nat} (h : n < 0x10000) :
    ∃ a b c d, hexDigits 4 n = [a, b, c, d] ∧ unit? a b c d = some n := by
  have hlength := Text.length_hexDigits (by decide : 0 < 4) h
  obtain ⟨a, b, c, d, hdigits⟩ : ∃ a b c d, hexDigits 4 n = [a, b, c, d] := by
    match hexDigits 4 n, hlength with
    | [a, b, c, d], _ => exact ⟨a, b, c, d, rfl⟩
  have hvalue : ∀ x ∈ hexDigits 4 n, ∃ v, hexValue? x = some v := fun x hx => by
    obtain ⟨v, hv, rfl⟩ := Text.mem_hexDigits 4 n x hx
    exact ⟨v, Text.hexValue?_digitChar hv⟩
  simp only [hdigits, List.mem_cons, List.not_mem_nil, or_false, forall_eq_or_imp,
    forall_eq] at hvalue
  obtain ⟨⟨u, ha⟩, ⟨v, hb⟩, ⟨w, hc⟩, ⟨x, hd⟩⟩ := hvalue
  refine ⟨a, b, c, d, hdigits, ?_⟩
  rw [unit?_of_values ha hb hc hd, ← hdigits, Text.valueIn_hexDigits]

/-- One unit that is no half of a pair is the character of its number. -/
theorem readChars_escapeUnit {n : Nat} (h : n < 0x10000) (hhigh : isHigh n = false)
    (hlow : isLow n = false) (cs : List Char) : readChars (escapeUnit n ++ cs) =
      (readChars cs).map fun (s, r) => (Char.ofNat n :: s, r) := by
  obtain ⟨a, b, c, d, hdigits, hunit⟩ := exists_unit h
  rw [escapeUnit, hdigits]
  simp [readChars, hunit, hhigh, hlow]

/-- Two units are one character when they are the halves of a pair. -/
theorem readChars_escapePair {m n : Nat} (hm : m < 0x10000) (hn : n < 0x10000)
    (hhigh : isHigh m = true) (hlow : isLow n = true) (cs : List Char) :
    readChars (escapeUnit m ++ escapeUnit n ++ cs) = (readChars cs).map fun (s, r) =>
      (Char.ofNat (0x10000 + (m - 0xd800) * 0x400 + (n - 0xdc00)) :: s, r) := by
  obtain ⟨a, b, c, d, hdigits, hunit⟩ := exists_unit hm
  obtain ⟨e, f, g, h, hdigits', hunit'⟩ := exists_unit hn
  rw [escapeUnit, escapeUnit, hdigits, hdigits']
  simp [readChars, hunit, hunit', hhigh, hlow]

/-! ## Characters -/

theorem toNat_valid (c : Char) : c.toNat < 0xd800 ∨ 0xdfff < c.toNat ∧ c.toNat < 0x110000 := c.valid

theorem eq_of_toNat {c d : Char} (h : c.toNat = d.toNat) : c = d := by
  rw [← Char.ofNat_toNat c, h, Char.ofNat_toNat]

/-- The ways in which a character is written. -/
theorem escapeChar_cases (c : Char) :
    (∃ e, escapeChar c = ['\\', e] ∧ shortEscape? e = some c ∧ IsPlain e) ∨
    (escapeChar c = [c] ∧ c ≠ '"' ∧ c ≠ '\\' ∧ IsPlain c) ∨
    (escapeChar c = escapeUnit c.toNat ∧ c.toNat < 0x10000) ∨
    (escapeChar c = escapeUnit (0xd800 + (c.toNat - 0x10000) / 0x400) ++
      escapeUnit (0xdc00 + (c.toNat - 0x10000) % 0x400) ∧ 0x10000 ≤ c.toNat) := by
  have short : ∀ e d, escapeChar d = ['\\', e] → shortEscape? e = some d → IsPlain e → c = d →
      ∃ e, escapeChar c = ['\\', e] ∧ shortEscape? e = some c ∧ IsPlain e :=
    fun e d hescape hread hplain hc => ⟨e, hc ▸ hescape, hc ▸ hread, hplain⟩
  by_cases hquote : c = '"'
  · exact .inl (short '"' _ rfl rfl (by decide) hquote)
  by_cases hslash : c = '\\'
  · exact .inl (short '\\' _ rfl rfl (by decide) hslash)
  by_cases hline : c = '\n'
  · exact .inl (short 'n' _ rfl rfl (by decide) hline)
  by_cases hreturn : c = '\r'
  · exact .inl (short 'r' _ rfl rfl (by decide) hreturn)
  by_cases htab : c = '\t'
  · exact .inl (short 't' _ rfl rfl (by decide) htab)
  by_cases hback : c.toNat = 0x08
  · exact .inl (short 'b' '\x08' rfl rfl (by decide) (eq_of_toNat hback))
  by_cases hfeed : c.toNat = 0x0c
  · exact .inl (short 'f' '\x0c' rfl rfl (by decide) (eq_of_toNat hfeed))
  right
  simp only [escapeChar, hquote, hslash, hline, hreturn, htab, hback, hfeed, if_false]
  split
  next hbare =>
    simp only [Bool.and_eq_true, decide_eq_true_eq] at hbare
    exact .inl ⟨rfl, hquote, hslash, hbare⟩
  split
  next hunit => exact .inr (.inl ⟨rfl, hunit⟩)
  next hpair => exact .inr (.inr ⟨rfl, Nat.not_lt.mp hpair⟩)

theorem readChars_of_short {e c : Char} (h : shortEscape? e = some c) (cs : List Char) :
    readChars ('\\' :: e :: cs) = (readChars cs).map fun (s, r) => (c :: s, r) := by
  have hunit : e ≠ 'u' := by
    rintro rfl
    cases h
  rw [readChars]
  · simp [h]
  · simp [hunit]

theorem readChars_of_bare {c : Char} (hquote : c ≠ '"') (hslash : c ≠ '\\') (hplain : IsPlain c)
    (cs : List Char) : readChars (c :: cs) = (readChars cs).map fun (s, r) => (c :: s, r) := by
  have hlow : 0x20 ≤ c.toNat := hplain.1
  rw [readChars]
  · simp [Nat.not_lt.mpr hlow]
  all_goals simp_all

theorem readChars_escapeChar (c : Char) (cs : List Char) :
    readChars (escapeChar c ++ cs) = (readChars cs).map fun (s, r) => (c :: s, r) := by
  have hvalid := toNat_valid c
  rcases escapeChar_cases c with ⟨e, hc, hread, -⟩ | ⟨hc, hquote, hslash, hplain⟩ | ⟨hc, hlt⟩ |
    ⟨hc, hge⟩
  · rw [hc]
    exact readChars_of_short hread cs
  · rw [hc]
    exact readChars_of_bare hquote hslash hplain cs
  · have hhigh : isHigh c.toNat = false := by simp [isHigh]; omega
    have hlow : isLow c.toNat = false := by simp [isLow]; omega
    rw [hc, readChars_escapeUnit hlt hhigh hlow, Char.ofNat_toNat]
  · have hhigh : isHigh (0xd800 + (c.toNat - 0x10000) / 0x400) = true := by simp [isHigh]; omega
    have hlow : isLow (0xdc00 + (c.toNat - 0x10000) % 0x400) = true := by simp [isLow]; omega
    have hsum : 0x10000 + (0xd800 + (c.toNat - 0x10000) / 0x400 - 0xd800) * 0x400 +
        (0xdc00 + (c.toNat - 0x10000) % 0x400 - 0xdc00) = c.toNat := by omega
    rw [hc, readChars_escapePair (by omega) (by omega) hhigh hlow, hsum, Char.ofNat_toNat]

/-- A text is read up to the quote behind it. -/
theorem readChars_flatMap (s rest : List Char) :
    readChars (s.flatMap escapeChar ++ '"' :: rest) = some (s, rest) := by
  induction s with
  | nil => rfl
  | cons c s ih =>
    rw [List.flatMap_cons, List.append_assoc, readChars_escapeChar, ih, Option.map_some]

/-! ## Plain characters -/

theorem isPlain_digitChar {n : Nat} (h : n < 16) : IsPlain n.digitChar := by
  have hall : ∀ d < 16, IsPlain (Nat.digitChar d) := by decide
  exact hall n h

theorem isPlain_escapeUnit (n : Nat) : ∀ c ∈ escapeUnit n, IsPlain c := by
  rw [escapeUnit]
  refine List.forall_mem_cons.mpr ⟨by decide, List.forall_mem_cons.mpr ⟨by decide, fun c hc => ?_⟩⟩
  obtain ⟨d, hd, rfl⟩ := Text.mem_hexDigits 4 n c hc
  exact isPlain_digitChar hd

theorem isPlain_escapeChar (c : Char) : ∀ x ∈ escapeChar c, IsPlain x := by
  rcases escapeChar_cases c with ⟨e, hc, -, hplain⟩ | ⟨hc, -, -, hplain⟩ | ⟨hc, -⟩ | ⟨hc, -⟩
  · rw [hc]
    exact List.forall_mem_cons.mpr ⟨by decide, List.forall_mem_singleton.mpr hplain⟩
  · rw [hc]
    exact List.forall_mem_singleton.mpr hplain
  · rw [hc]
    exact isPlain_escapeUnit _
  · rw [hc]
    exact List.forall_mem_append.mpr ⟨isPlain_escapeUnit _, isPlain_escapeUnit _⟩

theorem isPlain_writeText (s : String) : ∀ c ∈ writeText s, IsPlain c := by
  have hquote : IsPlain '"' := by decide
  refine List.forall_mem_cons.mpr ⟨hquote, List.forall_mem_append.mpr ⟨fun c hc => ?_,
    List.forall_mem_singleton.mpr hquote⟩⟩
  obtain ⟨d, -, hd⟩ := List.mem_flatMap.mp hc
  exact isPlain_escapeChar d c hd

end Preflight.Json
