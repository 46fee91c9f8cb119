import Mathlib.Algebra.Group.Nat.Defs
import Preflight.Text.Digits
import Preflight.Text.Quoted

/-! Numbers written in digits and read again: the digits of a number have its value, in any base up
to sixteen, and zeros in front of them do not count. -/
namespace Preflight.Text

variable {base n : Nat}

/-- The digits of a number are one digit, or those of a smaller number and one more. -/
theorem toDigits_induction {motive : Nat → List Char → Prop} (hone : 1 < base)
    (single : ∀ d < base, motive d [d.digitChar])
    (more : ∀ q d ds, 0 < q → d < base → motive q ds → motive (base * q + d) (ds ++ [d.digitChar]))
    (n : Nat) : motive n (Nat.toDigits base n) := by
  induction n using Nat.strongRecOn with
  | ind n ih =>
    rw [Nat.toDigits_eq_if hone]
    split
    next hlt => exact single n hlt
    next hge =>
      have hdigit := Nat.mod_lt n (by omega : base > 0)
      have hstep := more (n / base) (n % base) _ (Nat.div_pos (by omega) (by omega)) hdigit
        (ih (n / base) (Nat.div_lt_self (by omega) hone))
      rwa [Nat.div_add_mod] at hstep

theorem hexValue?_digitChar (h : n < 16) : hexValue? n.digitChar = some n := by
  have hall : ∀ d < 16, hexValue? (Nat.digitChar d) = some d := by decide
  exact hall n h

theorem valueIn_toDigits (hone : 1 < base) (hbase : base ≤ 16) (n : Nat) :
    valueIn base (Nat.toDigits base n) = n := by
  have hvalue : ∀ d < base, (hexValue? d.digitChar).getD 0 = d := fun d hd => by
    rw [hexValue?_digitChar (Nat.lt_of_lt_of_le hd hbase), Option.getD_some]
  refine toDigits_induction (motive := fun n ds => valueIn base ds = n) hone ?_ ?_ n
  · intro d hd
    have hsingle := valueIn_append base [] d.digitChar
    rw [hvalue d hd] at hsingle
    simpa [valueIn] using hsingle
  · intro q d ds _ hd ih
    rw [valueIn_append, ih, hvalue d hd]

theorem mem_toDigits (hone : 1 < base) (n : Nat) :
    ∀ c ∈ Nat.toDigits base n, ∃ d < base, c = d.digitChar := by
  refine toDigits_induction (motive := fun _ ds => ∀ c ∈ ds, ∃ d < base, c = d.digitChar) hone
    ?_ ?_ n
  · intro d hd c hc
    exact ⟨d, hd, List.mem_singleton.mp hc⟩
  · intro q d ds _ hd ih c hc
    rcases List.mem_append.mp hc with hc | hc
    · exact ih c hc
    · exact ⟨d, hd, List.mem_singleton.mp hc⟩

/-- Digits do not begin with a zero unless it is the only one. -/
theorem exists_toDigits (hone : 1 < base) (hpos : 0 < n) :
    ∃ c cs, Nat.toDigits base n = c :: cs ∧ c ≠ '0' := by
  refine toDigits_induction (motive := fun n ds => 0 < n → ∃ c cs, ds = c :: cs ∧ c ≠ '0') hone
    ?_ ?_ n hpos
  · intro d _ hd
    exact ⟨d.digitChar, [], rfl, fun hzero => Nat.ne_of_gt hd (Nat.digitChar_eq_zero.mp hzero)⟩
  · intro q d ds hq _ ih _
    obtain ⟨c, cs, rfl, hc⟩ := ih hq
    exact ⟨c, cs ++ [d.digitChar], rfl, hc⟩

/-! ## Hexadecimal digits with zeros in front -/

theorem valueIn_zeros (base count : Nat) (ds : List Char) :
    valueIn base (List.replicate count '0' ++ ds) = valueIn base ds := by
  induction count with
  | zero => rfl
  | succ count ih =>
    rw [List.replicate_succ, List.cons_append, ← ih]
    rfl

theorem hexDigits_eq_append (width n : Nat) : hexDigits width n =
    List.replicate (width - (Nat.toDigits 16 n).length) '0' ++ Nat.toDigits 16 n := rfl

theorem length_hexDigits {width : Nat} (hwidth : 0 < width) (h : n < 16 ^ width) :
    (hexDigits width n).length = width := by
  have hlength := (Nat.length_toDigits_le_iff (by decide) hwidth).mpr h
  rw [hexDigits_eq_append, List.length_append, List.length_replicate]
  omega

theorem valueIn_hexDigits (width n : Nat) : valueIn 16 (hexDigits width n) = n := by
  rw [hexDigits_eq_append, valueIn_zeros, valueIn_toDigits (by decide) (by decide)]

theorem mem_hexDigits (width n : Nat) : ∀ c ∈ hexDigits width n, ∃ d < 16, c = d.digitChar := by
  intro c hc
  rw [hexDigits_eq_append] at hc
  rcases List.mem_append.mp hc with hc | hc
  · exact ⟨0, by decide, List.eq_of_mem_replicate hc⟩
  · exact mem_toDigits (by decide) n c hc

end Preflight.Text
