import Mathlib.Logic.Function.Basic
import Preflight.Coercion

/-! Units and their codes. A code is a base unit's own, or has the symbol of a scale in front; both
are written in the same letters, and yet no text is both. What is read is what was written, but for
a scaled unity: it has a code like any other, and no text is read as one. -/
namespace Preflight

namespace BaseUnit
variable {s : String} {u : BaseUnit}

theorem ofCode?_eq_some_iff : ofCode? s = some u ↔ u.code = s :=
  ⟨code_eq_of_ofCode?, fun h => h ▸ ofCode?_code u⟩

theorem code_injective : Function.Injective code := fun u _ h =>
  Option.some.inj ((ofCode?_code u).symm.trans (ofCode?_eq_some_iff.mpr h.symm))

end BaseUnit

namespace Scale

theorem ofSymbol?_eq_some_iff {t : String} {s : Scale} : ofSymbol? t = some s ↔ s.symbol = t :=
  ⟨symbol_eq_of_ofSymbol?, fun h => h ▸ ofSymbol?_symbol s⟩

/-- All scales but one have a symbol of one character, which begins no code of a base unit. -/
theorem exists_symbol {s : Scale} (h : s ≠ .plain) : ∃ c, s.symbol = .singleton c ∧
    ∀ u : BaseUnit, u.code.toList.head? ≠ some c := by
  cases s with
  | plain => exact absurd rfl h
  | nano => exact ⟨'n', rfl, fun u => by cases u <;> decide⟩
  | micro => exact ⟨'u', rfl, fun u => by cases u <;> decide⟩
  | milli => exact ⟨'m', rfl, fun u => by cases u <;> decide⟩
  | kilo => exact ⟨'k', rfl, fun u => by cases u <;> decide⟩
  | mega => exact ⟨'M', rfl, fun u => by cases u <;> decide⟩
  | giga => exact ⟨'G', rfl, fun u => by cases u <;> decide⟩

theorem symbol_plain_ne (c : Char) : plain.symbol ≠ .singleton c := fun h => by
  have hlength := congrArg String.length h
  simp [symbol] at hlength

end Scale

namespace ScaledUnit
variable {u v : ScaledUnit} {s : String}

theorem isLegal_of_plain (h : u.scale = .plain) : u.IsLegal := fun _ => h

theorem code_of_plain (h : u.scale = .plain) : u.code = u.base.code := by
  simp [code, h, Scale.symbol]

theorem code_ofBase (b : BaseUnit) : (ofBase b).code = b.code := code_of_plain rfl

theorem toList_code_of_scaled {c : Char} (h : u.scale.symbol = .singleton c) :
    u.code.toList = c :: u.base.code.toList := by
  simp [code, h]

/-- No code with a scale in front is a base unit's own. -/
theorem code_ne_of_scaled (h : u.scale ≠ .plain) (b : BaseUnit) : u.code ≠ b.code := by
  obtain ⟨c, hsymbol, hhead⟩ := Scale.exists_symbol h
  intro heq
  refine hhead b ?_
  rw [← heq, toList_code_of_scaled hsymbol, List.head?_cons]

theorem ofScaledCode?_eq_some_iff {cs : List Char} : ofScaledCode? cs = some u ↔
    u.code.toList = cs ∧ u.scale ≠ .plain ∧ u.base ≠ .unity := by
  constructor
  · intro h
    cases cs with
    | nil => cases h
    | cons c rest =>
      rw [ofScaledCode?] at h
      split at h
      next base scale hbase hscale =>
        split at h
        next => cases h
        next hunity =>
          cases h
          rw [BaseUnit.ofCode?_eq_some_iff] at hbase
          rw [Scale.ofSymbol?_eq_some_iff] at hscale
          refine ⟨?_, ?_, hunity⟩
          · rw [toList_code_of_scaled hscale, hbase, String.toList_ofList]
          · rintro rfl
            exact Scale.symbol_plain_ne c hscale
      next => cases h
  · rintro ⟨rfl, hscale, hunity⟩
    obtain ⟨c, hsymbol, -⟩ := Scale.exists_symbol hscale
    have hread : Scale.ofSymbol? (.singleton c) = some u.scale :=
      Scale.ofSymbol?_eq_some_iff.mpr hsymbol
    rw [toList_code_of_scaled hsymbol, ofScaledCode?, String.ofList_toList, BaseUnit.ofCode?_code,
      hread]
    exact if_neg hunity

/-- No text is read in both ways. -/
theorem ofScaledCode?_of_ofCode? {b : BaseUnit} (h : BaseUnit.ofCode? s = some b) :
    ofScaledCode? s.toList = none := by
  refine Option.eq_none_iff_forall_not_mem.mpr fun u hu => ?_
  obtain ⟨hcode, hscale, -⟩ := ofScaledCode?_eq_some_iff.mp hu
  refine code_ne_of_scaled hscale b ?_
  rw [String.toList_inj.mp hcode, BaseUnit.ofCode?_eq_some_iff.mp h]

theorem ofCode?_of_legal (h : u.IsLegal) : ofCode? u.code = some u := by
  by_cases hscale : u.scale = .plain
  · rw [ofCode?, code_of_plain hscale, BaseUnit.ofCode?_code]
    exact congrArg some (show (⟨u.base, .plain⟩ : ScaledUnit) = u by rw [← hscale])
  · have hbase : BaseUnit.ofCode? u.code = none :=
      Option.eq_none_iff_forall_not_mem.mpr fun b hb =>
        code_ne_of_scaled hscale b (BaseUnit.ofCode?_eq_some_iff.mp hb).symm
    rw [ofCode?, hbase]
    exact ofScaledCode?_eq_some_iff.mpr ⟨rfl, hscale, fun hunity => hscale (h hunity)⟩

theorem ofCode?_eq_some_iff : ofCode? s = some u ↔ u.code = s ∧ u.IsLegal := by
  constructor
  · intro h
    rw [ofCode?] at h
    split at h
    next base hbase =>
      cases h
      exact ⟨(code_ofBase base).trans (BaseUnit.ofCode?_eq_some_iff.mp hbase),
        isLegal_of_plain rfl⟩
    next =>
      obtain ⟨hcode, -, hunity⟩ := ofScaledCode?_eq_some_iff.mp h
      exact ⟨String.toList_inj.mp hcode, fun h => absurd h hunity⟩
  · rintro ⟨rfl, h⟩
    exact ofCode?_of_legal h

/-- Legal units have different codes. -/
theorem eq_of_code_eq (hu : u.IsLegal) (hv : v.IsLegal) (h : u.code = v.code) : u = v :=
  Option.some.inj ((ofCode?_of_legal hu).symm.trans (h ▸ ofCode?_of_legal hv))

theorem parse_eq_ok_iff {given : Value} (h : given.text? = some s) :
    parse given = .ok u ↔ u.code = s ∧ u.IsLegal := by
  rw [← ofCode?_eq_some_iff]
  simp only [parse, h]
  cases ofCode? s <;> simp

theorem parse_of_no_code {given : Value} (h : given.text? = some s)
    (hs : ∀ u : ScaledUnit, u.IsLegal → u.code ≠ s) : parse given = .error (.unknownUnit given) := by
  have hnone : ofCode? s = none := Option.eq_none_iff_forall_not_mem.mpr fun u hu => by
    obtain ⟨hcode, hlegal⟩ := ofCode?_eq_some_iff.mp hu
    exact hs u hlegal hcode
  simp only [parse, h, hnone]

/-- A text is either a code or unknown. -/
theorem kind_of_ofValue_error {given : Value} {f : Fault}
    (h : ofValue given = .error f) : f.kind = "ValueError" := by
  unfold ofValue at h
  split at h
  · cases h
  · cases h
  · split at h
    · rename_i htext
      obtain ⟨code, hcode⟩ := Option.isSome_iff_exists.mp htext
      simp only [parse, hcode] at h
      split at h <;> cases h
      rfl
    · cases h
      rfl

/-- A text is read as the legal unit whose code it is, and refused if there is none. It has one
reading at most, in one way at most, and no two legal units are written alike. -/
theorem parse_iff_code {given : Value} (h : given.text? = some s) :
    (∀ u, parse given = .ok u ↔ u.code = s ∧ u.IsLegal) ∧
    ((∀ u : ScaledUnit, u.IsLegal → u.code ≠ s) →
      parse given = .error (.unknownUnit given) ∧
        (Fault.unknownUnit given).kind = "ValueError" ∧
        (Fault.unknownUnit given).message = "Unknown unit: " ++ given.display) ∧
    (BaseUnit.ofCode? s = none ∨ ofScaledCode? s.toList = none) ∧
    ∀ u v : ScaledUnit, u.IsLegal → v.IsLegal → u.code = v.code → u = v := by
  refine ⟨fun u => parse_eq_ok_iff h, fun hs => ⟨parse_of_no_code h hs, rfl, rfl⟩, ?_,
    fun u v => eq_of_code_eq⟩
  cases hbase : BaseUnit.ofCode? s with
  | none => exact Or.inl rfl
  | some b => exact Or.inr (ofScaledCode?_of_ofCode? hbase)

/-- A code that begins with the code of another unit. -/
theorem parse_iff_code_kilowattHour :
    (Value.text "kW.h").text? = some "kW.h" ∧
      parse (.text "kW.h") = .ok ⟨.wattHour, .kilo⟩ ∧
      ∀ u : ScaledUnit, u.IsLegal → u.code = "kW.h" → u = ⟨.wattHour, .kilo⟩ := by
  have htext : (Value.text "kW.h").text? = some "kW.h" := rfl
  have hlegal : IsLegal ⟨.wattHour, .kilo⟩ := by decide
  obtain ⟨hread, -, -, hcode⟩ := parse_iff_code htext
  exact ⟨htext, (hread _).mpr ⟨rfl, hlegal⟩, fun u hu h => hcode u _ hu hlegal h⟩

/-- A scaled unity is written, and not read. -/
example : parse (.text (code ⟨.unity, .kilo⟩)) = .error (.unknownUnit (.text "k1")) := rfl

end ScaledUnit
end Preflight
