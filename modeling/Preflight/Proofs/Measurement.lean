import Preflight.Coercion
import Preflight.Proofs.Text.Ascii

/-! Which values name a kind of measurement. A text names one by its code, whatever the case of its
letters; case is that of all scripts, and yet no letter beyond ASCII stands for one of a code. -/
namespace Preflight.Measurement

/-- The kind itself, the type of the values that are measured, or the code in letters of ASCII. -/
inductive Names : Value → Measurement → Prop where
  | member (m : Measurement) : Names (.measurement m) m
  | flag : Names (.type (.builtin "bool")) .bool
  | whole : Names (.type (.builtin "int")) .u64
  | real : Names (.type (.builtin "float")) .f64
  | spelled {v : Value} {s : String} {m : Measurement} (text : v.text? = some s)
      (code : s.toLower = m.code) : Names v m

variable {v : Value} {m : Measurement} {s : String} {f : Fault}

theorem ofCode?_eq_some_iff : ofCode? s = some m ↔ m.code = s :=
  ⟨code_eq_of_ofCode?, fun h => h ▸ ofCode?_code m⟩

theorem mem_code_steady (m : Measurement) : ∀ x ∈ m.code.toList, x ∈ Text.steadyChars := by
  cases m <;> exact List.all_iff_forall_prop.mp (by decide)

theorem ofCode?_lower_eq_some_iff : ofCode? (Text.lower s) = some m ↔ s.toLower = m.code := by
  rw [ofCode?_eq_some_iff, eq_comm, Text.lower_eq_iff_toLower (mem_code_steady m)]

theorem names_of_ofTypeRef? {t : TypeRef} (h : ofTypeRef? t = some m) : Names (.type t) m := by
  unfold ofTypeRef? at h
  split at h <;> cases h
  · exact .flag
  · exact .whole
  · exact .real

/-- A kind is read as its code would be. -/
theorem ofValue_of_text (h : v.text? = some s) : ofValue v =
    match ofCode? (Text.lower s) with
    | some m => .ok m
    | none => .error (.unknownMeasurement (Text.lower s)) := by
  cases v with
  | measurement m =>
    cases h
    have hself : ofCode? (Text.lower m.code) = some m := by
      refine ofCode?_lower_eq_some_iff.mpr ?_
      cases m <;> decide +kernel
    rw [hself]
    rfl
  | text s | base u | checkpoint c =>
    cases h
    rfl
  | _ => cases h

theorem ofValue_eq_ok_iff : ofValue v = .ok m ↔ Names v m := by
  constructor
  · intro h
    unfold ofValue at h
    split at h
    next =>
      cases h
      exact .member m
    next =>
      split at h
      next hread =>
        cases h
        exact names_of_ofTypeRef? hread
      next => cases h
    next =>
      split at h
      next htext =>
        split at h
        next hcode =>
          cases h
          exact .spelled htext (ofCode?_lower_eq_some_iff.mp hcode)
        next => cases h
      next => cases h
  · intro h
    cases h with
    | member | flag | whole | real => rfl
    | spelled text code => rw [ofValue_of_text text, ofCode?_lower_eq_some_iff.mpr code]

theorem kind_of_ofValue_error (h : ofValue v = .error f) : f.kind = "ValueError" := by
  unfold ofValue at h
  split at h
  · cases h
  · split at h <;> cases h
    rfl
  · split at h
    · split at h <;> cases h
      rfl
    · cases h
      rfl

theorem toNat_lt_of_names (htext : v.text? = some s) (h : Names v m) {c : Char}
    (hc : c ∈ s.toList) : c.toNat < 128 := by
  have hcode : ofCode? (Text.lower s) = some m := by
    have hread := ofValue_eq_ok_iff.mpr h
    rw [ofValue_of_text htext] at hread
    split at hread
    next hsome =>
      cases hread
      exact hsome
    next => cases hread
  exact Text.toNat_lt_of_mem (mem_code_steady m) (ofCode?_lower_eq_some_iff.mp hcode) hc

/-- A value is read as the kind that it names, and refused if it names none. A text that names one
is all ASCII, and what was read is read as itself. -/
theorem ofValue_iff_names (v : Value) :
    (∀ m, ofValue v = .ok m ↔ Names v m) ∧
    ((∀ m, ¬ Names v m) → ∃ f, ofValue v = .error f ∧ f.kind = "ValueError") ∧
    (∀ s m, v.text? = some s → ofValue v = .ok m → ∀ c ∈ s.toList, c.toNat < 128) ∧
    ∀ m, ofValue v = .ok m → ofValue (.measurement m) = .ok m := by
  refine ⟨fun m => ofValue_eq_ok_iff, fun h => ?_, fun s m htext hread c hc => ?_,
    fun m _ => ofValue_measurement m⟩
  · cases hread : ofValue v with
    | ok m => exact absurd (ofValue_eq_ok_iff.mp hread) (h m)
    | error f => exact ⟨f, rfl, kind_of_ofValue_error hread⟩
  · exact toNat_lt_of_names htext (ofValue_eq_ok_iff.mp hread) hc

/-- A capital with a dot becomes two characters in lower case. -/
example : ofValue (.text "I64") = .ok .i64 ∧
    ofValue (.text "İ64") = .error (.unknownMeasurement "i̇64") := ⟨rfl, rfl⟩

end Preflight.Measurement
