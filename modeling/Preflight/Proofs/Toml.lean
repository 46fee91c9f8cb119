import Mathlib.Data.List.Basic
import Preflight.Toml.Document

/-! Texts that are no TOML value: what no value begins with is none, and neither is the infinite
number with more behind it. -/
namespace Preflight.Toml
open Text (isDigit)

/-- The characters that begin a value, the infinite number in small letters apart. -/
def opening : List Char := "[\x7b\"'0123456789+-tfn".toList

theorem isDigit_of_closed {c : Char} (h : c ∉ opening) : isDigit c = false := by
  by_contra hdigit
  have hdigits : ∀ n : Fin 128, isDigit (Char.ofNat n) = true → Char.ofNat n ∈ opening := by
    decide +kernel
  rw [Bool.not_eq_false, isDigit, Bool.and_eq_true, decide_eq_true_eq, decide_eq_true_eq] at hdigit
  have hlt : c.toNat < 128 := Nat.lt_of_le_of_lt hdigit.2 (by decide)
  have hc : Char.ofNat c.toNat = c := Char.ofNat_toNat c
  refine h (hc ▸ hdigits ⟨c.toNat, hlt⟩ ?_)
  simp [hc, isDigit, hdigit]

variable {c : Char} {cs rest : List Char}

theorem readCount_of_closed (h : c ∉ opening) (count : Nat) :
    readCount (count + 1) (c :: cs) = none := by
  simp [readCount, isDigit_of_closed h]

theorem readMoment_of_closed (h : c ∉ opening) : readMoment (c :: cs) = none := by
  simp [readMoment, readDate, readTime, readHourMinute, readCount_of_closed h]

theorem readText_of_closed (h : c ∉ opening) : readText (c :: cs) = none := by
  unfold readText
  split
  case h_5 => rfl
  all_goals
    rename_i heq
    exact (h ((List.cons.inj heq).1 ▸ by decide)).elim

theorem readDecimal_of_closed (h : c ∉ opening) (negative : Bool) :
    readDecimal negative (c :: cs) = none := by
  have hwhole : readWhole (c :: cs) = none := by
    unfold readWhole
    split
    · rename_i heq
      exact (h ((List.cons.inj heq).1 ▸ by decide)).elim
    · rw [readDigits, isDigit_of_closed h]
      rfl
  rw [readDecimal, hwhole]
  rfl

theorem readNumber_of_closed (h : c ∉ opening) {d : Datum} :
    readNumber (c :: cs) = some (d, rest) → c = 'i' ∧ cs = 'n' :: 'f' :: rest := by
  intro hread
  have hsign : readSign (c :: cs) = (false, c :: cs) := by
    unfold readSign
    split
    case h_3 => rfl
    all_goals
      rename_i heq
      exact (h ((List.cons.inj heq).1 ▸ by decide)).elim
  unfold readNumber at hread
  split at hread
  case h_4 =>
    rw [hsign] at hread
    split at hread
    · rename_i heq
      cases heq
      cases hread
      exact ⟨rfl, rfl⟩
    · rename_i heq
      cases heq
      exact (h (by decide)).elim
    · rename_i heq
      cases heq
      rw [readDecimal_of_closed h] at hread
      cases hread
  all_goals
    rename_i heq
    exact (h ((List.cons.inj heq).1 ▸ by decide)).elim

theorem readValue_of_closed (h : c ∉ opening) {n : Nat} {d : Datum}
    (hread : readValue n (c :: cs) = some (d, rest)) : c = 'i' ∧ cs = 'n' :: 'f' :: rest := by
  cases n with
  | zero => cases hread
  | succ n =>
    unfold readValue at hread
    split at hread
    case h_5 =>
      rw [readText_of_closed h, readMoment_of_closed h] at hread
      exact readNumber_of_closed h hread
    all_goals
      rename_i heq
      exact (h ((List.cons.inj heq).1 ▸ by decide)).elim

theorem plainLineBreaks_of_not_mem {cs : List Char} (h : '\r' ∉ cs) : plainLineBreaks cs = cs := by
  induction cs with
  | nil => rfl
  | cons c cs ih =>
    obtain ⟨hc, hcs⟩ := not_or.mp (mt List.mem_cons.mpr h)
    unfold plainLineBreaks
    split
    · rename_i heq
      exact (hc (List.cons.inj heq).1.symm).elim
    · rename_i heq
      cases heq
      rw [ih hcs]
    · rename_i heq
      cases heq

theorem readStatement_key (d : Document) (cs : List Char) :
    d.readStatement ('k' :: 'e' :: 'y' :: '=' :: cs) =
      (readValue (2 * cs.length + 2) (skipBlanks cs)).bind fun x =>
        (d.setKey ["key"] x.1).bind fun d => some (d, skipBlanks x.2) := by
  have hkey : readKey (('k' :: 'e' :: 'y' :: '=' :: cs).length + 1)
      ('k' :: 'e' :: 'y' :: '=' :: cs) = some (["key"], '=' :: cs) := rfl
  unfold Document.readStatement
  split
  case h_3 =>
    rw [hkey]
    rfl
  all_goals
    rename_i heq
    cases heq

/-- The first line of a text that sets a key, and the lines after it. -/
theorem readLines_key (n : Nat) (cs : List Char) :
    Document.readLines (n + 1) {} ('k' :: 'e' :: 'y' :: '=' :: cs) =
      (Document.readStatement {} ('k' :: 'e' :: 'y' :: '=' :: cs)).bind fun x =>
        (Document.endLine x.2).bind fun rest =>
          match rest with
          | [] => some x.1
          | _ :: rest => Document.readLines n x.1 rest := rfl

/-- A text is no value when nothing in it begins one, or more follows on the line. -/
theorem read?_of_closed {s : String} (hs : s.toList = c :: cs) (hbreak : '\r' ∉ s.toList)
    (hblank : isBlank c = false) (h : c ∉ opening)
    (hmore : ∀ rest, c = 'i' → cs = 'n' :: 'f' :: rest →
      Document.endLine (skipBlanks rest) = none) : read? s = none := by
  have hkey : "key=".toList ++ s.toList = 'k' :: 'e' :: 'y' :: '=' :: c :: cs := by
    rw [hs]
    rfl
  have hbreaks : plainLineBreaks ("key=".toList ++ s.toList) =
      'k' :: 'e' :: 'y' :: '=' :: c :: cs := by
    rw [plainLineBreaks_of_not_mem, hkey]
    simpa [hs] using hbreak
  have hskip : skipBlanks (c :: cs) = c :: cs := by simp [skipBlanks, hblank]
  have hread : ∀ d rest, Document.readStatement {} ('k' :: 'e' :: 'y' :: '=' :: c :: cs) =
      some (d, rest) → Document.endLine rest = none := by
    intro d rest hstatement
    rw [readStatement_key, hskip, Option.bind_eq_some_iff] at hstatement
    obtain ⟨⟨value, more⟩, hvalue, hset⟩ := hstatement
    obtain ⟨d', -, heq⟩ := Option.bind_eq_some_iff.mp hset
    cases heq
    obtain ⟨hc, hcs⟩ := readValue_of_closed h hvalue
    exact hmore more hc hcs
  have hdocument : readDocument? ("key=".toList ++ s.toList) = none := by
    rw [readDocument?, hbreaks, readLines_key]
    cases hstatement : Document.readStatement {} ('k' :: 'e' :: 'y' :: '=' :: c :: cs) with
    | none => rfl
    | some found =>
      rw [Option.bind_some, hread found.1 found.2 hstatement]
      rfl
  rw [read?, hdocument]
  rfl

end Preflight.Toml
