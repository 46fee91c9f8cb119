import Mathlib.Data.Bool.AllAny
import Preflight.Proofs.Entries
import Preflight.Proofs.Json.Escapes

/-! Data written as JSON and read again. The reader takes from the front of a text what the writer
put there, whatever follows it that does not go on with a number. -/
namespace Preflight.Json
open Text (digitsValue readDigits isDigit)

/-- Data that JSON gives back as they are. -/
inductive Lossless : Datum → Prop where
  | null : Lossless .null
  | bool (b : Bool) : Lossless (.bool b)
  | int (n : Int) : Lossless (.int n)
  | text (s : String) : Lossless (.text s)
  | list {items : List Datum} (all : ∀ d ∈ items, Lossless d) : Lossless (.list items)
  | record {fields : List (String × Datum)} (nodup : (Entries.keys fields).Nodup)
      (all : ∀ f ∈ fields, Lossless f.2) : Lossless (.record fields)

/-! ## Numbers -/

/-- What may follow a number without being taken for a part of it. -/
def EndsNumber (rest : List Char) : Prop :=
  ∀ c ∈ rest.head?, isDigit c = false ∧ c ≠ '.' ∧ c ≠ 'e' ∧ c ≠ 'E'

variable {rest : List Char}

theorem isDigit_digitChar {d : Nat} (h : d < 10) : isDigit d.digitChar = true := by
  have hall : ∀ d < 10, isDigit (Nat.digitChar d) = true := by decide
  exact hall d h

theorem readDigits_append {ds : List Char} (digits : ∀ c ∈ ds, isDigit c = true)
    (ends : EndsNumber rest) : readDigits (ds ++ rest) = (ds, rest) := by
  have hstop : rest.takeWhile isDigit = [] ∧ rest.dropWhile isDigit = rest := by
    cases rest with
    | nil => exact ⟨rfl, rfl⟩
    | cons c cs =>
      have hc := (ends c rfl).1
      simp [hc]
  rw [readDigits, List.takeWhile_append_of_pos digits, List.dropWhile_append_of_pos digits, hstop.1,
    hstop.2, List.append_nil]

theorem readWhole_toDigits (n : Nat) (ends : EndsNumber rest) :
    readWhole (Nat.toDigits 10 n ++ rest) = (Nat.toDigits 10 n, rest) := by
  have digits : ∀ c ∈ Nat.toDigits 10 n, isDigit c = true := fun c hc => by
    obtain ⟨d, hd, rfl⟩ := Text.mem_toDigits (by decide) n c hc
    exact isDigit_digitChar hd
  rcases Nat.eq_zero_or_pos n with rfl | hpos
  · rfl
  · obtain ⟨c, cs, hn, hc⟩ := Text.exists_toDigits (by decide : 1 < 10) hpos
    have hread := readDigits_append digits ends
    rw [hn] at hread ⊢
    rw [readWhole]
    · exact hread
    · intro r hr
      exact hc (List.cons.inj hr).1

theorem readFraction_of_ends (ends : EndsNumber rest) : readFraction rest = ([], rest) := by
  unfold readFraction
  split
  next r => exact absurd rfl (ends '.' rfl).2.1
  next => rfl

theorem readExponent_of_ends (ends : EndsNumber rest) : readExponent rest = none := by
  cases rest with
  | nil => rfl
  | cons c cs =>
    obtain ⟨-, -, hsmall, hlarge⟩ := ends c rfl
    simp [readExponent, hsmall, hlarge]

theorem digitsValue_toDigits (n : Nat) : digitsValue (Nat.toDigits 10 n) = n :=
  Text.valueIn_toDigits (by decide) (by decide) n

theorem readNumber_neg_toDigits (n : Nat) (ends : EndsNumber rest) :
    readNumber ('-' :: (Nat.toDigits 10 n ++ rest)) = some (.int (-n), rest) := by
  have hfull : (Nat.toDigits 10 n).isEmpty = false := by simp
  simp only [readNumber, readWhole_toDigits n ends, hfull, readFraction_of_ends ends,
    readExponent_of_ends ends, Bool.false_eq_true, if_false, List.isEmpty_nil, if_true,
    digitsValue_toDigits]

theorem exists_toDigits (n : Nat) : ∃ c cs, Nat.toDigits 10 n = c :: cs ∧ isDigit c = true := by
  obtain ⟨c, cs, hn⟩ := List.exists_cons_of_ne_nil (Nat.toDigits_ne_nil (n := n) (b := 10))
  obtain ⟨d, hd, rfl⟩ := Text.mem_toDigits (by decide : 1 < 10) n c (hn ▸ List.mem_cons_self)
  exact ⟨_, cs, hn, isDigit_digitChar hd⟩

theorem readNumber_toDigits (n : Nat) (ends : EndsNumber rest) :
    readNumber (Nat.toDigits 10 n ++ rest) = some (.int n, rest) := by
  have hfull : (Nat.toDigits 10 n).isEmpty = false := by simp
  unfold readNumber
  split
  rename_i hsign
  split at hsign
  next hminus =>
    obtain ⟨c, cs, hn, hdigit⟩ := exists_toDigits n
    rw [hn] at hminus
    cases hminus
    exact absurd hdigit (by decide)
  next =>
    cases hsign
    simp only [readWhole_toDigits n ends, hfull, readFraction_of_ends ends,
      readExponent_of_ends ends, Bool.false_eq_true, if_false, List.isEmpty_nil, if_true,
      digitsValue_toDigits]

/-- An integer is written as its digits, behind a sign if it is negative. -/
theorem writeDatum_int (n : Int) : writeDatum (.int n) =
    match n with
    | .ofNat m => Nat.toDigits 10 m
    | .negSucc m => '-' :: Nat.toDigits 10 (m + 1) := by
  rw [writeDatum]
  cases n with
  | ofNat m =>
    have hrepr : toString (Int.ofNat m) = m.repr := rfl
    rw [hrepr, Nat.repr_eq_ofList_toDigits, String.toList_ofList]
  | negSucc m =>
    have hrepr : toString (Int.negSucc m) = "-" ++ (m + 1).repr := rfl
    rw [hrepr, String.toList_append, Nat.repr_eq_ofList_toDigits,
      String.toList_ofList (l := Nat.toDigits 10 (m + 1))]
    rfl

/-! ## Values -/

theorem skipBlanks_of_filled {c : Char} (h : isBlank c = false) (cs : List Char) :
    skipBlanks (c :: cs) = c :: cs := by simp [skipBlanks, h]

theorem readDatum_blank (n : Nat) (cs : List Char) : readDatum n (' ' :: cs) = readDatum n cs := by
  have hskip : skipBlanks (' ' :: cs) = skipBlanks cs := rfl
  cases n with
  | zero => rfl
  | succ n => rw [readDatum, readDatum, hskip]

theorem isBlank_of_digit {c : Char} (h : isDigit c = true) : isBlank c = false := by
  by_contra hblank
  rw [Bool.not_eq_false] at hblank
  simp only [isBlank, Bool.or_eq_true, beq_iff_eq] at hblank
  rcases hblank with ((rfl | rfl) | rfl) | rfl <;> cases h

/-- What begins with a digit is read as a number. -/
theorem readDatum_of_digit {c : Char} (h : isDigit c = true) (n : Nat) (cs : List Char) :
    readDatum (n + 1) (c :: cs) = readNumber (c :: cs) := by
  rw [readDatum, skipBlanks_of_filled (isBlank_of_digit h)]
  split
  case h_10 => rfl
  all_goals
    rename_i heq
    cases heq
    cases h

theorem readDatum_of_minus {c : Char} (h : isDigit c = true) (n : Nat) (cs : List Char) :
    readDatum (n + 1) ('-' :: c :: cs) = readNumber ('-' :: c :: cs) := by
  have hskip : skipBlanks ('-' :: c :: cs) = '-' :: c :: cs := rfl
  rw [readDatum, hskip]
  split
  case h_10 => rfl
  all_goals
    rename_i heq
    cases heq
    try cases h

theorem readDatum_int (n : Nat) (i : Int) (ends : EndsNumber rest) :
    readDatum (n + 1) (writeDatum (.int i) ++ rest) = some (.int i, rest) := by
  rw [writeDatum_int]
  cases i with
  | ofNat m =>
    have hread := readNumber_toDigits m ends
    obtain ⟨c, cs, hm, hdigit⟩ := exists_toDigits m
    simp only [hm, List.cons_append] at hread ⊢
    rw [readDatum_of_digit hdigit, hread]
    rfl
  | negSucc m =>
    have hread := readNumber_neg_toDigits (m + 1) ends
    obtain ⟨c, cs, hm, hdigit⟩ := exists_toDigits (m + 1)
    simp only [hm, List.cons_append] at hread ⊢
    rw [readDatum_of_minus hdigit, hread]
    rfl

theorem readDatum_text (n : Nat) (s : String) (rest : List Char) :
    readDatum (n + 1) (writeText s ++ rest) = some (.text s, rest) := by
  have hskip : skipBlanks (writeText s ++ rest) = writeText s ++ rest := rfl
  have hchars : writeText s ++ rest = '"' :: (s.toList.flatMap escapeChar ++ '"' :: rest) := by
    simp [writeText]
  rw [readDatum, hskip, hchars]
  simp only [readChars_flatMap, Option.map_some, String.ofList_toList]

/-- A value is taken from the front of a text. -/
def Reads (d : Datum) : Prop := ∀ n rest, (writeDatum d).length ≤ n → EndsNumber rest →
  readDatum n (writeDatum d ++ rest) = some (d, rest)

theorem endsNumber_of_mark {c : Char} (h : c ∈ [',', ']', '}']) (cs : List Char) :
    EndsNumber (c :: cs) := by
  have hall : ∀ d ∈ [',', ']', '}'], isDigit d = false ∧ d ≠ '.' ∧ d ≠ 'e' ∧ d ≠ 'E' :=
    List.all_iff_forall_prop.mp (by decide)
  intro d hd
  obtain rfl : c = d := Option.some.inj hd
  exact hall c h

/-! ## Items -/

section Items
variable {d : Datum} {n : Nat}

/-- An item is read, and what stands behind it says whether there are more. -/
theorem readItems_item (h : Reads d) (hn : (writeDatum d).length ≤ n) {mark : Char}
    (hmark : mark ∈ [',', ']']) (cs : List Char) :
    readItems (n + 1) (writeDatum d ++ mark :: cs) =
      if mark = ',' then (readItems n cs).map fun (ds, r) => (d :: ds, r) else some ([d], cs) := by
  have ends : EndsNumber (mark :: cs) := endsNumber_of_mark (by simp_all; tauto) cs
  rw [readItems, h n _ hn ends]
  rcases List.mem_pair.mp hmark with rfl | rfl <;> rfl

theorem readItems_blank (n : Nat) (cs : List Char) : readItems n (' ' :: cs) = readItems n cs := by
  cases n with
  | zero => rfl
  | succ n => rw [readItems, readItems, readDatum_blank]

/-- Items are read up to the bracket behind them, with as many steps as they have characters. -/
theorem readItems_writeItems {items : List Datum} (reads : ∀ d ∈ items, Reads d)
    (hne : items ≠ []) (n : Nat) (hn : (writeItems items).length < n) (rest : List Char) :
    readItems n (writeItems items ++ ']' :: rest) = some (items, rest) := by
  induction items generalizing n with
  | nil => exact absurd rfl hne
  | cons d more ih =>
    obtain ⟨hd, hmore⟩ := List.forall_mem_cons.mp reads
    obtain ⟨n, rfl⟩ : ∃ m, n = m + 1 := ⟨n - 1, by omega⟩
    cases more with
    | nil =>
      rw [writeItems] at hn ⊢
      exact readItems_item hd (by omega) (by decide) rest
    | cons e more =>
      simp only [writeItems, List.length_append, List.length_cons] at hn
      rw [writeItems, List.append_assoc, List.cons_append, List.cons_append,
        readItems_item hd (by omega) (by decide), readItems_blank,
        ih hmore (List.cons_ne_nil e more) n (by omega)]
      rfl

end Items

/-! ## Fields -/

section Fields
variable {f : String × Datum} {n : Nat}

theorem writeField_append (f : String × Datum) (cs : List Char) : writeField f ++ cs =
    '"' :: (f.1.toList.flatMap escapeChar ++ '"' :: (':' :: ' ' :: (writeDatum f.2 ++ cs))) := by
  obtain ⟨key, d⟩ := f
  simp [writeField, writeText]

theorem length_writeField (f : String × Datum) :
    (writeDatum f.2).length ≤ (writeField f).length := by
  obtain ⟨key, d⟩ := f
  simp [writeField]
  omega

/-- A field is read as its key and its value; what stands behind it says whether there are more. -/
theorem readFields_field (h : Reads f.2) (hn : (writeDatum f.2).length ≤ n) {mark : Char}
    (hmark : mark ∈ [',', '}']) (cs : List Char) :
    readFields (n + 1) (writeField f ++ mark :: cs) =
      if mark = ',' then (readFields n cs).map fun (fs, r) => (f :: fs, r) else some ([f], cs) := by
  have ends : EndsNumber (mark :: cs) := endsNumber_of_mark (by simp_all; tauto) cs
  have hopen : ∀ r, skipBlanks ('"' :: r) = '"' :: r := fun _ => rfl
  have hcolon : ∀ r, skipBlanks (':' :: r) = ':' :: r := fun _ => rfl
  rw [writeField_append, readFields, hopen]
  simp only [readChars_flatMap, hcolon, readDatum_blank, h n _ hn ends, String.ofList_toList]
  rcases List.mem_pair.mp hmark with rfl | rfl <;> rfl

theorem readFields_blank (n : Nat) (cs : List Char) :
    readFields n (' ' :: cs) = readFields n cs := by
  have hskip : skipBlanks (' ' :: cs) = skipBlanks cs := rfl
  cases n with
  | zero => rfl
  | succ n => rw [readFields, readFields, hskip]

theorem readFields_writeFields {fields : List (String × Datum)} (reads : ∀ f ∈ fields, Reads f.2)
    (hne : fields ≠ []) (n : Nat) (hn : (writeFields fields).length < n) (rest : List Char) :
    readFields n (writeFields fields ++ '}' :: rest) = some (fields, rest) := by
  induction fields generalizing n with
  | nil => exact absurd rfl hne
  | cons f more ih =>
    obtain ⟨hf, hmore⟩ := List.forall_mem_cons.mp reads
    obtain ⟨n, rfl⟩ : ∃ m, n = m + 1 := ⟨n - 1, by omega⟩
    have hlength := length_writeField f
    cases more with
    | nil =>
      rw [writeFields] at hn ⊢
      exact readFields_field hf (by omega) (by decide) rest
    | cons g more =>
      simp only [writeFields, List.length_append, List.length_cons] at hn
      rw [writeFields, List.append_assoc, List.cons_append, List.cons_append,
        readFields_field hf (by omega) (by decide), readFields_blank,
        ih hmore (List.cons_ne_nil g more) n (by omega)]
      rfl

end Fields

/-! ## The whole -/

/-- A value begins with a character that neither is passed over nor ends a list. -/
theorem exists_writeDatum {d : Datum} (h : Lossless d) :
    ∃ c cs, writeDatum d = c :: cs ∧ isBlank c = false ∧ c ≠ ']' := by
  cases h with
  | null => exact ⟨'n', _, rfl, rfl, by decide⟩
  | bool b => cases b <;> exact ⟨_, _, rfl, rfl, by decide⟩
  | int i =>
    rw [writeDatum_int]
    cases i with
    | ofNat m =>
      obtain ⟨c, cs, hm, hdigit⟩ := exists_toDigits m
      refine ⟨c, cs, hm, isBlank_of_digit hdigit, ?_⟩
      rintro rfl
      cases hdigit
    | negSucc m => exact ⟨'-', _, rfl, rfl, by decide⟩
  | text s => exact ⟨'"', _, rfl, rfl, by decide⟩
  | list all => exact ⟨'[', _, rfl, rfl, by decide⟩
  | record nodup all => exact ⟨'\x7b', _, rfl, rfl, by decide⟩

theorem exists_writeItems {d : Datum} (h : Lossless d) (more : List Datum) :
    ∃ c cs, writeItems (d :: more) = c :: cs ∧ isBlank c = false ∧ c ≠ ']' := by
  obtain ⟨c, cs, hd, hblank, hend⟩ := exists_writeDatum h
  cases more with
  | nil => exact ⟨c, cs, by rw [writeItems, hd], hblank, hend⟩
  | cons e more => exact ⟨c, _, by rw [writeItems, hd, List.cons_append], hblank, hend⟩

theorem exists_writeFields (f : String × Datum) (more : List (String × Datum)) :
    ∃ cs, writeFields (f :: more) = '"' :: cs := by
  obtain ⟨key, d⟩ := f
  obtain ⟨cs, hf⟩ : ∃ cs, writeField (key, d) = '"' :: cs := ⟨_, rfl⟩
  cases more with
  | nil => exact ⟨cs, by rw [writeFields, hf]⟩
  | cons g more => exact ⟨_, by rw [writeFields, hf, List.cons_append]⟩

theorem ofList_of_nodup {α : Type} {fields : List (String × α)} (h : (Entries.keys fields).Nodup) :
    Entries.ofList fields = fields := by
  induction fields using List.reverseRecOn with
  | nil => rfl
  | append_singleton fields f ih =>
    obtain ⟨key, value⟩ := f
    have hkeys : Entries.keys (fields ++ [(key, value)]) = Entries.keys fields ++ [key] := by
      simp [Entries.keys]
    rw [hkeys, List.nodup_append'] at h
    have hput : Entries.ofList (fields ++ [(key, value)]) =
        Entries.put key value (Entries.ofList fields) := by simp [Entries.ofList]
    have hnew : key ∉ Entries.keys fields := fun hkey => h.2.2 hkey (List.mem_singleton_self key)
    rw [hput, ih h.1, Entries.put_of_not_mem hnew]

theorem readDatum_list {items : List Datum} (all : ∀ d ∈ items, Lossless d)
    (reads : ∀ d ∈ items, Reads d) : Reads (.list items) := by
  intro n rest hn _
  rw [writeDatum, List.length_cons, List.length_append, List.length_singleton] at hn
  obtain ⟨n, rfl⟩ : ∃ m, n = m + 1 := ⟨n - 1, by omega⟩
  have hopen : ∀ r, skipBlanks ('[' :: r) = '[' :: r := fun _ => rfl
  cases items with
  | nil =>
    rw [readDatum]
    rfl
  | cons d more =>
    have hitems := readItems_writeItems reads (List.cons_ne_nil d more) n (by omega) rest
    obtain ⟨c, cs, hc, hblank, hend⟩ := exists_writeItems (all d List.mem_cons_self) more
    rw [writeDatum, List.cons_append, List.append_assoc, List.singleton_append, readDatum, hopen]
    rw [hc, List.cons_append] at hitems ⊢
    simp only [skipBlanks_of_filled hblank]
    split
    next heq => exact absurd (List.cons.inj heq).1 hend
    next => rw [hitems, Option.map_some]

theorem readDatum_record {fields : List (String × Datum)} (nodup : (Entries.keys fields).Nodup)
    (reads : ∀ f ∈ fields, Reads f.2) : Reads (.record fields) := by
  intro n rest hn _
  rw [writeDatum, List.length_cons, List.length_append, List.length_singleton] at hn
  obtain ⟨n, rfl⟩ : ∃ m, n = m + 1 := ⟨n - 1, by omega⟩
  have hopen : ∀ r, skipBlanks ('\x7b' :: r) = '\x7b' :: r := fun _ => rfl
  cases fields with
  | nil =>
    rw [readDatum]
    rfl
  | cons f more =>
    have hfields := readFields_writeFields reads (List.cons_ne_nil f more) n (by omega) rest
    obtain ⟨cs, hcs⟩ := exists_writeFields f more
    rw [writeDatum, List.cons_append, List.append_assoc, List.singleton_append, readDatum, hopen]
    rw [hcs, List.cons_append] at hfields ⊢
    have hquote : ∀ r, skipBlanks ('"' :: r) = '"' :: r := fun _ => rfl
    simp only [hquote, hfields, Option.map_some, ofList_of_nodup nodup]
    rfl

theorem reads_of_lossless {d : Datum} (h : Lossless d) : Reads d := by
  induction h with
  | null =>
    intro n rest hn _
    obtain ⟨n, rfl⟩ : ∃ m, n = m + 1 := ⟨n - 1, by simp [writeDatum] at hn; omega⟩
    rfl
  | bool b =>
    intro n rest hn _
    obtain ⟨n, rfl⟩ : ∃ m, n = m + 1 := ⟨n - 1, by cases b <;> simp [writeDatum] at hn <;> omega⟩
    cases b <;> rfl
  | int i =>
    intro n rest hn ends
    obtain ⟨c, cs, hd, -⟩ := exists_writeDatum (.int i)
    obtain ⟨n, rfl⟩ : ∃ m, n = m + 1 := ⟨n - 1, by simp [hd] at hn; omega⟩
    exact readDatum_int n i ends
  | text s =>
    intro n rest hn _
    obtain ⟨n, rfl⟩ : ∃ m, n = m + 1 := ⟨n - 1, by simp [writeDatum, writeText] at hn; omega⟩
    exact readDatum_text n s rest
  | list all ih => exact readDatum_list all ih
  | record nodup all ih => exact readDatum_record nodup ih

/-- What JSON can hold is read as it was written. -/
theorem read?_write {d : Datum} (h : Lossless d) : read? (write d) = some d := by
  have ends : EndsNumber [] := fun c hc => absurd hc (by simp)
  have hread := reads_of_lossless h (2 * (writeDatum d).length + 2) [] (by omega) ends
  rw [List.append_nil] at hread
  simp only [read?, write, String.toList_ofList, readChars?, hread]
  rfl

/-! ## Plain characters -/

/-- A value is written in printable ASCII. -/
def WrittenPlain (d : Datum) : Prop := ∀ c ∈ writeDatum d, IsPlain c

theorem isPlain_toDigits (n : Nat) : ∀ c ∈ Nat.toDigits 10 n, IsPlain c := fun c hc => by
  obtain ⟨d, hd, rfl⟩ := Text.mem_toDigits (by decide) n c hc
  exact isPlain_digitChar (Nat.lt_trans hd (by decide))

theorem isPlain_writeItems {items : List Datum} (all : ∀ d ∈ items, WrittenPlain d) :
    ∀ c ∈ writeItems items, IsPlain c := by
  induction items with
  | nil => exact fun c hc => absurd hc List.not_mem_nil
  | cons d more ih =>
    obtain ⟨hd, hmore⟩ := List.forall_mem_cons.mp all
    cases more with
    | nil => rwa [writeItems]
    | cons e more =>
      rw [writeItems]
      exact List.forall_mem_append.mpr ⟨hd, List.forall_mem_cons.mpr ⟨by decide,
        List.forall_mem_cons.mpr ⟨by decide, ih hmore⟩⟩⟩

theorem isPlain_writeField {f : String × Datum} (h : WrittenPlain f.2) :
    ∀ c ∈ writeField f, IsPlain c := by
  obtain ⟨key, d⟩ := f
  rw [writeField]
  exact List.forall_mem_append.mpr ⟨isPlain_writeText key, List.forall_mem_cons.mpr ⟨by decide,
    List.forall_mem_cons.mpr ⟨by decide, h⟩⟩⟩

theorem isPlain_writeFields {fields : List (String × Datum)}
    (all : ∀ f ∈ fields, WrittenPlain f.2) : ∀ c ∈ writeFields fields, IsPlain c := by
  induction fields with
  | nil => exact fun c hc => absurd hc List.not_mem_nil
  | cons f more ih =>
    obtain ⟨hf, hmore⟩ := List.forall_mem_cons.mp all
    cases more with
    | nil =>
      rw [writeFields]
      exact isPlain_writeField hf
    | cons g more =>
      rw [writeFields]
      exact List.forall_mem_append.mpr ⟨isPlain_writeField hf, List.forall_mem_cons.mpr
        ⟨by decide, List.forall_mem_cons.mpr ⟨by decide, ih hmore⟩⟩⟩

theorem isPlain_writeDatum {d : Datum} (h : Lossless d) : WrittenPlain d := by
  have between : ∀ {a b : Char} {cs : List Char}, IsPlain a → IsPlain b →
      (∀ c ∈ cs, IsPlain c) → ∀ c ∈ a :: (cs ++ [b]), IsPlain c := fun ha hb hcs =>
    List.forall_mem_cons.mpr ⟨ha, List.forall_mem_append.mpr
      ⟨hcs, List.forall_mem_singleton.mpr hb⟩⟩
  induction h with
  | null => exact (List.all_iff_forall_prop.mp (by decide) : ∀ c ∈ "null".toList, IsPlain c)
  | bool b =>
    have hall : ∀ b : Bool, ∀ c ∈ (if b then "true" else "false").toList, IsPlain c := fun b =>
      List.all_iff_forall_prop.mp (by cases b <;> decide)
    intro c hc
    rw [writeDatum] at hc
    exact hall b c hc
  | int i =>
    intro c hc
    rw [writeDatum_int] at hc
    cases i with
    | ofNat m => exact isPlain_toDigits m c hc
    | negSucc m => exact List.forall_mem_cons.mpr ⟨by decide, isPlain_toDigits (m + 1)⟩ c hc
  | text s =>
    intro c hc
    rw [writeDatum] at hc
    exact isPlain_writeText s c hc
  | list all ih =>
    rw [WrittenPlain, writeDatum]
    exact between (by decide) (by decide) (isPlain_writeItems ih)
  | record nodup all ih =>
    rw [WrittenPlain, writeDatum]
    exact between (by decide) (by decide) (isPlain_writeFields ih)

end Preflight.Json
