import Preflight.Proofs.Settings.Quiet

/-! Data that say nothing but what they are: no text or key in them is a mark. As they are read from
a file, laid over themselves and settled, they stay what they are. -/
namespace Preflight.Settings
open Draft

/-- A text that is kept as it is. -/
structure PlainText (s : String) : Prop where
  unmarked : s.toList.head? ≠ some '@'
  line : ∀ c ∈ s.toList, isLineBreak c = false
  joinMark : s ≠ joinMark
  uniqueMark : s ≠ uniqueMark

inductive Literal : Datum → Prop where
  | null : Literal .null
  | bool (b : Bool) : Literal (.bool b)
  | int (n : Int) : Literal (.int n)
  | float (negative : Bool) (mantissa : Nat) (exponent : Int) :
      Literal (.float (.finite negative mantissa exponent))
  | text {s : String} (plain : PlainText s) : Literal (.text s)
  | moment (shown : String) : Literal (.moment shown)
  | list {items : List Datum} (all : ∀ d ∈ items, Literal d) : Literal (.list items)
  | record {fields : List (String × Datum)} (nodup : (Entries.keys fields).Nodup)
      (unjoined : joinMark ∉ Entries.keys fields) (repeated : uniqueMark ∉ Entries.keys fields)
      (all : ∀ f ∈ fields, Literal f.2) : Literal (.record fields)

section Record
variable {fields : List (String × Datum)}

theorem Literal.nodup (h : Literal (.record fields)) : (Entries.keys fields).Nodup := by
  cases h; assumption

theorem Literal.value (h : Literal (.record fields)) {f : String × Datum} (hf : f ∈ fields) :
    Literal f.2 := by
  cases h with
  | record _ _ _ all => exact all f hf

theorem Literal.unjoined (h : Literal (.record fields)) : joinMark ∉ Entries.keys fields := by
  cases h; assumption

theorem Literal.repeated (h : Literal (.record fields)) : uniqueMark ∉ Entries.keys fields := by
  cases h; assumption

theorem Literal.empty : Literal (.record []) :=
  .record List.nodup_nil List.not_mem_nil List.not_mem_nil fun _ hf => nomatch hf

end Record

theorem ofItems_eq_map (items : List Datum) : ofItems items = items.map ofDatum := by
  induction items with
  | nil => rfl
  | cons d rest ih => rw [ofItems, ih, List.map_cons]

theorem ofFields_eq_map (fields : List (String × Datum)) :
    ofFields fields = fields.map fun f => (f.1, ofDatum f.2) := by
  induction fields with
  | nil => rfl
  | cons f rest ih => rw [ofFields, ih, List.map_cons, ofField]

theorem mem_ofFields {f : String × Draft} {fields : List (String × Datum)} :
    f ∈ ofFields fields ↔ ∃ e ∈ fields, (e.1, ofDatum e.2) = f := by
  rw [ofFields_eq_map, List.mem_map]

theorem keys_ofFields (fields : List (String × Datum)) :
    Entries.keys (ofFields fields) = Entries.keys fields := by
  rw [ofFields_eq_map, Entries.keys_map]

theorem get?_ofFields (key : String) (fields : List (String × Datum)) :
    Entries.get? key (ofFields fields) = (Entries.get? key fields).map ofDatum := by
  rw [ofFields_eq_map, Entries.get?_map]

theorem put_ofFields (key : String) (d : Datum) (fields : List (String × Datum)) :
    Entries.put key (ofDatum d) (ofFields fields) = ofFields (Entries.put key d fields) := by
  rw [ofFields_eq_map, ofFields_eq_map, Entries.put_map]

/-! ## From a file -/

theorem ofFileItems_eq_map (items : List Datum) : ofFileItems items = items.map ofFile := by
  induction items with
  | nil => rfl
  | cons d rest ih => rw [ofFileItems, ih, List.map_cons]

theorem ofFileFields_eq_map (fields : List (String × Datum)) :
    ofFileFields fields = fields.map fun f => (f.1, ofFile f.2) := by
  induction fields with
  | nil => rfl
  | cons f rest ih => rw [ofFileFields, ih, List.map_cons, ofFileField]

theorem ofFile_literal {d : Datum} (h : Literal d) : ofFile d = ofDatum d := by
  induction h with
  | text plain =>
    rw [ofFile, foldFrom_of_line 0 _ plain.line, List.replicate_zero, List.nil_append,
      String.ofList_toList]
    rfl
  | @list items _ ih =>
    rw [ofFile, ofDatum, ofFileItems_eq_map, ofItems_eq_map, List.map_congr_left ih]
  | @record fields _ _ _ _ ih =>
    have hfields : ∀ f ∈ fields, (f.1, ofFile f.2) = (f.1, ofDatum f.2) :=
      fun f hf => by rw [ih f hf]
    rw [ofFile, ofDatum, ofFileFields_eq_map, ofFields_eq_map, List.map_congr_left hfields]
  | _ => rfl

/-! ## At rest -/

theorem PlainText.unmarkedText {s : String} (h : PlainText s) : Unmarked s where
  read := readMarked_of_unmarked .text s.length h.unmarked
  word hword := by
    rcases List.mem_pair.mp hword with heq | heq
    · exact h.joinMark heq
    · exact h.uniqueMark heq

theorem Literal.unmarked {fields : List (String × Datum)} (h : Literal (.record fields)) :
    ∀ key ∈ Entries.keys fields, key ∉ joinWords := fun key hkey hword => by
  rcases List.mem_pair.mp hword with rfl | rfl
  · exact h.unjoined hkey
  · exact h.repeated hkey

/-- Literal data are quiet. -/
theorem Literal.quiet {d : Datum} (h : Literal d) : Quiet (ofDatum d) := by
  induction h with
  | text plain => exact .plain rfl fun s hs => Datum.text.inj hs ▸ plain.unmarkedText
  | list all ih =>
    rw [ofDatum, ofItems_eq_map]
    exact .list fun x hx => by
      obtain ⟨d, hd, rfl⟩ := List.mem_map.mp hx
      exact ih d hd
  | @record fields nodup unjoined repeated all ih =>
    have hkeys := keys_ofFields fields
    refine .record (hkeys.symm ▸ nodup) (hkeys.symm ▸ (Literal.record nodup unjoined repeated
      all).unmarked) fun f hf => ?_
    obtain ⟨e, he, rfl⟩ := mem_ofFields.mp hf
    exact ih e he
  | _ => exact .plain rfl fun _ h => nomatch h

/-! ## Settled -/

theorem settleItems_ofItems {look : Source → Except Fault Datum} {items : List Datum}
    (h : ∀ d ∈ items, settle look (ofDatum d) = .ok d) :
    settleItems look (ofItems items) = .ok items := by
  induction items with
  | nil => rfl
  | cons d rest ih =>
    rw [ofItems, settleItems, h d List.mem_cons_self,
      ih fun e he => h e (List.mem_cons_of_mem d he)]
    rfl

theorem settleFields_ofFields {look : Source → Except Fault Datum}
    {fields : List (String × Datum)} (h : ∀ f ∈ fields, settle look (ofDatum f.2) = .ok f.2) :
    settleFields look (ofFields fields) = .ok fields := by
  induction fields with
  | nil => rfl
  | cons f rest ih =>
    rw [ofFields, ofField, settleFields, settleField, h f List.mem_cons_self,
      ih fun e he => h e (List.mem_cons_of_mem f he)]
    rfl

theorem settle_literal (look : Source → Except Fault Datum) {d : Datum} (h : Literal d) :
    settle look (ofDatum d) = .ok d := by
  induction h with
  | list _ ih =>
    rw [ofDatum, settle, settleItems_ofItems ih]
    rfl
  | record _ _ _ _ ih =>
    rw [ofDatum, settle, settleFields_ofFields ih]
    rfl
  | _ => rfl

theorem Literal.quietFields {fields : List (String × Datum)} (h : Literal (.record fields)) :
    QuietFields (ofFields fields) := quiet_record_iff.mp h.quiet

theorem merge_text (old : Draft) (unique : Bool) (s : String) :
    merge old unique (.text s) = .text s := by
  cases old <;> rfl

end Preflight.Settings
