import Preflight.Proofs.Settings.Literal
import Preflight.Proofs.Settings.Override

/-! Plain settings: literal data under names that lead nowhere but to themselves, none of which
says how settings are loaded. They are kept as the file gives them, and a text that is set inside
one of their records is put there under the key that its name means. -/
namespace Preflight.Settings
open Draft

/-- A name at the top that is its own path and its own key. -/
structure Direct (name : String) : Prop where
  path : Text.split "." (Text.replace "__" "." name) = [name]
  key : topKey (Text.trim name) = name

structure PlainSettings (top : List (String × Datum)) : Prop where
  nodup : (Entries.keys top).Nodup
  direct : ∀ name ∈ Entries.keys top, Direct name
  usual : Usual (Entries.keys top)
  literal : ∀ f ∈ top, Literal f.2

namespace Store
variable {s : Store} {d : Datum}

theorem set_direct (usual : Usual (Entries.keys s)) (h : Literal d) {name : String}
    (direct : Direct name) (hnew : name ∉ Entries.keys s) :
    s.set none name (ofDatum d) = .ok (Entries.put name (ofDatum d) s) := by
  have hpath : s.path name = [name] := (path_of_usual usual name).trans direct.path
  have hset := setTop_quiet usual h.quiet name
  rw [direct.key, Entries.get?_eq_none_iff.mpr hnew] at hset
  rw [set, hpath]
  exact hset

/-! ## As a file gives them -/

theorem setAll_plain {done more : List (String × Datum)} (h : PlainSettings (done ++ more)) :
    setAll none (ofFields more) (ofFields done) = .ok (ofFields (done ++ more)) := by
  induction more generalizing done with
  | nil => rw [List.append_nil]; rfl
  | cons f rest ih =>
    obtain ⟨name, d⟩ := f
    have hkeys : Entries.keys (done ++ (name, d) :: rest) =
        Entries.keys done ++ name :: Entries.keys rest := by simp [Entries.keys]
    have hnew : name ∉ Entries.keys done := fun hname => by
      have nodup := h.nodup
      rw [hkeys, List.nodup_append'] at nodup
      exact nodup.2.2 hname List.mem_cons_self
    have usual : Usual (Entries.keys (ofFields done)) := fun option hoption hmem => by
      rw [keys_ofFields] at hmem
      exact h.usual option hoption (hkeys ▸ List.mem_append_left _ hmem)
    have hliteral : Literal d := h.literal (name, d) (by simp)
    have hdirect : Direct name := h.direct name (by simp [hkeys])
    have hset : set none name (ofDatum d) (ofFields done) =
        .ok (ofFields (done ++ [(name, d)])) := by
      rw [set_direct usual hliteral hdirect (by rwa [keys_ofFields]), put_ofFields,
        Entries.put_of_not_mem hnew]
    have hassoc : done ++ (name, d) :: rest = (done ++ [(name, d)]) ++ rest := by simp
    rw [ofFields, ofField, setAll, hset, hassoc]
    exact ih (hassoc ▸ h)

/-- The settings of a file by their keys at the top. -/
def topFields (fields : List (String × Datum)) : List (String × Datum) :=
  Entries.ofList (fields.map fun f => (topKey f.1, f.2))

theorem ofFile_plain {fields : List (String × Datum)} (h : Literal (.record fields))
    (plain : PlainSettings (topFields fields)) :
    ofFile (.record fields) = .ok (ofFields (topFields fields)) := by
  cases fields with
  | nil => rfl
  | cons f rest =>
    have hfile : ofFileFields (f :: rest) = ofFields (f :: rest) :=
      Draft.record.inj (ofFile_literal h)
    have htop : Entries.ofList ((ofFields (f :: rest)).map fun f => (topKey f.1, f.2)) =
        ofFields (topFields (f :: rest)) := by
      rw [topFields, ofFields_eq_map, ofFields_eq_map, ← Entries.ofList_map, List.map_map,
        List.map_map]
      rfl
    have hjoined : Entries.get? joinMark (ofFields (f :: rest)) = none := by
      rw [Entries.get?_eq_none_iff, keys_ofFields]
      exact h.unjoined
    have hfull : (Datum.record (f :: rest)).isTrivial = false := rfl
    rw [ofFile, hfull, if_neg Bool.false_ne_true]
    simp only [hfile, hjoined, htop]
    exact @setAll_plain [] _ plain

/-! ## A text set in a record -/

/-- A text is put under the key that its name means, or under the name. -/
def putText (field text : String) (old : List (String × Datum)) : List (String × Datum) :=
  Entries.put ((findKey? field (Entries.keys old)).getD field) (.text text) old

/-- A name that says nothing of how the record is joined that it is a field of. -/
def NoMark (field : String) : Prop := field ≠ joinMark ∧ field ≠ uniqueMark

section Record
variable {old top : List (String × Datum)} {field text : String}

theorem matchKey_ofFields (field : String) (old : List (String × Datum)) :
    matchKey field (ofFields old) = (findKey? field (Entries.keys old)).getD field := by
  rw [matchKey, keys_ofFields]

theorem key_ne {other : String} {keys : List String} (hfield : field ≠ other)
    (hfound : findKey? field keys ≠ some other) : (findKey? field keys).getD field ≠ other := by
  cases h : findKey? field keys with
  | some key => exact fun hkey : key = other => hfound (hkey ▸ h)
  | none => exact hfield

theorem key_unmarked (h : Literal (.record old)) (hfield : NoMark field) :
    (findKey? field (Entries.keys old)).getD field ≠ joinMark ∧
      (findKey? field (Entries.keys old)).getD field ≠ uniqueMark :=
  ⟨key_ne hfield.1 fun hfound => h.unjoined (mem_of_findKey? hfound),
    key_ne hfield.2 fun hfound => h.repeated (mem_of_findKey? hfound)⟩

theorem literal_put (h : Literal (.record old)) (hd : Literal d) {key : String}
    (hkey : key ≠ joinMark ∧ key ≠ uniqueMark) : Literal (.record (Entries.put key d old)) := by
  have hkeys : ∀ mark, key ≠ mark → mark ∉ Entries.keys old →
      mark ∉ Entries.keys (Entries.put key d old) := fun mark hne hmark hmem =>
    (Entries.mem_keys_put.mp hmem).elim (hne ∘ Eq.symm) hmark
  refine .record (Entries.nodup_keys_put h.nodup key d) (hkeys _ hkey.1 h.unjoined)
    (hkeys _ hkey.2 h.repeated) fun f hf => ?_
  rcases Entries.mem_put hf with hf | rfl
  · exact h.value hf
  · exact hd

theorem literal_putText (h : Literal (.record old)) (htext : PlainText text)
    (hfield : NoMark field) : Literal (.record (putText field text old)) :=
  literal_put h (.text htext) (key_unmarked h hfield)

theorem ofFields_putText (field text : String) (old : List (String × Datum)) :
    ofFields (putText field text old) =
      Entries.put (matchKey field (ofFields old)) (.text text) (ofFields old) := by
  rw [putText, ← put_ofFields, matchKey_ofFields]
  rfl

/-- The record with the text takes the place of the record that it was put into. -/
theorem merge_putText (h : Literal (.record old)) (htext : PlainText text)
    (hfield : NoMark field) (unique : Bool) :
    merge (ofDatum (.record old)) unique (ofDatum (.record (putText field text old))) =
      ofDatum (.record (putText field text old)) := by
  have hput := ofFields_putText field text old
  rw [← Entries.outside_nothing (ofFields (putText field text old)),
    ← Entries.outside_nothing (ofFields old)] at hput
  obtain ⟨fields, hmerge, -, hfields⟩ := outside_merge_put (p := fun _ => false) lasting_quiet
    (fun _ _ _ => rfl) (h.quietFields.tidy _) ((literal_putText h htext hfield).quietFields.tidy _)
    rfl hput unique
  simp only [Entries.outside_nothing] at hfields
  rw [ofDatum, ofDatum, hmerge, hfields]
  refine congrArg Draft.record ((List.map_congr_left fun f hf => ?_).trans (List.map_id _))
  rw [ofFields_putText] at hf
  rcases Entries.mem_put hf with hf | rfl
  · rw [laidOver, Entries.get?_of_mem h.quietFields.nodup hf, Option.map_some, Option.getD_some,
      merge_self (h.quietFields.all f hf), id]
  · rw [laidOver]
    cases Entries.get? (matchKey field (ofFields old)) (ofFields old) with
    | none => rfl
    | some x => exact Prod.ext rfl (merge_text x false text)

theorem layAlong_text (h : Literal (.record old)) (htext : PlainText text)
    (hfield : NoMark field) :
    layAlong [field] (.text text) (ofFields old) =
      (ofFields old, ofFields (putText field text old)) := by
  have hover : ∀ there : Option Draft,
      (there.map (merge · false (.text text))).getD (.text text) = .text text := by
    rintro (_ | d)
    · rfl
    · exact merge_text d false text
  have hkey := matchKey_unmarked (fun hmem => (List.mem_pair.mp hmem).elim hfield.1 hfield.2)
    h.quietFields.keys
  rw [layAlong]
  simp only [hover, ite_self]
  rw [ofFields_putText]
  exact layField_quiet h.quietFields hkey (Literal.text htext).quiet

theorem literal_record (plain : PlainSettings top) {key : String}
    (hold : (Entries.get? key top).getD (.record []) = .record old) : Literal (.record old) := by
  cases hget : Entries.get? key top with
  | none =>
    rw [hget] at hold
    cases hold
    exact .empty
  | some d =>
    rw [hget] at hold
    cases hold
    exact plain.literal _ (Entries.mem_of_get? hget)

/-- A text set two names deep is put into the record at the first name, whether there is one yet
or not. -/
theorem set_text (plain : PlainSettings top) {name first key : String}
    (hpath : Text.split "." (Text.replace "__" "." name) = [first, field])
    (hkey : topKey first = key) (hfirst : topKey (Text.trim first) = key)
    (hold : (Entries.get? key top).getD (.record []) = .record old)
    (htext : PlainText text) (hfield : NoMark field) :
    set none name (.text text) (ofFields top) =
      .ok (ofFields (Entries.put key (.record (putText field text old)) top)) := by
  have usual : Usual (Entries.keys (ofFields top)) := by
    rw [keys_ofFields]
    exact plain.usual
  have hliteral := literal_record plain hold
  have hnew := (literal_putText hliteral htext hfield).quietFields.keys
  have hmerge := merge_putText hliteral htext hfield false
  have hquiet : ∀ d, Entries.get? key (ofFields top) = some d → Quiet d := fun d hd => by
    rw [get?_ofFields] at hd
    obtain ⟨x, hx, rfl⟩ := Option.map_eq_some_iff.mp hd
    have hvalue : Literal x := plain.literal _ (Entries.mem_of_get? hx)
    exact hvalue.quiet
  have hset := set_quiet usual hpath (hkey.symm ▸ hquiet)
    (List.forall_mem_singleton.mpr fun hmem => (List.mem_pair.mp hmem).elim hfield.1 hfield.2)
    (Literal.text htext).quiet
  rw [hkey, hfirst, get?_ofFields] at hset
  refine hset.trans ?_
  rw [← put_ofFields]
  refine congrArg (fun d => Except.ok (Entries.put key d (ofFields top))) ?_
  rw [ofDatum] at hmerge ⊢
  cases hget : Entries.get? key top with
  | none =>
    rw [hget] at hold
    cases hold
    rfl
  | some d =>
    rw [hget] at hold
    obtain rfl : d = .record old := hold
    cases old with
    | nil => exact (laidOn_record hnew _).trans hmerge
    | cons f rest =>
      have hlaid := congrArg Prod.snd (layAlong_text hliteral htext hfield)
      have hover : setOver (some (ofDatum (.record (f :: rest))))
          (some (ofDatum (.record (f :: rest)))) [field] (.text text) =
          laidOn (some (ofDatum (.record (f :: rest))))
            (.record (layAlong [field] (.text text) (ofFields (f :: rest))).2) := rfl
      rw [hlaid] at hover
      exact hover.trans ((laidOn_record hnew _).trans hmerge)

end Record
end Store
end Preflight.Settings
