import Preflight.Proofs.Settings.Along

/-! Quiet settings set by their names, one after the other. A name that leads into the settings of
plugins changes nothing else, and of the plugins only the one that its second part means. -/
namespace Preflight.Settings
open Draft
open Entries (outside)
open Text (lower trim)

/-- The settings that say how settings are loaded. -/
def optionKeys : List String :=
  ["NESTED_SEPARATOR", "DOTTED_LOOKUP", "AUTO_CAST", "MERGE_ENABLED"].map (· ++ "_FOR_DYNACONF")

def Usual (keys : List String) : Prop := ∀ option ∈ optionKeys, option ∉ keys

/-- The parts that a setting's name is taken apart into. -/
def segments (name : String) : List String := Text.split "." (Text.replace "__" "." name)

/-- A name that says nothing of how settings are loaded or joined. -/
structure Tame (name : String) : Prop where
  ordinary : ∀ first ∈ (segments name).head?, topKey (trim first) ∉ optionKeys
  unmarked : ∀ part ∈ (segments name).tail, part ∉ joinWords

variable {p : String → Bool} {fields new : List (String × Draft)} {name first x : String}
  {d e : Draft} {rest : List String}

/-! ## A setting over another -/

theorem exists_merge_record (d : Draft) (unique : Bool) (new : List (String × Draft)) :
    ∃ fields, merge d unique (.record new) = .record fields := by
  cases d with
  | record old =>
    rw [merge]
    split
    · exact ⟨_, rfl⟩
    · exact ⟨_, rfl⟩
  | _ => exact ⟨new, rfl⟩

theorem layOver_quiet (hd : Quiet d) (old : Draft) : layOver true old d = merge old false d := by
  cases hd with
  | plain atom text => cases old <;> rfl
  | @list items all =>
    have hmarks : takeItemMarks items = (false, false, items) := by
      rw [takeItemMarks, not_hasItem_word all (by simp [joinWords]),
        not_hasItem_word all (by simp [joinWords])]
      rfl
    simp only [layOver, hmarks, Bool.or_true, if_true]
  | @record new nodup keys all =>
    obtain ⟨fields, hmerge⟩ := exists_merge_record old false new
    simp only [layOver, takeMarks_of_unmarked keys, unmarked, hmerge, Option.any_none,
      Bool.not_false, Bool.and_true, Bool.or_true, if_true]

/-- A new setting over an old one, when nothing says how. -/
def laidOn (old : Option Draft) (d : Draft) : Draft :=
  match old with
  | none | some (.plain .null) => d
  | some old => if same old d then d else layOver true old d

theorem laidOn_quiet (hd : Quiet d) (old : Draft) : laidOn (some old) d = merge old false d := by
  rw [laidOn.eq_def]
  split
  next h => cases h
  next h =>
    cases h
    cases d <;> rfl
  next old' _ heq =>
    cases heq
    split
    next hsame => exact (merge_of_same hsame false).symm
    next => exact layOver_quiet hd old

theorem quiet_laidOn {old : Option Draft} (hold : ∀ d ∈ old, Quiet d) (hd : Quiet d) :
    Quiet (laidOn old d) := by
  cases old with
  | none => exact hd
  | some old =>
    rw [laidOn_quiet hd]
    exact quiet_merge (hold old rfl) false hd

theorem laidOn_record (keys : ∀ key ∈ Entries.keys new, key ∉ joinWords) (old : Draft) :
    laidOn (some old) (.record new) = merge old false (.record new) := by
  rw [laidOn.eq_def]
  split
  next h => cases h
  next h => cases h; rfl
  next old' _ heq =>
    cases heq
    split
    next hsame => exact (merge_of_same hsame false).symm
    next =>
      obtain ⟨fields, hmerge⟩ := exists_merge_record old false new
      simp only [layOver, takeMarks_of_unmarked keys, unmarked, hmerge, Option.any_none,
        Bool.not_false, Bool.and_true, Bool.or_true, if_true]

namespace Store
variable {s : Store}

theorem option?_of_usual (usual : Usual (Entries.keys s)) {name : String}
    (hname : name ++ "_FOR_DYNACONF" ∈ optionKeys) : s.option? name = none :=
  Entries.get?_eq_none_iff.mpr (usual _ hname)

theorem isOn_of_usual (usual : Usual (Entries.keys s)) {name : String}
    (hname : name ++ "_FOR_DYNACONF" ∈ optionKeys) : s.isOn name = true := by
  rw [isOn, option?_of_usual usual hname]
  rfl

theorem path_of_usual (usual : Usual (Entries.keys s)) (name : String) :
    s.path name = segments name := by
  have hseparator : s.separator = "__" := by
    rw [separator, option?_of_usual usual (by decide)]
  have hdotted : s.isDotted = true := by
    rw [isDotted, option?_of_usual usual (by decide)]
  simp [path, segments, hseparator, hdotted]

theorem expand_eq (usual : Usual (Entries.keys s)) (d : Draft) :
    s.expand d = Settings.expand d := by
  rw [Store.expand, isOn_of_usual usual (by decide), if_pos rfl]

theorem lay_eq (usual : Usual (Entries.keys s)) (old : Option Draft) (d : Draft) :
    setTop.lay none s old d = laidOn old d := by
  rw [setTop.lay.eq_def, isOn_of_usual usual (by decide)]
  exact (laidOn.eq_def old d).symm

theorem setTop_quiet (usual : Usual (Entries.keys s)) (hd : Quiet d) (name : String) :
    s.setTop none name d = .ok (Entries.put (topKey (trim name))
      (laidOn (Entries.get? (topKey (trim name)) s) d) s) := by
  rw [setTop, expand_eq usual, expand_quiet hd]
  simp only [bind, Except.bind, alter_quiet _ _ hd, lay_eq usual]
  rfl

/-- A whole setting in which a value stands at the end of a path, with what else was there. -/
def wholeAt (there : Option Draft) (rest : List String) (d : Draft) : Draft :=
  match rest, there.filter (!·.isTrivial) with
  | [], _ => d
  | rest, some (.record fields) => .record (layAlong rest d fields).2
  | rest, _ => nest rest d

theorem quiet_wholeAt {there : Option Draft} (hthere : ∀ d ∈ there, Quiet d)
    (hrest : ∀ part ∈ rest, part ∉ joinWords) (hd : Quiet d) : Quiet (wholeAt there rest d) := by
  rw [wholeAt.eq_def]
  split
  · exact hd
  next fields _ hfields =>
    obtain ⟨hmem, -⟩ := Option.filter_eq_some_iff.mp hfields
    exact quiet_record_iff.mpr
      (layAlong_quiet hrest hd (quiet_record_iff.mp (hthere _ hmem))).2
  · exact quiet_nest hrest hd

theorem exists_wholeAt_record (there : Option Draft) (part : String) (rest : List String)
    (d : Draft) : ∃ fields, wholeAt there (part :: rest) d = .record fields := by
  rw [wholeAt.eq_def]
  split
  next heq => cases heq
  · exact ⟨_, rfl⟩
  · exact ⟨_, rfl⟩

/-- What a quiet value comes to over the settings under the key that its path starts at, read
with and without the blanks around it. -/
def setOver (there old : Option Draft) (rest : List String) (d : Draft) : Draft :=
  laidOn old (wholeAt there rest d)

theorem quiet_setOver {there old : Option Draft} (hthere : ∀ d ∈ there, Quiet d)
    (hold : ∀ d ∈ old, Quiet d) (hrest : ∀ part ∈ rest, part ∉ joinWords) (hd : Quiet d) :
    Quiet (setOver there old rest d) := quiet_laidOn hold (quiet_wholeAt hthere hrest hd)

/-- A quiet value is set under one key of the top. -/
theorem set_quiet (usual : Usual (Entries.keys s)) (hsegments : segments name = first :: rest)
    (hthere : ∀ d, Entries.get? (topKey first) s = some d → Quiet d)
    (hrest : ∀ part ∈ rest, part ∉ joinWords) (hd : Quiet d) :
    s.set none name d = .ok (Entries.put (topKey (trim first))
      (setOver (Entries.get? (topKey first) s) (Entries.get? (topKey (trim first)) s) rest d)
      s) := by
  have hpath : s.path name = first :: rest := (path_of_usual usual name).trans hsegments
  rw [set, hpath]
  cases rest with
  | nil => exact setTop_quiet usual hd first
  | cons part more =>
    simp only [expand_eq usual, expand_quiet hd, bind, Except.bind, setOver, wholeAt]
    cases hfilter : (Entries.get? (topKey first) s).filter (!·.isTrivial) with
    | none => exact setTop_quiet usual (quiet_nest hrest hd) first
    | some there =>
      obtain ⟨hget, -⟩ := Option.filter_eq_some_iff.mp hfilter
      cases there with
      | record fields =>
        have hfields := quiet_record_iff.mp (hthere _ hget)
        obtain ⟨hleft, hlaid⟩ := layAlong_quiet hrest hd hfields
        have hmarks : ∀ join old, applyMarks join old (.record (layAlong (part :: more) d fields).2)
            = .record (layAlong (part :: more) d fields).2 :=
          fun join old => applyMarks_quiet join old (quiet_record_iff.mpr hlaid)
        simp only [hmarks, hleft, Entries.put_of_get? hget]
        exact setTop_quiet usual (quiet_record_iff.mpr hlaid) first
      | _ => exact setTop_quiet usual (quiet_nest hrest hd) first

/-! ## The settings of plugins -/

/-- What is read as the settings of plugins. -/
def pluginFields (s : Store) : List (String × Draft) :=
  match Entries.get? "PLUGINS" s with
  | some (.record fields) => fields
  | _ => []

theorem pluginFields_of_trivial (h : ∀ fields,
    (Entries.get? "PLUGINS" s).filter (!·.isTrivial) ≠ some (.record fields)) :
    pluginFields s = [] := by
  rw [pluginFields]
  cases hget : Entries.get? "PLUGINS" s with
  | none => rfl
  | some old =>
    cases old with
    | record fields =>
      cases fields with
      | nil => rfl
      | cons f more => exact absurd (by rw [hget]; rfl) (h (f :: more))
    | _ => rfl

/-- Settings that are quiet, but for those of plugins when these are a record. -/
structure Calm (P : List (String × Draft) → Prop) (s : Store) : Prop where
  nodup : (Entries.keys s).Nodup
  keyed : ∀ key ∈ Entries.keys s, ∃ name, topKey name = key
  usual : Usual (Entries.keys s)
  quiet : ∀ f ∈ s, f.1 ≠ "PLUGINS" → Quiet f.2
  plugins : ∀ d, Entries.get? "PLUGINS" s = some d →
    Quiet d ∨ ∃ fields, d = .record fields ∧ P fields

theorem Calm.tidy (calm : Calm (Tidy Quiet p) s)
    (h : Entries.get? "PLUGINS" s = some (.record fields)) : Tidy Quiet p fields := by
  rcases calm.plugins _ h with hquiet | ⟨_, heq, htidy⟩
  · exact (quiet_record_iff.mp hquiet).tidy p
  · cases heq
    exact htidy

/-- What a plugin's settings come to when a path into them sets a value. -/
def fieldsAfter (x : String) (rest : List String) (d : Draft) (old : List (String × Draft)) :
    List (String × Draft) :=
  (Entries.put (matchKey x old) (valueAlong x rest d old) old).map (laidOver old)

theorem fieldsAfter_nil (x : String) (rest : List String) (d : Draft) :
    fieldsAfter x rest d [] = [(x, nest rest d)] := by
  cases rest with
  | nil =>
    have hvalue : valueAlong x [] d [] = d := by
      rw [valueAlong]
      split <;> rfl
    rw [fieldsAfter, hvalue]
    rfl
  | cons part more => rfl

theorem exists_of_expandFields_cons {key : String}
    (h : expandFields ((key, d) :: fields) = .ok new) :
    ∃ e more, Settings.expand d = .ok e ∧ expandFields fields = .ok more ∧
      new = (key, e) :: more := by
  rw [expandFields, expandField] at h
  obtain ⟨f, hf, h⟩ := exists_of_bind_eq_ok h
  obtain ⟨e, he, hpair⟩ := exists_of_bind_eq_ok hf
  obtain ⟨more, hmore, hcons⟩ := exists_of_bind_eq_ok h
  cases hpair
  exact ⟨e, more, he, hmore, (Except.ok.inj hcons).symm⟩

theorem expandFields_outside (h : expandFields fields = .ok new) :
    Entries.keys new = Entries.keys fields ∧
      ((∀ f ∈ outside p fields, Quiet f.2) → outside p new = outside p fields) := by
  induction fields generalizing new with
  | nil =>
    cases h
    exact ⟨rfl, fun _ => rfl⟩
  | cons f rest ih =>
    obtain ⟨key, d⟩ := f
    obtain ⟨e, more, he, hrest, rfl⟩ := exists_of_expandFields_cons h
    obtain ⟨hkeys, hmore⟩ := ih hrest
    refine ⟨congrArg (List.cons key) hkeys, fun hquiet => ?_⟩
    cases hp : p key with
    | true =>
      rw [Entries.outside_cons_of_mem hp] at hquiet ⊢
      rw [Entries.outside_cons_of_mem hp, hmore hquiet]
    | false =>
      rw [Entries.outside_cons_of_not_mem hp] at hquiet ⊢
      obtain ⟨hfirst, hothers⟩ := List.forall_mem_cons.mp hquiet
      have hsame : d = e := Except.ok.inj ((expand_quiet hfirst).symm.trans he)
      rw [Entries.outside_cons_of_not_mem hp, hmore hothers, hsame]

/-- A record is set under one key of the top, its texts read. -/
theorem exists_of_setTop_record {s' : Store} (usual : Usual (Entries.keys s))
    (h : s.setTop none name (.record fields) = .ok s') : ∃ fields',
      expandFields fields = .ok fields' ∧ s' = Entries.put (topKey (trim name))
        (laidOn (Entries.get? (topKey (trim name)) s) (.record fields')) s := by
  rw [setTop, expand_eq usual, Settings.expand] at h
  obtain ⟨e, he, h⟩ := exists_of_bind_eq_ok h
  obtain ⟨fields', hfields, rfl⟩ := exists_of_map_eq_ok he
  exact ⟨fields', hfields, (Except.ok.inj h).symm.trans (by rw [lay_eq usual])⟩

section Plugin
variable {s' : Store} (calm : Calm (Tidy Quiet p) s) (closed : Closed p)
  (htrim : trim first = first)
  (hkey : topKey first = "PLUGINS") (hx : x ∉ joinWords)
  (hd : p x = false → Quiet d ∧ ∀ part ∈ rest, part ∉ joinWords)
include calm closed htrim hkey hx hd

/-- A path set where plugins have no settings yet. -/
theorem setTop_plugin (hnone : pluginFields s = [])
    (h : s.setTop none first (nest (x :: rest) d) = .ok s') :
    ∃ fields, s' = Entries.put "PLUGINS" (.record fields) s ∧ Tidy Quiet p fields ∧
      outside p fields = if p x then [] else [(x, nest rest d)] := by
  obtain ⟨new, hnew, rfl⟩ := exists_of_setTop_record calm.usual h
  rw [htrim, hkey]
  obtain ⟨hkeys, hquiet⟩ := expandFields_outside (p := p) hnew
  have hkeys : Entries.keys new = [x] := hkeys
  have unmarked : ∀ key ∈ Entries.keys new, key ∉ joinWords :=
    hkeys.symm ▸ List.forall_mem_singleton.mpr hx
  have hout : outside p new = if p x then [] else [(x, nest rest d)] := by
    cases hp : p x with
    | true =>
      have hnil : outside p [(x, nest rest d)] = [] := Entries.outside_cons_of_mem hp _ []
      exact (hquiet (hnil.symm ▸ List.forall_mem_nil _)).trans hnil
    | false =>
      have hone : outside p [(x, nest rest d)] = [(x, nest rest d)] :=
        Entries.outside_cons_of_not_mem hp _ []
      obtain ⟨hd, hrest⟩ := hd hp
      exact (hquiet (hone.symm ▸ List.forall_mem_singleton.mpr (quiet_nest hrest hd))).trans hone
  have htidy : Tidy Quiet p new := by
    refine ⟨?_, unmarked⟩
    rw [hout]
    cases hp : p x with
    | true => exact .nil
    | false =>
      obtain ⟨hd, hrest⟩ := hd hp
      exact FieldsOf.nil.put hx (quiet_nest hrest hd)
  cases hget : Entries.get? "PLUGINS" s with
  | none => exact ⟨new, rfl, htidy, hout⟩
  | some old =>
    rw [laidOn_record unmarked]
    cases old with
    | record fields =>
      rw [pluginFields, hget] at hnone
      cases hnone
      obtain ⟨fields, hmerge, keys, hfields⟩ := outside_merge lasting_quiet closed
        (FieldsOf.nil.tidy p) htidy [] (outside p new) rfl rfl (by rw [hout]; split <;> simp)
        (fun _ _ => rfl) false
      have hsame : (outside p new).map (laidOver []) = outside p new := List.map_id _
      rw [List.nil_append, show outside p ([] : List (String × Draft)) = [] from rfl, hsame]
        at hfields
      exact ⟨fields, by rw [hmerge], ⟨hfields.symm ▸ htidy.apart, keys⟩, hfields.trans hout⟩
    | _ => exact ⟨new, rfl, htidy, hout⟩

/-- A path set among the settings that plugins have. -/
theorem setTop_along {old : List (String × Draft)}
    (hget : Entries.get? "PLUGINS" s = some (.record old))
    (h : setTop none first
      (applyMarks (merge (.record (layAlong (x :: rest) d old).1) false)
        (some (.record (layAlong (x :: rest) d old).1)) (.record (layAlong (x :: rest) d old).2))
      (Entries.put "PLUGINS" (.record (layAlong (x :: rest) d old).1) s) = .ok s') :
    ∃ fields, s' = Entries.put "PLUGINS" (.record fields) s ∧ Tidy Quiet p fields ∧
      outside p fields = if p x then outside p old else fieldsAfter x rest d (outside p old) := by
  have htidy := calm.tidy hget
  obtain ⟨hleftKeys, hlaidKeys⟩ := layAlong_unmarked htidy.keys hx rest d
  have husual : Usual (Entries.keys (Entries.put "PLUGINS"
      (.record (layAlong (x :: rest) d old).1) s)) := by
    rw [Entries.keys_put, if_pos (Entries.mem_keys_of_get? hget)]
    exact calm.usual
  rw [applyMarks_of_unmarked _ _ hlaidKeys] at h
  obtain ⟨new, hnew, rfl⟩ := exists_of_setTop_record husual h
  obtain ⟨hkeys, hquiet⟩ := expandFields_outside (p := p) hnew
  rw [htrim, hkey, Entries.get?_put_self, laidOn_record (hkeys ▸ hlaidKeys), Entries.put_put]
  cases hp : p x with
  | true =>
    obtain ⟨hleft, hlaid⟩ := outside_layAlong_of_mem lasting_quiet closed htidy hx hp rest d
    have hout : outside p new = outside p old :=
      (hquiet (hlaid ▸ htidy.apart.all)).trans hlaid
    obtain ⟨fields, hmerge, keys, hfields⟩ := outside_merge_same closed
      ⟨hleft ▸ htidy.apart, hleftKeys⟩ ⟨hout ▸ htidy.apart, hkeys ▸ hlaidKeys⟩
      (hout.trans hleft.symm) false
    have hsame := hfields.trans hleft
    exact ⟨fields, by rw [hmerge], ⟨hsame ▸ htidy.apart, keys⟩, hsame⟩
  | false =>
    obtain ⟨hd, hrest⟩ := hd hp
    obtain ⟨hleft, hlaid⟩ := outside_layAlong closed htidy hx hp hrest hd
    have hput := htidy.apart.put (matchKey_unmarked hx htidy.apart.keys)
      (quiet_valueAlong x hrest hd htidy.apart)
    have hout := (hquiet (hlaid ▸ hput.all)).trans hlaid
    obtain ⟨fields, hmerge, keys, hfields⟩ := outside_merge_put lasting_quiet closed
      ⟨hleft ▸ htidy.apart, hleftKeys⟩ ⟨hout ▸ hput, hkeys ▸ hlaidKeys⟩ hp
      (hleft.symm ▸ hout) false
    rw [hleft, hout] at hfields
    exact ⟨fields, by rw [hmerge], ⟨hfields ▸ hput.map_laidOver lasting_quiet htidy.apart, keys⟩,
      hfields⟩

/-- A path into the settings of plugins changes nothing but these. Of the plugins that are not set
aside it changes none when it begins at one that is, and else the one that its first name means. -/
theorem set_plugin (hsegments : segments name = first :: x :: rest)
    (h : s.set none name d = .ok s') :
    ∃ fields, s' = Entries.put "PLUGINS" (.record fields) s ∧ Tidy Quiet p fields ∧
      outside p fields = if p x then outside p (pluginFields s)
        else fieldsAfter x rest d (outside p (pluginFields s)) := by
  have hpath : s.path name = first :: x :: rest := (path_of_usual calm.usual name).trans hsegments
  rw [set, hpath] at h
  simp only [expand_eq calm.usual, hkey] at h
  cases hread : Settings.expand d with
  | error e =>
    rw [hread] at h
    cases h
  | ok e =>
    rw [hread] at h
    simp only [bind, Except.bind] at h
    have he : p x = false → e = d := fun hp =>
      Except.ok.inj (hread.symm.trans (expand_quiet (hd hp).1))
    have hnothing (hnone : pluginFields s = [])
        (hset : s.setTop none first (nest (x :: rest) e) = .ok s') :
        ∃ fields, s' = Entries.put "PLUGINS" (.record fields) s ∧ Tidy Quiet p fields ∧
          outside p fields = if p x then outside p (pluginFields s)
            else fieldsAfter x rest d (outside p (pluginFields s)) := by
      obtain ⟨fields, hs, htidy, hfields⟩ := setTop_plugin calm closed htrim hkey hx
        (fun hp => by rw [he hp]; exact hd hp) hnone hset
      refine ⟨fields, hs, htidy, hfields.trans ?_⟩
      rw [hnone]
      cases hp : p x with
      | true => rfl
      | false =>
        rw [he hp]
        exact (fieldsAfter_nil x rest d).symm
    split at h
    next old hfilter =>
      obtain ⟨hget, -⟩ := Option.filter_eq_some_iff.mp hfilter
      have hfields : pluginFields s = old := by rw [pluginFields, hget]
      obtain ⟨fields, hs, htidy, hfields'⟩ := setTop_along calm closed htrim hkey hx
        (fun hp => by rw [he hp]; exact hd hp) hget h
      refine ⟨fields, hs, htidy, hfields'.trans ?_⟩
      rw [hfields]
      cases hp : p x with
      | true => rfl
      | false => rw [he hp]
    next hother => exact hnothing (pluginFields_of_trivial hother) h

end Plugin

end Store
end Preflight.Settings
