import Preflight.Proofs.Settings.Level
import Preflight.Proofs.Settings.Override
import Preflight.Proofs.Text.Casing

/-! Settings that agree but for some plugins. What gentle settings make of settings that agree agrees
again, unless one of them lays a record over all plugins at once. -/
namespace Preflight.Settings
open Draft
open Entries (outside)
open Text (lower upper trim)

/-! ## Keys at the top -/

/-- But for names with two underscores, a name's key is the name in upper case. -/
theorem topKey_eq_or (name : String) : topKey name = upper name ∨ '_' ∈ (topKey name).toList := by
  have hname := Text.intercalate_split (by decide : "__" ≠ "") name
  rw [topKey]
  cases hparts : Text.split "__" name with
  | nil => simp [Text.split] at hparts
  | cons first rest =>
    cases rest with
    | nil =>
      rw [hparts] at hname
      have hfirst : first = name := by simpa using hname
      exact .inl (by simp [hfirst])
    | cons part parts => exact .inr (by simp)

theorem topKey_of_lower {name word : String} (hword : ∀ c ∈ word.toList, c ∈ Text.smallLetters)
    (h : lower (topKey name) = word) :
    topKey name = .ofList (word.toList.map Text.capital) := by
  rcases topKey_eq_or name with heq | hmem
  · rw [heq] at h ⊢
    exact Text.upper_eq_of_lower hword h
  · have hlower : '_' ∈ word.toList := by
      rw [← h, lower, String.toList_ofList]
      exact Text.mem_lowerFrom hmem
    exact absurd (hword _ hlower) (by decide)

/-- What is read as the settings of plugins has no blanks around its name. -/
theorem trim_of_topKey {first : String} (h : topKey first = "PLUGINS") : trim first = first := by
  rcases topKey_eq_or first with heq | hmem
  · refine Text.trim_eq_self fun c hc => Bool.eq_false_iff.mpr fun hspace => ?_
    have hplugins : c ∈ "PLUGINS".toList :=
      h ▸ heq ▸ upperChar_subset hc (Text.mem_upperChar_of_isSpace hspace)
    have hall : ∀ c ∈ "PLUGINS".toList, Text.isSpace c = false :=
      List.all_iff_forall_prop.mp (by decide)
    exact Bool.false_ne_true ((hall c hplugins).symm.trans hspace)
  · exact absurd (h ▸ hmem) (by decide)

theorem topKey_ne_of_trim {first : String} (h : topKey (trim first) ≠ "PLUGINS") :
    topKey first ≠ "PLUGINS" := fun heq =>
  h ((congrArg topKey (trim_of_topKey heq)).trans heq)

/-! ## Gentle settings -/

/-- A setting that says nothing of how settings are loaded or joined, its texts read. -/
structure Gentle (name : String) (d : Draft) : Prop where
  tame : Tame name
  quiet : ∀ e, expand d = .ok e → Quiet e

/-- A setting that does not lay a record over all plugins at once. -/
def Partial (name : String) (d : Draft) : Prop :=
  ∀ first rest, segments name = first :: rest → topKey (trim first) = "PLUGINS" →
    trim first = first ∧ (rest = [] → ∀ fields, expand d ≠ .ok (.record fields))

/-- A setting that puts nothing else in the place of all plugins. -/
def Sparing (name : String) (d : Draft) : Prop :=
  ∀ first, segments name = [first] → topKey (trim first) = "PLUGINS" →
    ∀ e, expand d = .ok e → ∃ fields, e = .record fields

theorem fields?_of_not_record {d : Draft} (h : ∀ fields, d ≠ .record fields) :
    d.fields? = none := by
  cases d with
  | record fields => exact absurd rfl (h fields)
  | _ => rfl

theorem exists_segments (name : String) : ∃ first rest, segments name = first :: rest :=
  List.exists_cons_of_ne_nil (Text.split_dot_ne_nil _)

namespace Store
variable {p : String → Bool} {P : List (String × Draft) → Prop} {s s' a a' b b' : Store}
  {name : String} {d e : Draft}

/-- A value is read before it is set. -/
theorem exists_of_set (usual : Usual (Entries.keys s)) (h : s.set none name d = .ok s') :
    ∃ e, Settings.expand d = .ok e ∧ (Quiet e → s.set none name e = .ok s') := by
  obtain ⟨first, rest, hsegments⟩ := exists_segments name
  have hpath : s.path name = first :: rest := (path_of_usual usual name).trans hsegments
  rw [set, hpath] at h
  cases rest with
  | nil =>
    simp only [setTop, expand_eq usual] at h
    obtain ⟨e, he, h⟩ := exists_of_bind_eq_ok h
    refine ⟨e, he, fun quiet => ?_⟩
    simp only [set, hpath, setTop, expand_eq usual, expand_quiet quiet]
    exact h
  | cons part more =>
    simp only [expand_eq usual] at h
    obtain ⟨e, he, h⟩ := exists_of_bind_eq_ok h
    refine ⟨e, he, fun quiet => ?_⟩
    simp only [set, hpath, expand_eq usual, expand_quiet quiet]
    exact h

/-- A gentle setting sets a quiet value at the end of its path. -/
theorem exists_of_set_gentle (usual : Usual (Entries.keys s)) (gentle : Gentle name d)
    (h : s.set none name d = .ok s') : ∃ first rest e, segments name = first :: rest ∧
      topKey (trim first) ∉ optionKeys ∧ (∀ part ∈ rest, part ∉ joinWords) ∧
      Settings.expand d = .ok e ∧ Quiet e ∧ s.set none name e = .ok s' := by
  obtain ⟨first, rest, hsegments⟩ := exists_segments name
  obtain ⟨e, hread, hset⟩ := exists_of_set usual h
  have hquiet := gentle.quiet e hread
  exact ⟨first, rest, e, hsegments, gentle.tame.ordinary first (by simp [hsegments]),
    by simpa [hsegments] using gentle.tame.unmarked, hread, hquiet, hset hquiet⟩

/-! ## All settings quiet -/

theorem Calm.get (calm : Calm QuietFields s) {key : String} (h : Entries.get? key s = some d) :
    Quiet d := by
  by_cases hkey : key = "PLUGINS"
  · subst hkey
    rcases calm.plugins d h with hquiet | ⟨fields, rfl, hfields⟩
    · exact hquiet
    · exact quiet_record_iff.mpr hfields
  · exact calm.quiet _ (Entries.mem_of_get? h) hkey

theorem Calm.weaken (calm : Calm QuietFields s) (P : List (String × Draft) → Prop) : Calm P s where
  nodup := calm.nodup
  keyed := calm.keyed
  usual := calm.usual
  quiet := calm.quiet
  plugins _ h := .inl (calm.get h)

theorem usual_put (usual : Usual (Entries.keys s)) {key : String} (hkey : key ∉ optionKeys)
    (d : Draft) : Usual (Entries.keys (Entries.put key d s)) := fun option hoption hmem => by
  rcases Entries.mem_keys_put.mp hmem with rfl | hmem
  · exact hkey hoption
  · exact usual option hoption hmem

theorem Calm.put (calm : Calm P s) {key : String} (hname : ∃ name, topKey name = key)
    (hkey : key ∉ optionKeys) (hquiet : key ≠ "PLUGINS" → Quiet d)
    (hplugins : key = "PLUGINS" → Quiet d ∨ ∃ fields, d = .record fields ∧ P fields) :
    Calm P (Entries.put key d s) where
  nodup := Entries.nodup_keys_put calm.nodup key d
  keyed k hk := by
    rcases Entries.mem_keys_put.mp hk with rfl | hk
    · exact hname
    · exact calm.keyed k hk
  usual := usual_put calm.usual hkey d
  quiet f hf hne := by
    rcases Entries.mem_put hf with hf | rfl
    · exact calm.quiet f hf hne
    · exact hquiet hne
  plugins e he := by
    by_cases heq : key = "PLUGINS"
    · subst heq
      rw [Entries.get?_put_self] at he
      exact Option.some.inj he ▸ hplugins rfl
    · rw [Entries.get?_put_of_ne (Ne.symm heq)] at he
      exact calm.plugins e he

theorem Calm.put_quiet (calm : Calm P s) (hkey : topKey name ∉ optionKeys) (hd : Quiet d) :
    Calm P (Entries.put (topKey name) d s) :=
  calm.put ⟨name, rfl⟩ hkey (fun _ => hd) fun _ => .inl hd

theorem Calm.put_plugins (calm : Calm P s)
    (h : Quiet d ∨ ∃ fields, d = .record fields ∧ P fields) :
    Calm P (Entries.put "PLUGINS" d s) :=
  calm.put ⟨"PLUGINS", by decide +kernel⟩ (by decide) (absurd rfl) fun _ => h

theorem Calm.set (calm : Calm QuietFields s) (gentle : Gentle name d)
    (h : s.set none name d = .ok s') : Calm QuietFields s' := by
  obtain ⟨first, rest, e, hsegments, hkey, hunmarked, -, hquiet, hset⟩ :=
    exists_of_set_gentle calm.usual gentle h
  have hput := (set_quiet calm.usual hsegments (fun _ => calm.get) hunmarked hquiet).symm.trans hset
  rw [← Except.ok.inj hput]
  exact calm.put_quiet hkey (quiet_setOver (fun _ => calm.get) (fun _ => calm.get) hunmarked hquiet)

/-! ## Settings that agree -/

theorem pluginFields_put_of_ne {key : String} (h : key ≠ "PLUGINS") (d : Draft) (s : Store) :
    pluginFields (Entries.put key d s) = pluginFields s := by
  rw [pluginFields, Entries.get?_put_of_ne h.symm, pluginFields]

theorem pluginFields_put_record (fields : List (String × Draft)) (s : Store) :
    pluginFields (Entries.put "PLUGINS" (.record fields) s) = fields := by
  rw [pluginFields, Entries.get?_put_self]

theorem pluginFields_put_of_none (h : d.fields? = none) (s : Store) :
    pluginFields (Entries.put "PLUGINS" d s) = [] := by
  rw [pluginFields, Entries.get?_put_self]
  cases d with
  | record fields => cases h
  | _ => rfl

/-- What is no record puts an end to a record. -/
theorem laidOn_of_none {old : Option Draft} (hd : Quiet d) (hnone : d.fields? = none)
    (hold : ∀ x ∈ old, Quiet x ∨ ∃ fields, x = .record fields) :
    Quiet (laidOn old d) ∧ (laidOn old d).fields? = none := by
  cases old with
  | none => exact ⟨hd, hnone⟩
  | some old =>
    have hmerged : (merge old false d).fields? = none := by
      cases d with
      | record fields => cases hnone
      | list items =>
        cases old with
        | list more =>
          rw [merge]
          split <;> rfl
        | _ => rfl
      | _ => cases old <;> exact hnone
    rw [laidOn_quiet hd]
    refine ⟨?_, hmerged⟩
    rcases hold old rfl with hquiet | ⟨fields, rfl⟩
    · exact quiet_merge hquiet false hd
    · cases hd with
      | record => cases hnone
      | list all => exact .list all
      | plain atom text => exact .plain atom text

/-- Settings that are the same, and quiet, but for some plugins. -/
structure Agree (p : String → Bool) (a b : Store) : Prop where
  left : Calm (Tidy Quiet p) a
  right : Calm (Tidy Quiet p) b
  others : ∀ key, key ≠ "PLUGINS" → Entries.get? key a = Entries.get? key b
  plugins : outside p (pluginFields a) = outside p (pluginFields b)

theorem Agree.put (agree : Agree p a b) (hne : topKey name ≠ "PLUGINS")
    (hkey : topKey name ∉ optionKeys) (hd : Quiet d) :
    Agree p (Entries.put (topKey name) d a) (Entries.put (topKey name) d b) where
  left := agree.left.put_quiet hkey hd
  right := agree.right.put_quiet hkey hd
  others k hk := by
    by_cases heq : k = topKey name
    · rw [heq, Entries.get?_put_self, Entries.get?_put_self]
    · rw [Entries.get?_put_of_ne heq, Entries.get?_put_of_ne heq, agree.others k hk]
  plugins := by rw [pluginFields_put_of_ne hne, pluginFields_put_of_ne hne, agree.plugins]

theorem Agree.put_plugins (agree : Agree p a b)
    (hd : Quiet d ∨ ∃ fields, d = .record fields ∧ Tidy Quiet p fields)
    (he : Quiet e ∨ ∃ fields, e = .record fields ∧ Tidy Quiet p fields)
    (h : outside p (pluginFields (Entries.put "PLUGINS" d a)) =
      outside p (pluginFields (Entries.put "PLUGINS" e b))) :
    Agree p (Entries.put "PLUGINS" d a) (Entries.put "PLUGINS" e b) where
  left := agree.left.put_plugins hd
  right := agree.right.put_plugins he
  others k hk := by rw [Entries.get?_put_of_ne hk, Entries.get?_put_of_ne hk, agree.others k hk]
  plugins := h

theorem Calm.set_whole (calm : Calm P s) {first : String} (htrim : trim first = first)
    (hkey : topKey first = "PLUGINS") (hsegments : segments name = [first]) (hd : Quiet d)
    (hnone : d.fields? = none) (h : s.set none name d = .ok s') :
    ∃ e, s' = Entries.put "PLUGINS" e s ∧ Quiet e ∧ e.fields? = none := by
  have hpath : s.path name = [first] := (path_of_usual calm.usual name).trans hsegments
  have hset := setTop_quiet calm.usual hd first
  rw [htrim, hkey] at hset
  rw [Store.set, hpath] at h
  refine ⟨_, (Except.ok.inj (hset.symm.trans h)).symm, laidOn_of_none hd hnone fun x hx => ?_⟩
  exact (calm.plugins x hx).imp_right (Exists.imp fun _ => And.left)

theorem Calm.get_of_ne (calm : Calm P s) {key : String} (hne : key ≠ "PLUGINS")
    (h : Entries.get? key s = some d) : Quiet d := calm.quiet _ (Entries.mem_of_get? h) hne

/-- What is not about plugins is set as among quiet settings. -/
theorem Calm.set_other (calm : Calm P s) {first : String} {rest : List String}
    (hsegments : segments name = first :: rest) (hne : topKey (trim first) ≠ "PLUGINS")
    (hrest : ∀ part ∈ rest, part ∉ joinWords) (hd : Quiet d) (h : s.set none name d = .ok s') :
    ∃ e, Quiet e ∧
      e = setOver (Entries.get? (topKey first) s) (Entries.get? (topKey (trim first)) s) rest d ∧
      s' = Entries.put (topKey (trim first)) e s := by
  have hthere : ∀ x, Entries.get? (topKey first) s = some x → Quiet x :=
    fun _ => calm.get_of_ne (topKey_ne_of_trim hne)
  have hput := (set_quiet calm.usual hsegments hthere hrest hd).symm.trans h
  exact ⟨_, quiet_setOver hthere (fun _ => calm.get_of_ne hne) hrest hd, rfl,
    (Except.ok.inj hput).symm⟩

theorem Agree.set_other (agree : Agree p a b) {first : String} {rest : List String}
    (hsegments : segments name = first :: rest) (hne : topKey (trim first) ≠ "PLUGINS")
    (hkey : topKey (trim first) ∉ optionKeys) (hrest : ∀ part ∈ rest, part ∉ joinWords)
    (hd : Quiet d) (ha : a.set none name d = .ok a') (hb : b.set none name d = .ok b') :
    Agree p a' b' := by
  obtain ⟨e, he, hover, rfl⟩ := agree.left.set_other hsegments hne hrest hd ha
  obtain ⟨e', -, hover', rfl⟩ := agree.right.set_other hsegments hne hrest hd hb
  have hsame : e' = e := by
    rw [hover', hover, agree.others _ (topKey_ne_of_trim hne), agree.others _ hne]
  rw [hsame]
  exact agree.put hne hkey he

/-- What gentle settings make of settings that agree agrees again. -/
theorem Agree.set (closed : Closed p) (agree : Agree p a b) (gentle : Gentle name d)
    (apart : Partial name d) (ha : a.set none name d = .ok a') (hb : b.set none name d = .ok b') :
    Agree p a' b' := by
  obtain ⟨first, rest, e, hsegments, hordinary, hunmarked, hread, hquiet, hseta⟩ :=
    exists_of_set_gentle agree.left.usual gentle ha
  obtain ⟨_, _, _, -, -, -, hread', -, hsetb⟩ := exists_of_set_gentle agree.right.usual gentle hb
  obtain rfl : e = _ := Except.ok.inj (hread.symm.trans hread')
  by_cases hplugins : topKey (trim first) = "PLUGINS"
  · obtain ⟨htrim, hwhole⟩ := apart first rest hsegments hplugins
    rw [htrim] at hplugins
    cases rest with
    | nil =>
      have hnone := fields?_of_not_record fun fields heq => hwhole rfl fields (heq ▸ hread)
      obtain ⟨x, rfl, hx, hxnone⟩ :=
        agree.left.set_whole htrim hplugins hsegments hquiet hnone hseta
      obtain ⟨y, rfl, hy, hynone⟩ :=
        agree.right.set_whole htrim hplugins hsegments hquiet hnone hsetb
      refine agree.put_plugins (.inl hx) (.inl hy) ?_
      rw [pluginFields_put_of_none hxnone, pluginFields_put_of_none hynone]
    | cons x more =>
      obtain ⟨hx, hmore⟩ := List.forall_mem_cons.mp hunmarked
      obtain ⟨fields, rfl, htidy, hfields⟩ := set_plugin agree.left closed htrim hplugins hx
        (fun _ => ⟨hquiet, hmore⟩) hsegments hseta
      obtain ⟨fields', rfl, htidy', hfields'⟩ := set_plugin agree.right closed htrim hplugins hx
        (fun _ => ⟨hquiet, hmore⟩) hsegments hsetb
      refine agree.put_plugins (.inr ⟨_, rfl, htidy⟩) (.inr ⟨_, rfl, htidy'⟩) ?_
      rw [pluginFields_put_record, pluginFields_put_record, hfields, hfields', agree.plugins]
  · exact agree.set_other hsegments hplugins hordinary hunmarked hquiet hseta hsetb

/-- A path into a plugin that is set aside, whatever is at its end, makes settings that agree with
those before it. -/
theorem Calm.agree_set (calm : Calm QuietFields s) (closed : Closed p) {first x : String}
    {rest : List String} (hkey : topKey first = "PLUGINS") (hx : x ∉ joinWords) (hp : p x = true)
    (hsegments : segments name = first :: x :: rest) (h : s.set none name d = .ok s') :
    Agree p s s' := by
  obtain ⟨fields, rfl, htidy, hfields⟩ := set_plugin (calm.weaken (Tidy Quiet p)) closed
    (trim_of_topKey hkey) hkey hx (fun hout => absurd (hp.symm.trans hout) (by decide)) hsegments h
  rw [hp, if_pos rfl] at hfields
  exact {
    left := calm.weaken _
    right := (calm.weaken _).put_plugins (.inr ⟨_, rfl, htidy⟩)
    others := fun key hne => (Entries.get?_put_of_ne hne _ _).symm
    plugins := by rw [pluginFields_put_record, hfields] }

/-! ## Setting after setting -/

variable {settings : List (String × Draft)}

theorem exists_of_setAll_cons {f : String × Draft} (h : setAll none (f :: settings) s = .ok s') :
    ∃ middle, s.set none f.1 f.2 = .ok middle ∧ setAll none settings middle = .ok s' :=
  exists_of_bind_eq_ok h

theorem Calm.setAll (calm : Calm QuietFields s) (gentle : ∀ f ∈ settings, Gentle f.1 f.2)
    (h : setAll none settings s = .ok s') : Calm QuietFields s' := by
  induction settings generalizing s with
  | nil =>
    cases h
    exact calm
  | cons f rest ih =>
    obtain ⟨hgentle, hmore⟩ := List.forall_mem_cons.mp gentle
    obtain ⟨middle, hset, hrest⟩ := exists_of_setAll_cons h
    exact ih (calm.set hgentle hset) hmore hrest

theorem Agree.setAll (closed : Closed p) (agree : Agree p a b)
    (gentle : ∀ f ∈ settings, Gentle f.1 f.2) (apart : ∀ f ∈ settings, Partial f.1 f.2)
    (ha : setAll none settings a = .ok a') (hb : setAll none settings b = .ok b') :
    Agree p a' b' := by
  induction settings generalizing a b with
  | nil =>
    cases ha
    cases hb
    exact agree
  | cons f rest ih =>
    obtain ⟨hgentle, hmore⟩ := List.forall_mem_cons.mp gentle
    obtain ⟨hapart, hothers⟩ := List.forall_mem_cons.mp apart
    obtain ⟨a₁, hseta, hresta⟩ := exists_of_setAll_cons ha
    obtain ⟨b₁, hsetb, hrestb⟩ := exists_of_setAll_cons hb
    exact ih (agree.set closed hgentle hapart hseta hsetb) hmore hothers hresta hrestb

theorem setAll_append (settings more : List (String × Draft)) (s : Store) :
    setAll none (settings ++ more) s = setAll none settings s >>= setAll none more := by
  induction settings generalizing s with
  | nil => rfl
  | cons f rest ih =>
    rw [List.cons_append, Store.setAll, Store.setAll, bind_assoc]
    exact bind_congr fun middle => ih middle

end Store
end Preflight.Settings
