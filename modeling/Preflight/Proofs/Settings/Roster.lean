import Preflight.Proofs.Settings.Agreement

/-! The names of plugins. What is inside of a plugin's settings does not matter to them as long as
the plugin stays a record: a path that begins at a plugin's name adds this name, or none when it
means one that is there, whatever the path sets. -/
namespace Preflight.Settings
open Draft
open Entries (outside)
open Text (trim)

/-- A quiet value, or a record of any values under keys that are no marks. -/
inductive Firm : Draft → Prop where
  | quiet {d : Draft} (h : Quiet d) : Firm d
  | record {fields : List (String × Draft)} (keys : ∀ key ∈ Entries.keys fields, key ∉ joinWords) :
      Firm (.record fields)

variable {fields old new laid : List (String × Draft)} {d e : Draft} {x key : String}
  {rest names : List String}

theorem Firm.keys (h : Firm (.record fields)) : ∀ key ∈ Entries.keys fields, key ∉ joinWords :=
  match h with
  | .quiet h => (quiet_record_iff.mp h).keys
  | .record keys => keys

theorem merge_unmarked (hold : ∀ key ∈ Entries.keys old, key ∉ joinWords)
    (hnew : ∀ key ∈ Entries.keys new, key ∉ joinWords) (unique : Bool) :
    ∃ fields, merge (.record old) unique (.record new) = .record fields ∧
      ∀ key ∈ Entries.keys fields, key ∉ joinWords := by
  rw [merge_records hold hnew]
  split
  · exact ⟨new, rfl, hnew⟩
  · exact ⟨_, rfl, fun key hkey => (mem_keys_layFields hkey).elim (hold key) fun hkey =>
      (mem_keys_rename hkey).elim (hold key) (hnew key)⟩

theorem firm_merge (hd : Firm d) (unique : Bool) (he : Firm e) : Firm (merge d unique e) := by
  cases e with
  | record new =>
    cases d with
    | record old =>
      obtain ⟨fields, hmerge, keys⟩ := merge_unmarked hd.keys he.keys unique
      rw [hmerge]
      exact .record keys
    | _ => exact he
  | list more =>
    cases d with
    | list items =>
      obtain h | _ := hd
      obtain h' | _ := he
      exact .quiet (quiet_merge h unique h')
    | _ => exact he
  | _ => cases d <;> exact he

theorem lasting_firm : Lasting Firm where
  change h join old := by
    cases h with
    | quiet h => exact change_quiet join old h
    | @record fields keys =>
      have halter : alter join old (.record fields) = some (.record fields) := rfl
      rw [change, halter, Option.map_some, applyMarks_of_unmarked _ _ keys]
  leave h := by
    cases h with
    | quiet h => exact leave_quiet h
    | record keys => rw [leave, takeMarks_of_unmarked keys]
  merge := firm_merge

theorem FieldsOf.firm (h : QuietFields fields) : FieldsOf Firm fields :=
  ⟨h.nodup, h.keys, fun f hf => .quiet (h.all f hf)⟩

/-! ## Read -/

theorem firm_expand (h : Firm d) (hread : expand d = .ok e) : Firm e := by
  cases h with
  | quiet h =>
    obtain rfl : d = e := Except.ok.inj ((expand_quiet h).symm.trans hread)
    exact .quiet h
  | @record fields keys =>
    rw [expand] at hread
    cases hfields : expandFields fields with
    | error fault =>
      rw [hfields] at hread
      cases hread
    | ok new =>
      rw [hfields] at hread
      cases hread
      exact .record ((Store.expandFields_outside (p := fun _ => true) hfields).1.symm ▸ keys)

theorem firm_expandFields (h : FieldsOf Firm fields) (hread : expandFields fields = .ok new) :
    FieldsOf Firm new ∧ Entries.keys new = Entries.keys fields := by
  have hkeys := (Store.expandFields_outside (p := fun _ => true) hread).1
  refine ⟨⟨hkeys.symm ▸ h.nodup, hkeys.symm ▸ h.keys, ?_⟩, hkeys⟩
  have hall := h.all
  clear h hkeys
  induction fields generalizing new with
  | nil =>
    cases hread
    exact List.forall_mem_nil _
  | cons f rest ih =>
    obtain ⟨key, d⟩ := f
    obtain ⟨e, more, he, hrest, rfl⟩ := Store.exists_of_expandFields_cons hread
    obtain ⟨hd, hothers⟩ := List.forall_mem_cons.mp hall
    exact List.forall_mem_cons.mpr ⟨firm_expand hd he, ih hrest hothers⟩

/-! ## One name more -/

/-- Names with one more, unless it means one that is there. -/
def withName (x : String) (names : List String) : List String :=
  if (findKey? x names).isSome then names else names ++ [x]

theorem keys_put_matchKey (x : String) (d : Draft) (old : List (String × Draft)) :
    Entries.keys (Entries.put (matchKey x old) d old) = withName x (Entries.keys old) := by
  rw [Entries.keys_put, matchKey, withName]
  cases hfound : findKey? x (Entries.keys old) with
  | some key => simp [mem_of_findKey? hfound]
  | none =>
    have hx : x ∉ Entries.keys old := fun hmem => by
      rw [findKey?_self hmem] at hfound
      cases hfound
    simp [hx]

/-- A record laid over one that has all its names but perhaps the last. -/
theorem firm_merge_withName (hold : FieldsOf Firm old) (hnew : FieldsOf Firm new)
    (hkeys : Entries.keys new = withName x (Entries.keys old)) (unique : Bool) :
    ∃ fields, merge (.record old) unique (.record new) = .record fields ∧ FieldsOf Firm fields ∧
      Entries.keys fields = withName x (Entries.keys old) := by
  have hsplit : ∃ names, withName x (Entries.keys old) = Entries.keys old ++ names ∧
      names.length ≤ 1 ∧ ∀ name ∈ names, findKey? name (Entries.keys old) = none := by
    rw [withName]
    cases hfound : findKey? x (Entries.keys old) with
    | some key => exact ⟨[], by simp, Nat.zero_le 1, List.forall_mem_nil _⟩
    | none => exact ⟨[x], by simp, Nat.le_refl 1, List.forall_mem_singleton.mpr hfound⟩
  obtain ⟨names, hnames, hlength, hfresh⟩ := hsplit
  obtain ⟨part, more, rfl, hpart, rfl⟩ := List.map_eq_append_iff.mp (hkeys.trans hnames)
  obtain ⟨fields, hmerge, -, hfields⟩ := outside_merge lasting_firm (p := fun _ => false)
    (fun _ _ _ => rfl) (hold.tidy _) (hnew.tidy _) part more (Entries.outside_nothing _)
    (by rw [Entries.outside_nothing]; exact hpart) (by simpa using hlength) hfresh unique
  rw [Entries.outside_nothing, Entries.outside_nothing] at hfields
  refine ⟨fields, hmerge, hfields ▸ hnew.map_laidOver lasting_firm hold, ?_⟩
  rw [hfields, keys_map_laidOver, hkeys]

/-- A path that begins at a name, laid over a record. -/
theorem layAlong_firm (hold : FieldsOf Firm old) (hx : x ∉ joinWords)
    (hrest : ∀ part ∈ rest.head?, part ∉ joinWords) (hd : rest = [] → Firm d) :
    ∃ left laid, layAlong (x :: rest) d old = (left, laid) ∧ FieldsOf Firm left ∧
      Entries.keys left = Entries.keys old ∧ FieldsOf Firm laid ∧
      Entries.keys laid = withName x (Entries.keys old) := by
  have hkey := matchKey_unmarked hx hold.keys
  have hfield : ∀ {more : List (String × Draft)} {e : Draft}, FieldsOf Firm more → Firm e →
      layField (matchKey x old) e more = (more, Entries.put (matchKey x old) e more) :=
    fun hmore he => by
      have hlaid := outside_layField lasting_firm (hmore.tidy fun _ => false) hkey rfl he
      simp only [Entries.outside_nothing] at hlaid
      exact Prod.ext hlaid.1 hlaid.2
  have hput : ∀ {e : Draft}, Firm e → FieldsOf Firm (Entries.put (matchKey x old) e old) :=
    fun he => hold.put hkey he
  cases rest with
  | nil =>
    rw [layAlong]
    refine ⟨_, _, hfield hold ?_, hold, rfl, hput ?_, keys_put_matchKey x _ old⟩ <;>
    · split
      · exact hd rfl
      · cases hget : Entries.get? (matchKey x old) old with
        | none => exact hd rfl
        | some y => exact firm_merge (hold.get hget) false (hd rfl)
  | cons part more =>
    have hpart : part ∉ joinWords := hrest part rfl
    rw [layAlong]
    · split
      next inner hget =>
        have hinner := (hold.get hget).keys
        obtain ⟨hleft, hlaid⟩ := layAlong_unmarked hinner hpart more d
        have hthere : Entries.keys (Entries.put (matchKey x old)
            (.record (layAlong (part :: more) d inner).1) old) = Entries.keys old := by
          rw [Entries.keys_put, if_pos (Entries.mem_keys_of_get? hget)]
        refine ⟨_, _, hfield (hput (.record hleft)) (.record hlaid), hput (.record hleft), hthere,
          ?_, ?_⟩
        · rw [Entries.put_put]
          exact hput (.record hlaid)
        · rw [Entries.put_put, keys_put_matchKey]
      next =>
        have hnest : Firm (nest (part :: more) d) :=
          .record (List.forall_mem_singleton.mpr hpart)
        exact ⟨_, _, hfield hold hnest, hold, rfl, hput hnest, keys_put_matchKey x _ old⟩
    · simp

/-! ## No name lost -/

/-- The name of a new field for an old key, or the key. -/
def target (key : String) (names : List String) : String := (findKey? key names).getD key

theorem mergeField_quiet (key : String) (hx : Quiet d) (hlaid : QuietFields laid)
    (hnames : names ⊆ Entries.keys laid) :
    ∃ e, Quiet e ∧ mergeField true names (key, d) laid = Entries.put (target key names) e laid := by
  rw [mergeField, target]
  simp only [if_true]
  cases hfound : findKey? key names with
  | none => exact ⟨d, hx, by simp [keep_quiet hx, putField]⟩
  | some name =>
    obtain ⟨y, hy⟩ : ∃ y, Entries.get? name laid = some y :=
      Option.ne_none_iff_exists'.mp fun h =>
        Entries.get?_eq_none_iff.mp h (hnames (mem_of_findKey? hfound))
    have hmerged := quiet_merge hx false (hlaid.get hy)
    exact ⟨merge d false y, hmerged, by simp [hy, change_quiet _ _ hmerged, putField]⟩

theorem keys_mergeFields (hold : QuietFields old) (hlaid : QuietFields laid)
    (unmarked : ∀ name ∈ names, name ∉ joinWords) (hnames : names ⊆ Entries.keys laid) :
    Entries.keys laid ⊆ Entries.keys (mergeFields true names old laid) ∧
      ∀ key ∈ Entries.keys old,
        target key names ∈ Entries.keys (mergeFields true names old laid) := by
  induction old generalizing laid with
  | nil => exact ⟨List.Subset.refl _, List.forall_mem_nil _⟩
  | cons f rest ih =>
    obtain ⟨key, d⟩ := f
    obtain ⟨hd, hall⟩ := List.forall_mem_cons.mp hold.all
    obtain ⟨hkey, hkeys⟩ := List.forall_mem_cons.mp hold.keys
    obtain ⟨e, he, hfield⟩ := mergeField_quiet key hd hlaid hnames
    have htarget : target key names ∉ joinWords := by
      rw [target]
      cases hfound : findKey? key names with
      | none => exact hkey
      | some name => exact unmarked name (mem_of_findKey? hfound)
    have hsub := Entries.subset_keys_put (target key names) e laid
    obtain ⟨hstay, htargets⟩ := ih ⟨(List.nodup_cons.mp hold.nodup).2, hkeys, hall⟩
      (hlaid.put htarget he) (List.Subset.trans hnames hsub)
    rw [mergeFields, hfield]
    exact ⟨List.Subset.trans hsub hstay,
      List.forall_mem_cons.mpr ⟨hstay (Entries.mem_keys_put_self _ e laid), htargets⟩⟩

theorem subset_keys_putFresh (hlaid : QuietFields laid)
    (unmarked : ∀ name ∈ names, name ∉ joinWords) :
    Entries.keys laid ⊆ Entries.keys (putFresh names laid) := by
  refine (List.foldlRecOn (motive := fun result => QuietFields result ∧
    Entries.keys laid ⊆ Entries.keys result) names _ ⟨hlaid, List.Subset.refl _⟩
    fun result ⟨hresult, hsub⟩ name hname => ?_).2
  cases hget : Entries.get? name result with
  | none =>
    have hstay : Entries.without [name] result = result :=
      Entries.without_of_not_mem fun k hk =>
        List.mem_singleton.mp hk ▸ Entries.get?_eq_none_iff.mp hget
    rw [Option.bind_none, putField, hstay]
    exact ⟨hresult, hsub⟩
  | some d =>
    have hd := hresult.get hget
    rw [Option.bind_some, change_quiet _ _ hd, putField]
    exact ⟨hresult.put (unmarked name hname) hd,
      List.Subset.trans hsub (Entries.subset_keys_put name d result)⟩

theorem mem_keys_arrange_of {keys : List String} (hkey : key ∈ keys)
    (h : target key names ∈ Entries.keys laid) : key ∈ Entries.keys (arrange keys names laid) := by
  obtain ⟨d, hd⟩ : ∃ d, ((Entries.get? key laid).or
      ((names.find? (means key)).bind (Entries.get? · laid))) = some d := by
    obtain ⟨e, he⟩ : ∃ e, Entries.get? (target key names) laid = some e :=
      Option.ne_none_iff_exists'.mp fun hnone => Entries.get?_eq_none_iff.mp hnone h
    rw [target, findKey?] at he
    cases hget : Entries.get? key laid with
    | some d => exact ⟨d, rfl⟩
    | none =>
      split at he
      · cases hget.symm.trans he
      · cases hfound : names.find? (means key) with
        | none =>
          rw [hfound] at he
          cases hget.symm.trans he
        | some name =>
          rw [hfound] at he
          exact ⟨e, he⟩
  rw [arrange, Entries.keys, List.map_append]
  refine List.mem_append_left _ (List.mem_map.mpr ⟨(key, d), ?_, rfl⟩)
  exact List.mem_filterMap.mpr ⟨key, hkey, by rw [hd]; rfl⟩

/-- No field is lost when quiet records are laid over each other. -/
theorem subset_keys_merge (hold : QuietFields old) (hnew : QuietFields new) (unique : Bool)
    (h : merge (.record old) unique (.record new) = .record fields) :
    Entries.keys old ⊆ Entries.keys fields := by
  intro key hkey
  have hnamed := quiet_rename hold.keys hnew
  have hlaid := quiet_mergeFields (fun f hf unique d hd => quiet_merge (hold.all f hf) unique hd)
    hold hnamed.keys hnamed
  rw [merge_records hold.keys hnew.keys] at h
  split at h
  next hsame =>
    cases h
    rw [same, Bool.and_eq_true, sameFields_iff] at hsame
    obtain ⟨f, hf, rfl⟩ := List.mem_map.mp hkey
    obtain ⟨d, hd, -⟩ := hsame.2 f hf
    exact Entries.mem_keys_of_get? hd
  next =>
    cases h
    refine mem_keys_arrange_of hkey (subset_keys_putFresh hlaid (fun name hname => ?_) ?_)
    · exact hnamed.keys name (List.mem_of_mem_filter hname)
    · exact (keys_mergeFields hold hnamed hnamed.keys (List.Subset.refl _)).2 key hkey

theorem isSome_findKey?_mono {more : List String} (h : names ⊆ more)
    (hfound : (findKey? x names).isSome = true) : (findKey? x more).isSome = true := by
  rw [findKey?] at hfound ⊢
  split at hfound
  next hmem => rw [if_pos (h hmem)]; rfl
  next =>
    split
    · rfl
    · obtain ⟨key, hkey, hmeans⟩ := List.find?_isSome.mp hfound
      exact List.find?_isSome.mpr ⟨key, h hkey, hmeans⟩

theorem isSome_findKey?_of_same (h : key ∈ names)
    (hsame : Text.sameIgnoringCase key x = true) : (findKey? x names).isSome = true := by
  have hmeans : means x key = true := Bool.or_eq_true_iff.mpr (.inl hsame)
  rw [findKey?]
  split
  · rfl
  · exact List.find?_isSome.mpr ⟨key, h, hmeans⟩

namespace Store
variable {s s' : Store} {first name : String}

def pluginNames (s : Store) : List String := Entries.keys (pluginFields s)

theorem Calm.firm (calm : Calm (FieldsOf Firm) s)
    (h : Entries.get? "PLUGINS" s = some (.record fields)) : FieldsOf Firm fields := by
  rcases calm.plugins _ h with hquiet | ⟨_, heq, hfields⟩
  · exact (quiet_record_iff.mp hquiet).firm
  · cases heq
    exact hfields

section Name
variable (calm : Calm (FieldsOf Firm) s) (hkey : topKey first = "PLUGINS") (hx : x ∉ joinWords)
  (hrest : ∀ part ∈ rest.head?, part ∉ joinWords)
include calm hkey hx hrest

theorem setTop_name (hnone : pluginFields s = []) (hd : rest = [] → Firm d)
    (h : s.setTop none first (nest (x :: rest) d) = .ok s') :
    ∃ fields, s' = Entries.put "PLUGINS" (.record fields) s ∧ FieldsOf Firm fields ∧
      Entries.keys fields = withName x [] := by
  obtain ⟨new, hnew, rfl⟩ := exists_of_setTop_record calm.usual h
  rw [trim_of_topKey hkey, hkey]
  have hvalue : Firm (nest rest d) := by
    cases rest with
    | nil => exact hd rfl
    | cons part more => exact .record (List.forall_mem_singleton.mpr (hrest part rfl))
  obtain ⟨hfirm, hkeys⟩ := firm_expandFields (FieldsOf.nil.put hx hvalue) hnew
  have hone : Entries.keys new = withName x [] := hkeys
  cases hget : Entries.get? "PLUGINS" s with
  | none => exact ⟨new, rfl, hfirm, hone⟩
  | some old =>
    rw [laidOn_record hfirm.keys]
    cases old with
    | record fields =>
      rw [pluginFields, hget] at hnone
      cases hnone
      obtain ⟨fields, hmerge, hfields, hnames⟩ := firm_merge_withName .nil hfirm hone false
      exact ⟨fields, by rw [hmerge], hfields, hnames⟩
    | _ => exact ⟨new, rfl, hfirm, hone⟩

theorem setTop_name_along (hget : Entries.get? "PLUGINS" s = some (.record old))
    (hd : rest = [] → Firm d)
    (h : setTop none first
      (applyMarks (merge (.record (layAlong (x :: rest) d old).1) false)
        (some (.record (layAlong (x :: rest) d old).1)) (.record (layAlong (x :: rest) d old).2))
      (Entries.put "PLUGINS" (.record (layAlong (x :: rest) d old).1) s) = .ok s') :
    ∃ fields, s' = Entries.put "PLUGINS" (.record fields) s ∧ FieldsOf Firm fields ∧
      Entries.keys fields = withName x (Entries.keys old) := by
  obtain ⟨left, laid, hlay, hleft, hleftKeys, hlaid, hlaidKeys⟩ :=
    layAlong_firm (calm.firm hget) hx hrest hd
  rw [hlay, applyMarks_of_unmarked _ _ hlaid.keys] at h
  have husual : Usual (Entries.keys (Entries.put "PLUGINS" (.record left) s)) :=
    usual_put calm.usual (by decide) _
  obtain ⟨new, hnew, rfl⟩ := exists_of_setTop_record husual h
  obtain ⟨hfirm, hkeys⟩ := firm_expandFields hlaid hnew
  obtain ⟨fields, hmerge, hfields, hnames⟩ := firm_merge_withName hleft hfirm
    (by rw [hkeys, hlaidKeys, hleftKeys]) false
  rw [trim_of_topKey hkey, hkey, Entries.get?_put_self, laidOn_record hfirm.keys, Entries.put_put,
    hmerge]
  exact ⟨fields, rfl, hfields, by rw [hnames, hleftKeys]⟩

/-- A path into a plugin's settings adds the plugin's name, unless it is there. -/
theorem set_name (hsegments : segments name = first :: x :: rest)
    (hd : rest = [] → ∀ e, Settings.expand d = .ok e → Firm e) (h : s.set none name d = .ok s') :
    ∃ fields, s' = Entries.put "PLUGINS" (.record fields) s ∧ FieldsOf Firm fields ∧
      Entries.keys fields = withName x (pluginNames s) := by
  have hpath : s.path name = first :: x :: rest := (path_of_usual calm.usual name).trans hsegments
  rw [set, hpath] at h
  simp only [expand_eq calm.usual, hkey] at h
  cases hread : Settings.expand d with
  | error fault =>
    rw [hread] at h
    cases h
  | ok e =>
    rw [hread] at h
    simp only [bind, Except.bind] at h
    have hfirm : rest = [] → Firm e := fun hnil => hd hnil e hread
    split at h
    next old hfilter =>
      obtain ⟨hget, -⟩ := Option.filter_eq_some_iff.mp hfilter
      have hnames : pluginNames s = Entries.keys old := by rw [pluginNames, pluginFields, hget]
      rw [hnames]
      exact setTop_name_along calm hkey hx hrest hget hfirm h
    next hother =>
      have hnone : pluginFields s = [] := pluginFields_of_trivial hother
      rw [pluginNames, hnone]
      exact setTop_name calm hkey hx hrest hnone hfirm h

end Name

/-- The names after a setting, by its name alone. What is set in the place of all plugins leaves
none. -/
def namesAfter (name : String) (names : List String) : List String :=
  match segments name with
  | [] => names
  | first :: rest =>
    if topKey (trim first) = "PLUGINS" then rest.head?.elim [] (withName · names) else names

theorem Calm.set_firm (calm : Calm (FieldsOf Firm) s) (gentle : Gentle name d)
    (apart : Partial name d) (h : s.set none name d = .ok s') :
    Calm (FieldsOf Firm) s' ∧ pluginNames s' = namesAfter name (pluginNames s) := by
  obtain ⟨first, rest, e, hsegments, hordinary, hunmarked, hread, hquiet, hset⟩ :=
    exists_of_set_gentle calm.usual gentle h
  by_cases hplugins : topKey (trim first) = "PLUGINS"
  · obtain ⟨htrim, hwhole⟩ := apart first rest hsegments hplugins
    cases rest with
    | nil =>
      have hnone := fields?_of_not_record fun fields heq => hwhole rfl fields (heq ▸ hread)
      obtain ⟨y, rfl, hy, hynone⟩ :=
        calm.set_whole htrim (htrim ▸ hplugins) hsegments hquiet hnone hset
      refine ⟨calm.put_plugins (.inl hy), ?_⟩
      rw [pluginNames, pluginFields_put_of_none hynone, namesAfter, hsegments]
      simp only [hplugins, if_true]
      rfl
    | cons x more =>
      obtain ⟨hx, hmore⟩ := List.forall_mem_cons.mp hunmarked
      obtain ⟨fields, rfl, hfields, hnames⟩ := set_name calm (htrim ▸ hplugins) hx
        (fun part hpart => hmore part (List.mem_of_head? hpart)) hsegments
        (fun _ e he => .quiet (gentle.quiet e he)) h
      refine ⟨calm.put_plugins (.inr ⟨_, rfl, hfields⟩), ?_⟩
      rw [pluginNames, pluginFields_put_record, hnames, namesAfter, hsegments]
      simp only [hplugins, if_true]
      rfl
  · obtain ⟨y, hy, -, rfl⟩ := calm.set_other hsegments hplugins hunmarked hquiet hset
    refine ⟨calm.put_quiet hordinary hy, ?_⟩
    rw [pluginNames, pluginFields_put_of_ne hplugins, namesAfter, hsegments]
    simp only [hplugins, if_false, pluginNames]

theorem Calm.setAll_firm {settings : List (String × Draft)} (calm : Calm (FieldsOf Firm) s)
    (gentle : ∀ f ∈ settings, Gentle f.1 f.2) (apart : ∀ f ∈ settings, Partial f.1 f.2)
    (h : Store.setAll none settings s = .ok s') :
    Calm (FieldsOf Firm) s' ∧ pluginNames s' =
      settings.foldl (fun names f => namesAfter f.1 names) (pluginNames s) := by
  induction settings generalizing s with
  | nil =>
    cases h
    exact ⟨calm, rfl⟩
  | cons f rest ih =>
    obtain ⟨name, d⟩ := f
    obtain ⟨hgentle, hmore⟩ := List.forall_mem_cons.mp gentle
    obtain ⟨hapart, hothers⟩ := List.forall_mem_cons.mp apart
    obtain ⟨middle, hset, hrest⟩ := exists_of_setAll_cons h
    obtain ⟨hcalm, hnames⟩ := calm.set_firm hgentle hapart hset
    rw [List.foldl_cons, ← hnames]
    exact ih hcalm hmore hothers hrest

/-! ## Names kept -/

/-- Quiet settings keep the names of plugins, unless all plugins give way to something else. -/
theorem Calm.pluginNames_set (calm : Calm QuietFields s) (gentle : Gentle name d)
    (sparing : Sparing name d) (h : s.set none name d = .ok s') :
    pluginNames s ⊆ pluginNames s' := by
  obtain ⟨first, rest, e, hsegments, -, hunmarked, hread, hquiet, hset⟩ :=
    exists_of_set_gentle calm.usual gentle h
  have hput := (set_quiet calm.usual hsegments (fun _ => calm.get) hunmarked hquiet).symm.trans hset
  rw [← Except.ok.inj hput]
  by_cases hplugins : topKey (trim first) = "PLUGINS"
  · obtain ⟨new, hnew⟩ : ∃ new, wholeAt (Entries.get? (topKey first) s) rest e = .record new := by
      cases rest with
      | nil => exact sparing first hsegments hplugins e hread
      | cons part more => exact exists_wholeAt_record _ part more e
    have hthere : ∀ x ∈ Entries.get? (topKey first) s, Quiet x := fun _ => calm.get
    have hwhole := quiet_wholeAt hthere hunmarked hquiet
    rw [pluginNames, pluginFields, hplugins, setOver, hnew]
    cases hget : Entries.get? "PLUGINS" s with
    | none => exact List.nil_subset _
    | some x =>
      cases x with
      | record old =>
        have hold := quiet_record_iff.mp (calm.get hget)
        have hlaid := quiet_record_iff.mp (hnew ▸ hwhole)
        obtain ⟨fields, hmerge⟩ := exists_merge_record (.record old) false new
        rw [laidOn_quiet (quiet_record_iff.mpr hlaid), hmerge, pluginNames, pluginFields_put_record]
        exact subset_keys_merge hold hlaid false hmerge
      | _ => exact List.nil_subset _
  · rw [pluginNames, pluginNames, pluginFields_put_of_ne hplugins]
    exact List.Subset.refl _

theorem Calm.pluginNames_setAll {settings : List (String × Draft)} (calm : Calm QuietFields s)
    (gentle : ∀ f ∈ settings, Gentle f.1 f.2) (sparing : ∀ f ∈ settings, Sparing f.1 f.2)
    (h : Store.setAll none settings s = .ok s') : pluginNames s ⊆ pluginNames s' := by
  induction settings generalizing s with
  | nil =>
    cases h
    exact List.Subset.refl _
  | cons f rest ih =>
    obtain ⟨hgentle, hmore⟩ := List.forall_mem_cons.mp gentle
    obtain ⟨hsparing, hothers⟩ := List.forall_mem_cons.mp sparing
    obtain ⟨middle, hset, hrest⟩ := exists_of_setAll_cons h
    have hkept := calm.pluginNames_set hgentle hsparing hset
    exact List.Subset.trans hkept (ih (calm.set hgentle hset) hmore hothers hrest)

end Store
end Preflight.Settings
