import Preflight.Proofs.Settings.Quiet

/-! Records of which some fields are set aside, whatever is in them. When the names that mean such a
field are set aside too, then what is laid over the record comes to the other fields as if they
stood alone: their values and their order do not depend on what was set aside. -/
namespace Preflight.Settings
open Draft
open Entries (outside)

/-- Names are set aside together with the keys that they mean. -/
def Closed (p : String → Bool) : Prop := ∀ name key, means name key = true → p name = p key

/-- A record whose fields, but for the values of those set aside, are all of one kind. -/
structure Tidy (Q : Draft → Prop) (p : String → Bool) (fields : List (String × Draft)) : Prop where
  apart : FieldsOf Q (outside p fields)
  keys : ∀ key ∈ Entries.keys fields, key ∉ joinWords

variable {Q : Draft → Prop} {p : String → Bool} {fields old new laid : List (String × Draft)}
  {name key : String} {d : Draft}

theorem FieldsOf.tidy (h : FieldsOf Q fields) (p : String → Bool) : Tidy Q p fields :=
  ⟨h.filter _, h.keys⟩

theorem means_of_findKey? {keys : List String} (h : findKey? name keys = some key) :
    key = name ∨ means name key = true := by
  rw [findKey?] at h
  split at h
  · exact .inl (Option.some.inj h).symm
  · exact .inr (List.find?_some h)

theorem Closed.of_findKey? (closed : Closed p) {keys : List String}
    (h : findKey? name keys = some key) : p key = p name := by
  rcases means_of_findKey? h with rfl | hmeans
  · rfl
  · exact (closed name key hmeans).symm

/-- A name that is not set aside means the same key with or without the fields that are. -/
theorem Closed.findKey?_outside (closed : Closed p) (h : p name = false)
    (fields : List (String × Draft)) :
    findKey? name (Entries.keys (outside p fields)) = findKey? name (Entries.keys fields) := by
  have hfind : (Entries.keys (outside p fields)).find? (means name) =
      (Entries.keys fields).find? (means name) := by
    rw [Entries.keys_outside, List.find?_filter]
    refine congrArg (List.find? · _) (funext fun key => ?_)
    cases hmeans : means name key with
    | false => simp
    | true => simp [← closed name key hmeans, h]
  simp only [findKey?, Entries.mem_keys_outside, h, and_true, hfind]

theorem Closed.matchKey_outside (closed : Closed p) (h : p name = false)
    (fields : List (String × Draft)) : matchKey name (outside p fields) = matchKey name fields := by
  rw [matchKey, closed.findKey?_outside h, matchKey]

theorem Closed.of_matchKey (closed : Closed p) (name : String) (fields : List (String × Draft)) :
    p (matchKey name fields) = p name := by
  rw [matchKey]
  cases h : findKey? name (Entries.keys fields) with
  | none => rfl
  | some key => exact closed.of_findKey? h

theorem matchKey_unmarked (hname : name ∉ joinWords)
    (keys : ∀ key ∈ Entries.keys fields, key ∉ joinWords) : matchKey name fields ∉ joinWords := by
  rw [matchKey]
  cases h : findKey? name (Entries.keys fields) with
  | none => exact hname
  | some key => exact keys key (mem_of_findKey? h)

theorem matchKey_found (name : String) (fields : List (String × Draft)) :
    matchKey name fields ∈ Entries.keys fields ∨
      findKey? (matchKey name fields) (Entries.keys fields) = none := by
  rw [matchKey]
  cases h : findKey? name (Entries.keys fields) with
  | some key => exact .inl (mem_of_findKey? h)
  | none => exact .inr h

/-! ## The fields merged -/

theorem outside_putField (h : p key = true) (x : Option Draft) (fields : List (String × Draft)) :
    outside p (putField key x fields) = outside p fields := by
  cases x with
  | none =>
    refine Entries.outside_without_of_mem (fun k hk => ?_) fields
    rwa [List.mem_singleton.mp hk]
  | some d => exact Entries.outside_put_of_mem h d fields

/-- New fields whose names are old ones, or mean no old one, at most change their order. -/
theorem outside_rename_perm (closed : Closed p) {names : List String}
    (nodup : (Entries.keys (outside p fields)).Nodup)
    (hnames : ∀ name ∈ Entries.keys (outside p fields), name ∈ names ∨ findKey? name names = none) :
    (outside p (rename names fields)).Perm (outside p fields) := by
  refine List.foldlRecOn (motive := fun renamed => (outside p renamed).Perm (outside p fields))
    _ _ (.refl _) fun renamed perm name hname => ?_
  split
  next key d hkey hd =>
    rw [Entries.outside_append, Entries.outside_without]
    cases hp : p name with
    | true =>
      have hpkey : p key = true := (closed.of_findKey? hkey).trans hp
      have hgone : ∀ k ∈ [name, key], k ∉ Entries.keys (outside p renamed) := by
        intro k hk hmem
        have hout := (Entries.mem_keys_outside.mp hmem).2
        rcases List.mem_pair.mp hk with rfl | rfl
        · exact Bool.false_ne_true (hout.symm.trans hp)
        · exact Bool.false_ne_true (hout.symm.trans hpkey)
      rw [Entries.without_of_not_mem hgone, Entries.outside_cons_of_mem hpkey]
      exact (List.append_nil _).symm ▸ perm
    | false =>
      have hmem : name ∈ Entries.keys (outside p fields) := Entries.mem_keys_outside.mpr ⟨hname, hp⟩
      have hold : name ∈ names := (hnames name hmem).resolve_right fun hnone => by
        rw [hnone] at hkey
        cases hkey
      obtain rfl : name = key := Option.some.inj ((findKey?_self hold).symm.trans hkey)
      have hrenamed : (Entries.keys (outside p renamed)).Nodup :=
        (Entries.keys_perm perm).nodup_iff.mpr nodup
      have hget : Entries.get? name (outside p renamed) = some d := by
        rwa [Entries.get?_outside hp]
      have hwithout : Entries.without [name, name] (outside p renamed) =
          Entries.without [name] (outside p renamed) := by simp [Entries.without]
      rw [hwithout, Entries.outside_cons_of_not_mem hp]
      exact (Entries.perm_without_append hrenamed hget).trans perm
  next => exact perm

/-- A value laid over the old one under its key. -/
def laidOver (old : List (String × Draft)) (f : String × Draft) : String × Draft :=
  (f.1, ((Entries.get? f.1 old).map (merge · false f.2)).getD f.2)

theorem outside_mergeFields (lasting : Lasting Q) (closed : Closed p) {names : List String}
    (hold : FieldsOf Q (outside p old)) (hlaid : FieldsOf Q (outside p laid))
    (hnames : ∀ key ∈ Entries.keys (outside p old), key ∈ names)
    (hkeys : ∀ key ∈ Entries.keys (outside p old), key ∈ Entries.keys (outside p laid)) :
    outside p (mergeFields true names old laid) =
      (outside p laid).map (laidOver (outside p old)) := by
  induction old generalizing laid with
  | nil => exact (List.map_id _).symm
  | cons f rest ih =>
    obtain ⟨key, x⟩ := f
    rw [mergeFields]
    cases hp : p key with
    | true =>
      rw [Entries.outside_cons_of_mem hp] at hold hnames hkeys ⊢
      have hfield : outside p (mergeField true names (key, x) laid) = outside p laid := by
        rw [mergeField]
        simp only [if_true]
        split
        next name hname => exact outside_putField ((closed.of_findKey? hname).trans hp) _ _
        next => exact outside_putField hp _ _
      rw [ih hold (hfield ▸ hlaid) hnames (hfield ▸ hkeys), hfield]
    | false =>
      rw [Entries.outside_cons_of_not_mem hp] at hold hnames hkeys ⊢
      obtain ⟨hx, hall⟩ := List.forall_mem_cons.mp hold.all
      obtain ⟨hnew, hrest⟩ := List.nodup_cons.mp hold.nodup
      obtain ⟨g, hg⟩ : ∃ g, Entries.get? key (outside p laid) = some g :=
        Option.ne_none_iff_exists'.mp fun h =>
          Entries.get?_eq_none_iff.mp h (hkeys key List.mem_cons_self)
      have hmerged : Q (merge x false g) := lasting.merge hx false (hlaid.get hg)
      have hfield : mergeField true names (key, x) laid =
          Entries.put key (merge x false g) laid := by
        rw [Entries.get?_outside hp] at hg
        simp only [mergeField, if_true, findKey?_self (hnames key List.mem_cons_self), hg,
          Option.bind_some, lasting.change hmerged, putField]
      have hput := Entries.outside_put_of_not_mem hp (merge x false g) laid
      have hstay : Entries.keys (Entries.put key (merge x false g) (outside p laid)) =
          Entries.keys (outside p laid) := by
        rw [Entries.keys_put, if_pos (Entries.mem_keys_of_get? hg)]
      rw [hfield, ih ⟨hrest, fun k hk => hold.keys k (List.mem_cons_of_mem key hk), hall⟩
        (hput ▸ hlaid.put (hold.keys key List.mem_cons_self) hmerged)
        (fun k hk => hnames k (List.mem_cons_of_mem key hk))
        (fun k hk => hput ▸ hstay.symm ▸ hkeys k (List.mem_cons_of_mem key hk)),
        hput, Entries.put_of_mem hlaid.nodup (Entries.mem_keys_of_get? hg), List.map_map]
      refine List.map_congr_left fun e he => ?_
      by_cases heq : e.1 = key
      · have hnone : Entries.get? key (outside p rest) = none := Entries.get?_eq_none_iff.mpr hnew
        have hvalue : g = e.2 := Option.some.inj
          (hg.symm.trans (Entries.get?_of_mem hlaid.nodup (heq ▸ he)))
        simp [laidOver, heq, hnone, Entries.get?_cons_self, hvalue]
      · simp [laidOver, heq, Entries.get?_cons_of_ne (Ne.symm heq)]

theorem outside_putFresh (lasting : Lasting Q) {names : List String}
    (hlaid : FieldsOf Q (outside p laid))
    (hnames : ∀ name ∈ names, p name = false → name ∈ Entries.keys laid) :
    outside p (putFresh names laid) = outside p laid := by
  refine List.foldlRecOn (motive := fun result => outside p result = outside p laid) names _ rfl
    fun result hresult name hname => ?_
  cases hp : p name with
  | true => rw [outside_putField hp, hresult]
  | false =>
    obtain ⟨d, hd⟩ : ∃ d, Entries.get? name (outside p laid) = some d :=
      Option.ne_none_iff_exists'.mp fun h => Entries.get?_eq_none_iff.mp h
        (Entries.mem_keys_outside.mpr ⟨hnames name hname hp, hp⟩)
    have hget : Entries.get? name result = some d := by
      rw [← Entries.get?_outside hp, hresult, hd]
    rw [hget, Option.bind_some, lasting.change (hlaid.get hd), putField,
      Entries.outside_put_of_not_mem hp, hresult, Entries.put_of_get? hd]

theorem outside_arrange {names : List String}
    (hkeys : ∀ key ∈ Entries.keys (outside p old), key ∈ Entries.keys (outside p laid)) :
    outside p (arrange (Entries.keys old) names laid) =
      (outside p old).map (fun f => (f.1, (Entries.get? f.1 (outside p laid)).getD f.2)) ++
        (outside p laid).filter fun f => !(Entries.keys (outside p old)).contains f.1 := by
  rw [arrange, Entries.outside_append, Entries.keys, List.filterMap_map]
  refine congrArg₂ (· ++ ·) ?_ ?_
  · refine Entries.outside_filterMap fun e he hp => ?_
    obtain ⟨d, hd⟩ : ∃ d, Entries.get? e.1 (outside p laid) = some d :=
      Option.ne_none_iff_exists'.mp fun h => Entries.get?_eq_none_iff.mp h
        (hkeys e.1 (Entries.mem_keys_outside.mpr ⟨List.mem_map_of_mem he, hp⟩))
    have hget : Entries.get? e.1 laid = some d := by rwa [← Entries.get?_outside hp]
    simp [hget, hd]
  · have hcomm : ∀ q : String × Draft → Bool,
        outside p (laid.filter q) = (outside p laid).filter q := fun q => List.filter_comm ..
    rw [hcomm]
    refine List.filter_congr fun f hf => ?_
    have hp := (Entries.mem_outside.mp hf).2
    have hmem : f.1 ∈ Entries.keys (outside p old) ↔ f.1 ∈ Entries.keys old :=
      Entries.mem_keys_outside.trans (and_iff_left hp)
    simp only [List.contains_eq_mem, hmem]
    rfl

/-! ## Keys -/

section Keys
variable {k : String} {names : List String}

theorem mem_keys_mergeFields (h : k ∈ Entries.keys (mergeFields true names old laid)) :
    k ∈ names ∨ k ∈ Entries.keys old ∨ k ∈ Entries.keys laid := by
  induction old generalizing laid with
  | nil => exact .inr (.inr h)
  | cons f rest ih =>
    obtain ⟨key, x⟩ := f
    rcases ih h with hk | hk | hk
    · exact .inl hk
    · exact .inr (.inl (List.mem_cons_of_mem key hk))
    · rw [mergeField] at hk
      simp only [if_true] at hk
      split at hk
      next name hname =>
        rcases mem_keys_putField hk with rfl | hk
        · exact .inl (mem_of_findKey? hname)
        · exact .inr (.inr hk)
      next =>
        rcases mem_keys_putField hk with rfl | hk
        · exact .inr (.inl List.mem_cons_self)
        · exact .inr (.inr hk)

theorem mem_keys_putFresh (h : k ∈ Entries.keys (putFresh names laid)) :
    k ∈ names ∨ k ∈ Entries.keys laid := by
  refine List.foldlRecOn (motive := fun result => ∀ k ∈ Entries.keys result,
    k ∈ names ∨ k ∈ Entries.keys laid) _ _ (fun k hk => .inr hk) (fun result ih name hname => ?_)
    k h
  intro k hk
  rcases mem_keys_putField hk with rfl | hk
  · exact .inl hname
  · exact ih k hk

theorem mem_keys_arrange {keys : List String} (h : k ∈ Entries.keys (arrange keys names laid)) :
    k ∈ keys ∨ k ∈ Entries.keys laid := by
  rw [arrange, Entries.keys, List.map_append] at h
  rcases List.mem_append.mp h with h | h
  · obtain ⟨f, hf, rfl⟩ := List.mem_map.mp h
    obtain ⟨key, hkey, hplace⟩ := List.mem_filterMap.mp hf
    obtain ⟨d, -, rfl⟩ := Option.map_eq_some_iff.mp hplace
    exact .inl hkey
  · exact .inr ((List.filter_sublist.map _).subset h)

theorem mem_keys_layFields {named : List (String × Draft)}
    (h : k ∈ Entries.keys (layFields old named)) : k ∈ Entries.keys old ∨ k ∈ Entries.keys named := by
  rcases mem_keys_arrange h with hk | hk
  · exact .inl hk
  · rcases mem_keys_putFresh hk with hk | hk
    · exact .inr (List.mem_of_mem_filter hk)
    · rcases mem_keys_mergeFields hk with hk | hk | hk
      · exact .inr hk
      · exact .inl hk
      · exact .inr hk

end Keys

/-! ## Records merged -/

theorem get?_map_laidOver (key : String) (old fields : List (String × Draft)) :
    Entries.get? key (fields.map (laidOver old)) =
      (Entries.get? key fields).map fun d =>
        ((Entries.get? key old).map (merge · false d)).getD d := by
  induction fields with
  | nil => rfl
  | cons f rest ih =>
    obtain ⟨k, d⟩ := f
    by_cases hk : k = key
    · subst hk
      rw [List.map_cons, laidOver, Entries.get?_cons_self, Entries.get?_cons_self, Option.map_some]
    · rw [List.map_cons, laidOver, Entries.get?_cons_of_ne hk, Entries.get?_cons_of_ne hk, ih]

theorem keys_map_laidOver (old fields : List (String × Draft)) :
    Entries.keys (fields.map (laidOver old)) = Entries.keys fields := by
  simp [Entries.keys, laidOver]

theorem Lasting.laidOver (lasting : Lasting Q) (hold : FieldsOf Q old) {f : String × Draft}
    (hf : Q f.2) : Q (laidOver old f).2 := by
  rw [Settings.laidOver]
  cases hget : Entries.get? f.1 old with
  | none => exact hf
  | some x => exact lasting.merge (hold.get hget) false hf

theorem FieldsOf.map_laidOver (lasting : Lasting Q) (h : FieldsOf Q fields)
    (hold : FieldsOf Q old) : FieldsOf Q (fields.map (laidOver old)) where
  nodup := (keys_map_laidOver old fields).symm ▸ h.nodup
  keys := (keys_map_laidOver old fields).symm ▸ h.keys
  all f hf := by
    obtain ⟨e, he, rfl⟩ := List.mem_map.mp hf
    exact lasting.laidOver hold (h.all e he)

theorem filter_eq_of_perm {α : Type} {all part more : List α} {q : α → Bool}
    (perm : all.Perm (part ++ more)) (hmore : more.length ≤ 1) (hpart : ∀ e ∈ part, q e = false)
    (hq : ∀ e ∈ more, q e = true) : all.filter q = more := by
  have hfiltered := perm.filter q
  have hnone : part.filter q = [] := List.filter_eq_nil_iff.mpr fun e he => by simp [hpart e he]
  rw [List.filter_append, hnone, List.filter_eq_self.mpr hq, List.nil_append] at hfiltered
  cases more with
  | nil => exact hfiltered.eq_nil
  | cons e rest =>
    obtain rfl : rest = [] := by simpa using hmore
    exact List.perm_singleton.mp hfiltered

/-- New fields, laid over the old ones in any order and then put in the order of these. -/
theorem map_append_filter_eq {all part more : List (String × Draft)}
    (perm : all.Perm (part ++ more)) (nodup : (Entries.keys (part ++ more)).Nodup)
    (hpart : Entries.keys part = Entries.keys old) (hmore : more.length ≤ 1) :
    old.map (fun f => (f.1, (Entries.get? f.1 (all.map (laidOver old))).getD f.2)) ++
      (all.map (laidOver old)).filter (fun f => !(Entries.keys old).contains f.1) =
      (part ++ more).map (laidOver old) := by
  have hkeys : Entries.keys (part ++ more) = Entries.keys old ++ Entries.keys more := by
    rw [Entries.keys, List.map_append, ← hpart]
    rfl
  rw [hkeys, List.nodup_append'] at nodup
  have hplaced := Entries.keys_map_entries (fun f : String × Draft =>
    (Entries.get? f.1 (all.map (laidOver old))).getD f.2) old
  have hold := hplaced.symm ▸ nodup.1
  rw [List.map_append]
  refine congrArg₂ (· ++ ·) (Entries.eq_of_get? ?_ ?_ fun key hkey => ?_) ?_
  · rw [keys_map_laidOver, hpart, hplaced]
  · exact hold
  · obtain ⟨e, he, rfl⟩ := List.mem_map.mp hkey
    obtain ⟨f, hf, rfl⟩ := List.mem_map.mp he
    have hmem : (f.1, (Entries.get? f.1 (all.map (laidOver old))).getD f.2) ∈
        old.map fun f => (f.1, (Entries.get? f.1 (all.map (laidOver old))).getD f.2) := he
    obtain ⟨y, hy⟩ : ∃ y, Entries.get? f.1 part = some y :=
      Option.ne_none_iff_exists'.mp fun h => Entries.get?_eq_none_iff.mp h
        (hpart ▸ List.mem_map_of_mem hf)
    have hget : Entries.get? f.1 all = some y := by
      rw [Entries.get?_perm perm.symm (hkeys ▸ List.nodup_append'.mpr nodup),
        Entries.get?_append, hy, Option.some_or]
    rw [Entries.get?_of_mem hold hmem, get?_map_laidOver, hget,
      get?_map_laidOver, hy]
    rfl
  · rw [List.filter_map]
    refine congrArg (List.map _) (filter_eq_of_perm perm hmore (fun e he => ?_) fun e he => ?_)
    · have hmem : e.1 ∈ Entries.keys old := hpart ▸ List.mem_map_of_mem he
      simp [laidOver, hmem]
    · have hnot : e.1 ∉ Entries.keys old := fun hmem =>
        nodup.2.2 hmem (List.mem_map_of_mem (f := (·.1)) he)
      simp [laidOver, hnot]

/-- New fields, of which at most the last is not an old one, are laid over the old fields one by
one, in the order of these. -/
theorem outside_layFields (lasting : Lasting Q) (closed : Closed p) {named : List (String × Draft)}
    (hold : FieldsOf Q (outside p old)) (hnamed : FieldsOf Q (outside p named))
    {part more : List (String × Draft)} (perm : (outside p named).Perm (part ++ more))
    (hpart : Entries.keys part = Entries.keys (outside p old)) (hmore : more.length ≤ 1) :
    outside p (layFields old named) = (part ++ more).map (laidOver (outside p old)) := by
  have nodup : (Entries.keys (part ++ more)).Nodup :=
    (Entries.keys_perm perm).nodup_iff.mp hnamed.nodup
  have hkeys : ∀ key ∈ Entries.keys (outside p old), key ∈ Entries.keys (outside p named) :=
    fun key hkey => by
      rw [← hpart] at hkey
      rw [(Entries.keys_perm perm).mem_iff, Entries.keys, List.map_append]
      exact List.mem_append_left _ hkey
  have hlaid := outside_mergeFields lasting closed hold hnamed
    (fun key hkey => (Entries.mem_keys_outside.mp (hkeys key hkey)).1) hkeys
  have hlaidQ := hlaid ▸ hnamed.map_laidOver lasting hold
  have hfresh := outside_putFresh lasting hlaidQ fun name (hname : name ∈
      (Entries.keys named).filter fun name => !(Entries.keys old).contains name) hp => by
    have hout : name ∈ Entries.keys (outside p named) :=
      Entries.mem_keys_outside.mpr ⟨List.mem_of_mem_filter hname, hp⟩
    rw [← keys_map_laidOver (outside p old), ← hlaid] at hout
    exact (Entries.mem_keys_outside.mp hout).1
  rw [layFields, outside_arrange, hfresh, hlaid]
  · exact map_append_filter_eq perm nodup hpart hmore
  · rw [hfresh, hlaid, keys_map_laidOver]
    exact hkeys

/-- The same fields, laid over the old ones, are these fields. -/
theorem map_laidOver_of_same (nodup : (Entries.keys (outside p new)).Nodup)
    (h : same (.record old) (.record new) = true) :
    (outside p new).map (laidOver (outside p old)) = outside p new := by
  rw [same, Bool.and_eq_true, sameFields_iff] at h
  refine (List.map_congr_left fun e he => ?_).trans (List.map_id _)
  rw [laidOver]
  cases hget : Entries.get? e.1 (outside p old) with
  | none => rfl
  | some x =>
    obtain ⟨hmem, hp⟩ := Entries.mem_outside.mp (Entries.mem_of_get? hget)
    obtain ⟨d, hd, hx⟩ := h.2 _ hmem
    have hvalue : e.2 = d := Option.some.inj ((Entries.get?_of_mem nodup he).symm.trans
      ((Entries.get?_outside hp new).trans hd))
    rw [Option.map_some, Option.getD_some, hvalue, merge_of_same hx]
    exact Prod.ext rfl hvalue.symm

theorem outside_merge (lasting : Lasting Q) (closed : Closed p) (hold : Tidy Q p old)
    (hnew : Tidy Q p new) (part more : List (String × Draft))
    (hsplit : outside p new = part ++ more) (hpart : Entries.keys part = Entries.keys (outside p old))
    (hmore : more.length ≤ 1)
    (hfresh : ∀ name ∈ Entries.keys more, findKey? name (Entries.keys old) = none)
    (unique : Bool) :
    ∃ fields, merge (.record old) unique (.record new) = .record fields ∧
      (∀ key ∈ Entries.keys fields, key ∉ joinWords) ∧
      outside p fields = (part ++ more).map (laidOver (outside p old)) := by
  rw [merge_records hold.keys hnew.keys]
  split
  next hsame =>
    exact ⟨new, rfl, hnew.keys, hsplit ▸ (map_laidOver_of_same hnew.apart.nodup hsame).symm⟩
  next =>
    have hmem : ∀ name ∈ Entries.keys (outside p new),
        name ∈ Entries.keys (outside p old) ∨ name ∈ Entries.keys more := fun name hname => by
      rw [hsplit, Entries.keys, List.map_append] at hname
      exact (List.mem_append.mp hname).imp_left (hpart ▸ ·)
    have perm := outside_rename_perm closed hnew.apart.nodup fun name hname =>
      (hmem name hname).imp (fun h => (Entries.mem_keys_outside.mp h).1) (hfresh name)
    have hnamed : ∀ k ∈ Entries.keys (rename (Entries.keys old) new), k ∉ joinWords :=
      fun k hk => (mem_keys_rename hk).elim (hold.keys k) (hnew.keys k)
    refine ⟨_, rfl, fun key hkey => (mem_keys_layFields hkey).elim (hold.keys key) (hnamed key),
      outside_layFields lasting closed hold.apart ⟨?_, ?_, ?_⟩ (hsplit ▸ perm) hpart hmore⟩
    · exact (Entries.keys_perm perm).nodup_iff.mpr hnew.apart.nodup
    · exact fun k hk => hnamed k (Entries.mem_keys_outside.mp hk).1
    · exact fun f hf => hnew.apart.all f (perm.mem_iff.mp hf)

theorem put_matchKey_split (name : String) (d : Draft) (old : List (String × Draft)) :
    ∃ part more, Entries.put (matchKey name old) d old = part ++ more ∧
      Entries.keys part = Entries.keys old ∧ more.length ≤ 1 ∧
      ∀ key ∈ Entries.keys more,
        key = matchKey name old ∧ findKey? key (Entries.keys old) = none := by
  by_cases hmem : matchKey name old ∈ Entries.keys old
  · refine ⟨_, [], (List.append_nil _).symm, ?_, Nat.zero_le 1, List.forall_mem_nil _⟩
    rw [Entries.keys_put, if_pos hmem]
  · refine ⟨old, [(matchKey name old, d)], Entries.put_of_not_mem hmem d, rfl, Nat.le_refl 1, ?_⟩
    exact List.forall_mem_singleton.mpr ⟨rfl, (matchKey_found name old).resolve_left hmem⟩

/-- A record laid over the one that it was made from by putting one field into it. -/
theorem outside_merge_put (lasting : Lasting Q) (closed : Closed p) (hold : Tidy Q p old)
    (hnew : Tidy Q p new) (hp : p name = false)
    (h : outside p new = Entries.put (matchKey name (outside p old)) d (outside p old))
    (unique : Bool) :
    ∃ fields, merge (.record old) unique (.record new) = .record fields ∧
      (∀ key ∈ Entries.keys fields, key ∉ joinWords) ∧
      outside p fields = (outside p new).map (laidOver (outside p old)) := by
  obtain ⟨part, more, hput, hpart, hmore, hfresh⟩ := put_matchKey_split name d (outside p old)
  rw [h, hput]
  refine outside_merge lasting closed hold hnew part more (h.trans hput) hpart hmore
    (fun key hkey => ?_) unique
  obtain ⟨rfl, hnone⟩ := hfresh key hkey
  rwa [closed.findKey?_outside ((closed.of_matchKey name _).trans hp)] at hnone

theorem map_laidOver_self (h : QuietFields fields) : fields.map (laidOver fields) = fields := by
  refine (List.map_congr_left fun f hf => ?_).trans (List.map_id _)
  rw [laidOver, Entries.get?_of_mem h.nodup hf, Option.map_some, Option.getD_some,
    merge_self (h.all f hf), id]

/-- A record laid over one that differs from it in the fields set aside alone. -/
theorem outside_merge_same (closed : Closed p) (hold : Tidy Quiet p old) (hnew : Tidy Quiet p new)
    (h : outside p new = outside p old) (unique : Bool) :
    ∃ fields, merge (.record old) unique (.record new) = .record fields ∧
      (∀ key ∈ Entries.keys fields, key ∉ joinWords) ∧ outside p fields = outside p old := by
  obtain ⟨fields, hmerge, keys, hfields⟩ := outside_merge lasting_quiet closed hold hnew
    (outside p old) [] (by rw [h, List.append_nil]) rfl (Nat.zero_le 1) (List.forall_mem_nil _)
    unique
  rw [List.append_nil, map_laidOver_self hold.apart] at hfields
  exact ⟨fields, hmerge, keys, hfields⟩

end Preflight.Settings
