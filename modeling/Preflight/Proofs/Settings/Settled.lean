import Preflight.Proofs.Settings.Loaded
import Preflight.Proofs.Settings.Roster

/-! Settings settled and read at last: what is read as the settings of plugins and of the log, key
by key. Settings that agree but for some plugins are read alike but for these. -/
namespace Preflight.Settings
open Draft
open Entries (outside)
open Text (lower)

/-! ## Settled -/

section Settled
variable {p : String → Bool} {look : Source → Except Fault Datum} {fields : List (String × Draft)}
  {settled : List (String × Datum)} {key : String} {d : Draft}

theorem exists_of_settleFields_cons (h : settleFields look ((key, d) :: fields) = .ok settled) :
    ∃ x more, settle look d = .ok x ∧ settleFields look fields = .ok more ∧
      settled = (key, x) :: more := by
  rw [settleFields, settleField] at h
  obtain ⟨f, hf, h⟩ := exists_of_bind_eq_ok h
  obtain ⟨x, hx, hpair⟩ := exists_of_bind_eq_ok hf
  obtain ⟨more, hmore, hcons⟩ := exists_of_bind_eq_ok h
  cases hpair
  exact ⟨x, more, hx, hmore, (Except.ok.inj hcons).symm⟩

theorem keys_settleFields (h : settleFields look fields = .ok settled) :
    Entries.keys settled = Entries.keys fields := by
  induction fields generalizing settled with
  | nil =>
    cases h
    rfl
  | cons f rest ih =>
    obtain ⟨x, more, -, hrest, rfl⟩ := exists_of_settleFields_cons h
    exact congrArg (List.cons f.1) (ih hrest)

theorem get?_settleFields (h : settleFields look fields = .ok settled)
    (hget : Entries.get? key fields = some d) :
    ∃ x, settle look d = .ok x ∧ Entries.get? key settled = some x := by
  induction fields generalizing settled with
  | nil => cases hget
  | cons f rest ih =>
    obtain ⟨k, e⟩ := f
    obtain ⟨x, more, hx, hrest, rfl⟩ := exists_of_settleFields_cons h
    by_cases hk : k = key
    · subst hk
      rw [Entries.get?_cons_self] at hget ⊢
      exact ⟨x, Option.some.inj hget ▸ hx, rfl⟩
    · rw [Entries.get?_cons_of_ne hk] at hget ⊢
      exact ih hrest hget

theorem settleFields_outside (h : settleFields look fields = .ok settled) :
    settleFields look (outside p fields) = .ok (outside p settled) := by
  induction fields generalizing settled with
  | nil =>
    cases h
    rfl
  | cons f rest ih =>
    obtain ⟨k, e⟩ := f
    obtain ⟨x, more, hx, hrest, rfl⟩ := exists_of_settleFields_cons h
    cases hp : p k with
    | true =>
      rw [Entries.outside_cons_of_mem hp, Entries.outside_cons_of_mem hp]
      exact ih hrest
    | false =>
      rw [Entries.outside_cons_of_not_mem hp, Entries.outside_cons_of_not_mem hp, settleFields,
        settleField, hx, ih hrest]
      rfl

/-- No quiet value but a record comes to a record. -/
theorem exists_of_settle_record (hd : Quiet d ∨ ∃ fields, d = .record fields)
    (h : settle look d = .ok (.record settled)) :
    ∃ fields, d = .record fields ∧ settleFields look fields = .ok settled := by
  have hrecord : ∀ fields, settle look (.record fields) = .ok (.record settled) →
      settleFields look fields = .ok settled := fun fields h => by
    rw [settle] at h
    obtain ⟨new, hnew, heq⟩ := exists_of_map_eq_ok h
    cases heq
    exact hnew
  rcases hd with hquiet | ⟨fields, rfl⟩
  · cases hquiet with
    | plain atom text =>
      rw [settle] at h
      cases h
      cases atom
    | @list items all =>
      rw [settle] at h
      obtain ⟨new, -, heq⟩ := exists_of_map_eq_ok h
      cases heq
    | @record fields => exact ⟨fields, rfl, hrecord fields h⟩
  · exact ⟨fields, rfl, hrecord fields h⟩

end Settled

/-! ## Read -/

section Read
variable {p : String → Bool} {fields : List (String × Datum)}
  {plugins : List (String × PluginSettings)} {key : String}
  {d : Datum}

theorem exists_of_readEntries_cons (h : readEntries ((key, d) :: fields) = .ok plugins) :
    ∃ first more, readPlugin d = .ok first ∧ readEntries fields = .ok more ∧
      plugins = (key, first) :: more := by
  rw [readEntries] at h
  obtain ⟨first, more, hfirst, hmore, rfl⟩ := map_both_eq_ok_iff.mp h
  cases hread : readPlugin d with
  | error issues =>
    rw [hread] at hfirst
    cases hfirst
  | ok p =>
    rw [hread] at hfirst
    cases hfirst
    exact ⟨_, more, rfl, hmore, rfl⟩

theorem keys_readEntries (h : readEntries fields = .ok plugins) :
    Entries.keys plugins = Entries.keys fields := by
  induction fields generalizing plugins with
  | nil =>
    cases h
    rfl
  | cons f rest ih =>
    obtain ⟨first, more, -, hmore, rfl⟩ := exists_of_readEntries_cons h
    exact congrArg (List.cons f.1) (ih hmore)

theorem readEntries_outside (h : readEntries fields = .ok plugins) :
    readEntries (outside p fields) = .ok (outside p plugins) := by
  induction fields generalizing plugins with
  | nil =>
    cases h
    rfl
  | cons f rest ih =>
    obtain ⟨k, d⟩ := f
    obtain ⟨first, more, hfirst, hmore, rfl⟩ := exists_of_readEntries_cons h
    cases hp : p k with
    | true =>
      rw [Entries.outside_cons_of_mem hp, Entries.outside_cons_of_mem hp]
      exact ih hmore
    | false =>
      rw [Entries.outside_cons_of_not_mem hp, Entries.outside_cons_of_not_mem hp, readEntries,
        hfirst, ih hmore]
      rfl

end Read

namespace Store
variable {P : List (String × Draft) → Prop} {p : String → Bool} {s a b : Store}
  {look look' : Source → Except Fault Datum} {fields fields' : List (String × Datum)}
  {x y : AgentSettings}

/-- A setting is found under its name in small letters. -/
theorem Calm.get?_lowered (calm : Calm P s) (hkeys : Entries.keys fields = Entries.keys s)
    {word key : String} (hword : ∀ c ∈ word.toList, c ∈ Text.smallLetters)
    (hcapitals : String.ofList (word.toList.map Text.capital) = key) (hlower : lower key = word) :
    Entries.get? word (lowered fields) = Entries.get? key fields := by
  rw [← hlower]
  refine Entries.get?_renamed lower (hkeys ▸ calm.nodup) fun k hk heq => ?_
  obtain ⟨name, rfl⟩ := calm.keyed k (hkeys ▸ hk)
  exact (topKey_of_lower hword (heq.trans hlower)).trans hcapitals

theorem Calm.get?_lowered_plugins (calm : Calm P s) (h : Entries.keys fields = Entries.keys s) :
    Entries.get? "plugins" (lowered fields) = Entries.get? "PLUGINS" fields :=
  calm.get?_lowered h (List.all_iff_forall_prop.mp (by decide)) (by decide) (by decide +kernel)

theorem Calm.get?_lowered_logging (calm : Calm P s) (h : Entries.keys fields = Entries.keys s) :
    Entries.get? "logging" (lowered fields) = Entries.get? "LOGGING" fields :=
  calm.get?_lowered h (List.all_iff_forall_prop.mp (by decide)) (by decide) (by decide +kernel)

/-- What is read as plugins are the settings of plugins. -/
theorem Calm.read_plugins (calm : Calm P s) (hsettle : settleFields look s = .ok fields)
    (hread : readAgent (.record (lowered fields)) = .ok x) :
    ∃ settled, settleFields look (pluginFields s) = .ok settled ∧
      readEntries settled = .ok x.plugins := by
  have hplugins := (readAgent_eq_ok_iff.mp hread).1
  have hlowered := calm.get?_lowered_plugins (keys_settleFields hsettle)
  cases hget : Entries.get? "PLUGINS" s with
  | none =>
    have hnone : Entries.get? "PLUGINS" fields = none := by
      rw [Entries.get?_eq_none_iff, keys_settleFields hsettle]
      exact Entries.get?_eq_none_iff.mp hget
    rw [field, hlowered, hnone] at hplugins
    exact ⟨[], by rw [pluginFields, hget]; rfl, hplugins⟩
  | some d =>
    obtain ⟨e, he, hfields⟩ := get?_settleFields hsettle hget
    have hentries := (field_eq_ok_iff (hlowered.trans hfields)).mp hplugins
    cases e with
    | record settled =>
      obtain ⟨inner, rfl, hinner⟩ := exists_of_settle_record
        ((calm.plugins d hget).imp_right (Exists.imp fun _ => And.left)) he
      exact ⟨settled, by rw [pluginFields, hget]; exact hinner, hentries⟩
    | _ => cases hentries

theorem Calm.keys_plugins (calm : Calm P s) (hsettle : settleFields look s = .ok fields)
    (hread : readAgent (.record (lowered fields)) = .ok x) :
    Entries.keys x.plugins = pluginNames s := by
  obtain ⟨settled, hsettled, hentries⟩ := calm.read_plugins hsettle hread
  rw [keys_readEntries hentries, keys_settleFields hsettled, pluginNames]

theorem Agree.quiet (agree : Agree p a b) : ∀ f ∈ outside p (pluginFields a), Quiet f.2 := by
  rw [pluginFields]
  cases hget : Entries.get? "PLUGINS" a with
  | none => exact List.forall_mem_nil _
  | some d =>
    cases d with
    | record inner => exact (agree.left.tidy hget).apart.all
    | _ => exact List.forall_mem_nil _

/-- Settings that agree are read alike, but for plugins that are set aside. -/
theorem Agree.read (agree : Agree p a b) (ha : settleFields look a = .ok fields)
    (hb : settleFields look' b = .ok fields')
    (hx : readAgent (.record (lowered fields)) = .ok x)
    (hy : readAgent (.record (lowered fields')) = .ok y) :
    y.logging = x.logging ∧ outside p y.plugins = outside p x.plugins := by
  constructor
  · have hlogging : Entries.get? "logging" (lowered fields') =
        Entries.get? "logging" (lowered fields) := by
      rw [agree.left.get?_lowered_logging (keys_settleFields ha),
        agree.right.get?_lowered_logging (keys_settleFields hb)]
      cases hget : Entries.get? "LOGGING" a with
      | none =>
        have hnone := agree.others "LOGGING" (by decide)
        rw [hget, eq_comm, Entries.get?_eq_none_iff, ← keys_settleFields hb] at hnone
        rw [Entries.get?_eq_none_iff, ← keys_settleFields ha] at hget
        rw [Entries.get?_eq_none_iff.mpr hget, Entries.get?_eq_none_iff.mpr hnone]
      | some d =>
        obtain ⟨e, he, hfields⟩ := get?_settleFields ha hget
        obtain ⟨e', he', hfields'⟩ := get?_settleFields hb
          ((agree.others "LOGGING" (by decide)).symm.trans hget)
        obtain ⟨z, hz⟩ := settle_quiet
          (agree.left.quiet _ (Entries.mem_of_get? hget) (show "LOGGING" ≠ "PLUGINS" by decide))
        rw [hfields, hfields', ← Except.ok.inj ((hz look).symm.trans he),
          ← Except.ok.inj ((hz look').symm.trans he')]
    have hx := (readAgent_eq_ok_iff.mp hx).2
    have hy := (readAgent_eq_ok_iff.mp hy).2
    rw [field, hlogging] at hy
    exact Except.ok.inj (hy.symm.trans hx)
  · obtain ⟨settled, hsettled, hentries⟩ := agree.left.read_plugins ha hx
    obtain ⟨settled', hsettled', hentries'⟩ := agree.right.read_plugins hb hy
    have hout := settleFields_outside (p := p) hsettled
    have hout' := settleFields_outside (p := p) hsettled'
    obtain ⟨z, hz⟩ := settleFields_of fun f hf => settle_quiet (agree.quiet f hf)
    rw [hz] at hout
    rw [← agree.plugins, hz] at hout'
    have hread := readEntries_outside (p := p) hentries
    have hread' := readEntries_outside (p := p) hentries'
    rw [← Except.ok.inj hout] at hread
    rw [← Except.ok.inj hout', hread] at hread'
    exact (Except.ok.inj hread').symm

end Store

end Preflight.Settings
