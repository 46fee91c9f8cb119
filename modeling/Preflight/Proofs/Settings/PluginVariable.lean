import Preflight.Proofs.Settings.Settled

/-! What is loaded with and without a variable that sets something inside a plugin's settings. The
log is not concerned, nor are plugins whose names are spelt differently, as long as the file and the
other variables do not say how settings are joined; and a plugin that is there already keeps its
place, so that no name is added. -/
namespace Preflight.Settings
open Draft
open Entries (outside)
open Text (lower trim sameIgnoringCase)

/-! ## Names spelt alike -/

/-- A name in lower case, with underscores for blanks. -/
def spelling (name : String) : String := Text.replace " " "_" (lower name)

/-- Names that may be taken for each other. -/
def alike (name other : String) : Bool := spelling name == spelling other

theorem spelling_of_means {name key : String} (h : means name key = true) :
    spelling name = spelling key := by
  rcases Bool.or_eq_true_iff.mp h with h | h
  · have hlower : lower key = lower name := beq_iff_eq.mp h
    rw [spelling, ← hlower, spelling]
  · have hlower : lower (Text.replace " " "_" key) = lower name := beq_iff_eq.mp h
    rw [spelling, ← hlower, Text.replace_lower_replace, spelling]

theorem closed_alike (k : String) : Closed (alike k) := fun name key h => by
  rw [alike, alike, spelling_of_means h]

theorem alike_self (k : String) : alike k k = true := beq_self_eq_true _

/-! ## Loaded -/

/-- A file that says nothing of how settings are loaded or joined. -/
structure GentleFile (fields : List (String × Datum)) : Prop where
  unjoined : joinMark ∉ Entries.keys fields
  gentle : ∀ f ∈ fields, Gentle (topKey f.1) (ofFile f.2)

/-- A variable that says nothing of how settings are loaded or joined. -/
def GentleVariable (v : String × String) : Prop :=
  ∀ d, readVariable true v.2 = .ok d → Gentle v.1 d

/-- A variable that does not lay a record over all plugins at once. -/
def PartialVariable (v : String × String) : Prop :=
  ∀ d, readVariable true v.2 = .ok d → Partial v.1 d

/-- A variable that puts nothing else in the place of all plugins. -/
def SparingVariable (v : String × String) : Prop :=
  ∀ d, readVariable true v.2 = .ok d → Sparing v.1 d

def readSetting (v : String × String) : Except Fault (String × Draft) := do
  return (v.1, ← readVariable true v.2)

theorem exists_of_mem_readSettings {given : List (String × String)}
    {settings : List (String × Draft)} (h : given.mapM readSetting = .ok settings)
    {f : String × Draft} (hf : f ∈ settings) :
    ∃ v ∈ given, v.1 = f.1 ∧ readVariable true v.2 = .ok f.2 := by
  obtain ⟨v, hv, hread⟩ := exists_of_mem_mapM h hf
  obtain ⟨d, hd, hpair⟩ := exists_of_bind_eq_ok hread
  cases hpair
  exact ⟨v, hv, rfl, hd⟩

namespace Store
variable {P : List (String × Draft) → Prop} {s s' : Store} {fields : List (String × Datum)}
  {environment : List (String × String)} {start : String} {x : AgentSettings}

theorem Calm.nil : Calm P [] :=
  ⟨List.nodup_nil, List.forall_mem_nil _, fun _ _ => List.not_mem_nil, List.forall_mem_nil _, nofun⟩

theorem calm_ofFile (file : GentleFile fields) (h : ofFile (.record fields) = .ok s) :
    Calm QuietFields s := by
  rw [ofFile] at h
  split at h
  · cases h
    exact Calm.nil
  · have hjoined : Entries.get? joinMark (ofFileFields fields) = none := by
      rw [Entries.get?_eq_none_iff, ofFileFields_eq_map, Entries.keys_map]
      exact file.unjoined
    simp only [hjoined] at h
    refine Calm.nil.setAll (fun f hf => ?_) h
    obtain ⟨g, hg, rfl⟩ := List.mem_map.mp (Entries.mem_ofList hf)
    rw [ofFileFields_eq_map] at hg
    obtain ⟨e, he, rfl⟩ := List.mem_map.mp hg
    exact file.gentle e he

theorem exists_of_overlay (usual : Usual (Entries.keys s))
    (h : overlay environment s start = .ok s') : ∃ settings,
      (variablesOf start environment).mapM readSetting = .ok settings ∧
        setAll none settings s = .ok s' := by
  rw [overlay, isOn_of_usual usual (by decide)] at h
  exact exists_of_bind_eq_ok h

theorem exists_of_load (h : load (.record fields) environment = .ok x) :
    ∃ first second last look settled, ofFile (.record fields) = .ok first ∧
      overlay environment first "DYNACONF_" = .ok second ∧
      overlay environment second "METERLINE_" = .ok last ∧
      settleFields look last = .ok settled ∧ readAgent (.record (lowered settled)) = .ok x := by
  obtain ⟨first, hfirst, h⟩ := exists_of_bind_eq_ok h
  obtain ⟨last, hall, h⟩ := exists_of_bind_eq_ok h
  obtain ⟨settled, hsettled, h⟩ := exists_of_bind_eq_ok h
  rw [variableStarts, List.foldlM_cons] at hall
  obtain ⟨second, hsecond, hall⟩ := exists_of_bind_eq_ok hall
  rw [List.foldlM_cons] at hall
  obtain ⟨third, hthird, hall⟩ := exists_of_bind_eq_ok hall
  cases hall
  exact ⟨first, second, last, _, settled, hfirst, hsecond, hthird, hsettled,
    orFault_eq_ok_iff.mp h⟩

theorem variablesOf_append (start : String) (before after : List (String × String)) :
    variablesOf start (before ++ after) = variablesOf start before ++ variablesOf start after :=
  List.filterMap_append

theorem variablesOf_cons_self (start name text : String) (after : List (String × String)) :
    variablesOf start ((start ++ name, text) :: after) =
      (name, text) :: variablesOf start after := by
  have hbegins : start.toList.isPrefixOf (start ++ name).toList = true := by simp
  have hdrop : (start ++ name).toList.drop start.length = name.toList := by
    simp [← String.length_toList]
  rw [variablesOf, List.filterMap_cons]
  simp only [hbegins, if_true, hdrop, String.ofList_toList]
  rfl

theorem variablesOf_dynaconf_cons (name text : String) (after : List (String × String)) :
    variablesOf "DYNACONF_" (("METERLINE_" ++ name, text) :: after) =
      variablesOf "DYNACONF_" after := by
  have hbegins : "DYNACONF_".toList.isPrefixOf ("METERLINE_" ++ name).toList = false := by
    rw [String.toList_append]
    rfl
  rw [variablesOf, List.filterMap_cons]
  simp only [hbegins]
  rfl

/-- The variables that are set before those of a later part of the environment. -/
def earlier (before after : List (String × String)) : List (String × String) :=
  variablesOf "DYNACONF_" (before ++ after) ++ variablesOf "METERLINE_" before

/-- A setting that one of these variables gives. -/
def GivenBy (given : List (String × String)) (f : String × Draft) : Prop :=
  ∃ v ∈ given, v.1 = f.1 ∧ readVariable true v.2 = .ok f.2

/-- What settings are read as at last. -/
def ReadAs (s : Store) (x : AgentSettings) : Prop :=
  ∃ look settled, settleFields look s = .ok settled ∧ readAgent (.record (lowered settled)) = .ok x

/-- Loading with one setting more and without it, after what is common to both. -/
structure Fork (name : String) (d : Draft) (back : List (String × Draft)) (middle : Store)
    (x y : AgentSettings) : Prop where
  without : ∃ last, setAll none back middle = .ok last ∧ ReadAs last x
  more : ∃ next last, middle.set none name d = .ok next ∧ setAll none back next = .ok last ∧
    ReadAs last y

section Fork
variable {before after : List (String × String)} {name text : String} {y : AgentSettings}
  (file : GentleFile fields)
  (gentle : ∀ v ∈ earlier before after ++ variablesOf "METERLINE_" after, GentleVariable v)
  (hwithout : load (.record fields) (before ++ after) = .ok x)
  (hwith : load (.record fields) (before ++ ("METERLINE_" ++ name, text) :: after) = .ok y)
include file gentle hwithout hwith

theorem exists_fork : ∃ first middle settings back d, ofFile (.record fields) = .ok first ∧
    setAll none settings first = .ok middle ∧ Fork name d back middle x y ∧
    (∀ f ∈ settings, GivenBy (earlier before after) f) ∧
    ∀ f ∈ back, GivenBy (variablesOf "METERLINE_" after) f := by
  obtain ⟨first, second, last, look, settled, hfile, hearly, hlate, hsettle, hread⟩ :=
    exists_of_load hwithout
  obtain ⟨_, second', last', look', settled', hfile', hearly', hlate', hsettle', hread'⟩ :=
    exists_of_load hwith
  obtain rfl : first = _ := Except.ok.inj (hfile.symm.trans hfile')
  have calm := calm_ofFile file hfile
  -- The variables of the first kind are the same with and without the new one.
  obtain ⟨early, hreadEarly, hsetEarly⟩ := exists_of_overlay calm.usual hearly
  obtain ⟨_, hreadEarly', hsetEarly'⟩ := exists_of_overlay calm.usual hearly'
  rw [variablesOf_append, variablesOf_dynaconf_cons, ← variablesOf_append] at hreadEarly'
  obtain rfl : early = _ := Except.ok.inj (hreadEarly.symm.trans hreadEarly')
  obtain rfl : second = second' := Except.ok.inj (hsetEarly.symm.trans hsetEarly')
  have hfromEarly : ∀ f ∈ early, GivenBy (earlier before after) f := fun f hf => by
    obtain ⟨v, hv, hvread⟩ := exists_of_mem_readSettings hreadEarly hf
    exact ⟨v, List.mem_append_left _ hv, hvread⟩
  have calmSecond := calm.setAll (fun f hf => by
    obtain ⟨v, hv, hvname, hvread⟩ := hfromEarly f hf
    exact hvname ▸ gentle v (List.mem_append_left _ hv) f.2 hvread) hsetEarly
  -- Of the second kind there is one more.
  obtain ⟨late, hreadLate, hsetLate⟩ := exists_of_overlay calmSecond.usual hlate
  obtain ⟨late', hreadLate', hsetLate'⟩ := exists_of_overlay calmSecond.usual hlate'
  rw [variablesOf_append] at hreadLate
  rw [variablesOf_append, variablesOf_cons_self] at hreadLate'
  obtain ⟨front, back, hfront, hback, rfl⟩ := exists_of_mapM_append hreadLate
  obtain ⟨_, rest, hfront', hrest, rfl⟩ := exists_of_mapM_append hreadLate'
  obtain ⟨v, _, hv, hback', rfl⟩ := exists_of_mapM_cons hrest
  obtain rfl : front = _ := Except.ok.inj (hfront.symm.trans hfront')
  obtain rfl : back = _ := Except.ok.inj (hback.symm.trans hback')
  obtain ⟨d, -, hpair⟩ := exists_of_bind_eq_ok hv
  cases hpair
  rw [setAll_append] at hsetLate hsetLate'
  obtain ⟨middle, hmiddle, hsetBack⟩ := exists_of_bind_eq_ok hsetLate
  obtain ⟨_, hmiddle', hsetRest⟩ := exists_of_bind_eq_ok hsetLate'
  obtain rfl : middle = _ := Except.ok.inj (hmiddle.symm.trans hmiddle')
  obtain ⟨next, hnext, hsetNext⟩ := exists_of_setAll_cons hsetRest
  refine ⟨first, middle, early ++ front, back, d, hfile, ?_, ?_, ?_, fun f hf =>
    exists_of_mem_readSettings hback hf⟩
  · rw [setAll_append, hsetEarly]
    exact hmiddle
  · exact ⟨⟨last, hsetBack, look, settled, hsettle, hread⟩,
      ⟨next, last', hnext, hsetNext, look', settled', hsettle', hread'⟩⟩
  · refine List.forall_mem_append.mpr ⟨hfromEarly, fun f hf => ?_⟩
    obtain ⟨v, hv, hvread⟩ := exists_of_mem_readSettings hfront hf
    exact ⟨v, List.mem_append_right _ hv, hvread⟩

end Fork

/-- All is the same but for plugins that are set aside together with the one that is set. -/
theorem Fork.frame {p : String → Bool} {name k : String} {d : Draft} {rest : List String}
    {back : List (String × Draft)} {middle : Store} {y : AgentSettings}
    (fork : Fork name d back middle x y) (calm : Calm QuietFields middle) (closed : Closed p)
    (hp : p k = true) (hname : segments name = "PLUGINS" :: k :: rest) (hk : k ∉ joinWords)
    (gentle : ∀ f ∈ back, Gentle f.1 f.2) (apart : ∀ f ∈ back, Partial f.1 f.2) :
    y.logging = x.logging ∧ outside p y.plugins = outside p x.plugins := by
  obtain ⟨last, hlast, look, settled, hsettle, hread⟩ := fork.without
  obtain ⟨next, last', hnext, hlast', look', settled', hsettle', hread'⟩ := fork.more
  have agree := calm.agree_set closed (by decide +kernel) hk hp hname hnext
  exact (agree.setAll closed gentle apart hlast hlast').read hsettle hsettle' hread hread'

/-- A plugin that is there already has no name added by what is set inside of it. -/
theorem Fork.names {name k part : String} {d : Draft} {rest : List String}
    {back : List (String × Draft)} {middle : Store} {y : AgentSettings}
    (fork : Fork name d back middle x y) (calm : Calm QuietFields middle)
    (hname : segments name = "PLUGINS" :: k :: part :: rest) (hk : k ∉ joinWords)
    (hpart : part ∉ joinWords) (hfound : (findKey? k (pluginNames middle)).isSome = true)
    (gentle : ∀ f ∈ back, Gentle f.1 f.2) (apart : ∀ f ∈ back, Partial f.1 f.2) :
    Entries.keys y.plugins = Entries.keys x.plugins := by
  obtain ⟨last, hlast, look, settled, hsettle, hread⟩ := fork.without
  obtain ⟨next, last', hnext, hlast', look', settled', hsettle', hread'⟩ := fork.more
  have firm : Calm (FieldsOf Firm) middle := calm.weaken _
  obtain ⟨fields, rfl, hfields, hkeys⟩ := set_name firm (by decide +kernel) hk
    (by simpa using hpart) hname nofun hnext
  have firmNext := firm.put_plugins (.inr ⟨fields, rfl, hfields⟩)
  have hsame :
      pluginNames (Entries.put "PLUGINS" (.record fields) middle) = pluginNames middle := by
    rw [pluginNames, pluginFields_put_record, hkeys, withName, if_pos hfound]
  obtain ⟨firmLast, hnames⟩ := firm.setAll_firm gentle apart hlast
  obtain ⟨firmLast', hnames'⟩ := firmNext.setAll_firm gentle apart hlast'
  rw [firmLast.keys_plugins hsettle hread, firmLast'.keys_plugins hsettle' hread', hnames, hnames',
    hsame]

end Store

/-- The names of the plugins that a file has settings for. -/
def namesInFile (fields : List (String × Datum)) : List String :=
  match Store.ofFile (.record fields) with
  | .ok s => Store.pluginNames s
  | .error _ => []

theorem Gentle.of_quiet {name : String} {d : Draft} (tame : Tame name) (hd : Quiet d) :
    Gentle name d where
  tame := tame
  quiet _ he := Except.ok.inj ((expand_quiet hd).symm.trans he) ▸ hd

/-- A file with the settings of one plugin. -/
def demoFile : List (String × Datum) :=
  [("plugins", .record [("demo", .record [("enabled", .bool false)])])]

theorem gentleFile_demoFile : GentleFile demoFile where
  unjoined := by decide
  gentle f hf := by
    obtain rfl : f = ("plugins", .record [("demo", .record [("enabled", .bool false)])]) :=
      List.mem_singleton.mp hf
    have htopKey : topKey "plugins" = "PLUGINS" := by decide +kernel
    have hsegments : segments "PLUGINS" = ["PLUGINS"] := by decide +kernel
    have hflag : Quiet (.plain (.bool false)) := .plain rfl nofun
    have hdemo : QuietFields [("enabled", .plain (.bool false))] :=
      FieldsOf.nil.append_new (by decide) (by decide) hflag
    have hplugins : QuietFields [("demo", .record [("enabled", .plain (.bool false))])] :=
      FieldsOf.nil.append_new (by decide) (by decide) (quiet_record_iff.mpr hdemo)
    refine .of_quiet ⟨?_, ?_⟩ (quiet_record_iff.mpr hplugins)
    · rw [htopKey, hsegments]
      decide +kernel
    · rw [htopKey, hsegments]
      decide

theorem exists_of_isSome {ε α : Type} {x : Except ε α} (h : x.toOption.isSome = true) :
    ∃ a, x = .ok a := by
  cases x with
  | error e => cases h
  | ok a => exact ⟨a, rfl⟩

/-- A variable for a plugin that is added to an environment. -/
structure Trial where
  file : List (String × Datum)
  before : List (String × String) := []
  after : List (String × String) := []
  added : String × String
  plugin : String

namespace Trial

def without (t : Trial) : Except Fault AgentSettings := load (.record t.file) (t.before ++ t.after)

def loaded (t : Trial) : Except Fault AgentSettings :=
  load (.record t.file) (t.before ++ t.added :: t.after)

/-- The log and all plugins of other names, whatever the case of their letters, are as they are
without the variable, and the names of the plugins too if the file has this one. -/
def StaysInside (t : Trial) : Prop :=
  ∀ a b, t.without = .ok a → t.loaded = .ok b →
    b.logging = a.logging ∧
      outside (sameIgnoringCase t.plugin) b.plugins =
        outside (sameIgnoringCase t.plugin) a.plugins ∧
      ((∃ key ∈ namesInFile t.file, sameIgnoringCase key t.plugin = true) →
        Entries.keys b.plugins = Entries.keys a.plugins)

/-- Plugins with their configurations as text. -/
def written (plugins : List (String × PluginSettings)) :
    List (String × Bool × List (String × String)) :=
  plugins.map fun p => (p.1, p.2.enabled, p.2.config.map fun f => (f.1, f.2.plainText))

/-- Whether what is loaded differs where the variable is not to reach. -/
def strays (t : Trial) : Bool :=
  match t.without, t.loaded with
  | .ok a, .ok b => b.logging != a.logging ||
      written (outside (sameIgnoringCase t.plugin) b.plugins) !=
        written (outside (sameIgnoringCase t.plugin) a.plugins) ||
      ((namesInFile t.file).any (sameIgnoringCase · t.plugin) &&
        Entries.keys b.plugins != Entries.keys a.plugins)
  | _, _ => false

theorem not_staysInside_of_strays {t : Trial} (h : t.strays = true) : ¬ t.StaysInside := by
  intro stays
  rw [strays] at h
  split at h
  next a b ha hb =>
    obtain ⟨hlogging, hplugins, hnames⟩ := stays a b ha hb
    rw [hlogging, hplugins, bne_self_eq_false, bne_self_eq_false, Bool.false_or, Bool.false_or,
      Bool.and_eq_true, List.any_eq_true] at h
    rw [hnames h.1, bne_self_eq_false] at h
    exact Bool.false_ne_true h.2
  next => cases h

/-- A plugin of which nothing is said. -/
def bare (name : String) : String × Datum := (name, .record [])

/-- An earlier variable puts a text in the place of all plugins. -/
def afterText : Trial where
  file := [("plugins", .record [bare "c"])]
  before := [("METERLINE_PLUGINS", "x"), ("METERLINE_PLUGINS__a__enabled", "false")]
  added := ("METERLINE_PLUGINS__c__enabled", "true")
  plugin := "c"

/-- A later variable lays a record over all plugins. -/
def beforeRecord : Trial where
  file := [("plugins", .record [bare "a", bare "b"])]
  after := [("METERLINE_PLUGINS", "\x7bb=\x7b\x7d,a=\x7b\x7d\x7d")]
  added := ("METERLINE_PLUGINS__c__enabled", "true")
  plugin := "c"

/-- Another variable changes the sign at which names are taken apart. -/
def otherSign : Trial where
  file := [("plugins", .record [bare "a"])]
  before := [("METERLINE_NESTED_SEPARATOR_FOR_DYNACONF", "_")]
  added := ("METERLINE_PLUGINS__c__enabled", "true")
  plugin := "c"

/-- A plugin's name has a blank for the underscore. -/
def blankForUnderscore : Trial where
  file := [("plugins", .record [bare "my plugin"])]
  added := ("METERLINE_PLUGINS__my_plugin__enabled", "false")
  plugin := "my_plugin"

/-- The variable's name for the plugin goes on behind a dot. -/
def dotted : Trial where
  file := [("plugins", .record [bare "a"])]
  added := ("METERLINE_PLUGINS__a.config__x", "1")
  plugin := "a.config"

/-- The variable's name for the plugin is a mark. -/
def markForName : Trial where
  file := []
  after := [("METERLINE_PLUGINS__a__config__x", "[1]"), ("METERLINE_PLUGINS__a__config__X", "[3]")]
  added := ("METERLINE_PLUGINS__dynaconf_merge__x", "true")
  plugin := "dynaconf_merge"

/-- What is set inside the plugin is a mark, for a plugin that has no record yet. -/
def markInside : Trial where
  file := [("plugins", .record [("c", .int 5), bare "a"])]
  after := [("METERLINE_PLUGINS__c__enabled", "true")]
  added := ("METERLINE_PLUGINS__c__dynaconf_merge", "@del")
  plugin := "c"

/-- The file has a mark in the settings of another plugin. -/
def markInFile : Trial where
  file := [("plugins", .record [("a", .record [("dynaconf_merge",
    .record [("enabled", .bool false)])])])]
  added := ("METERLINE_PLUGINS__c__enabled", "true")
  plugin := "c"

/-- A text in the file is read by its marks once more. -/
def readTwice : Trial where
  file := [("plugins", .record [("a", .record [("config", .record [("x", .text "@str @int 5")])])])]
  added := ("METERLINE_PLUGINS__c__enabled", "true")
  plugin := "c"

/-- A template in the file shows what is set. -/
def shown : Trial where
  file := [("plugins", .record [
    ("a", .record [("config", .record [("x", .text "@format \x7bthis.PLUGINS.c.enabled\x7d")])]),
    ("c", .record [("enabled", .bool true)])])]
  added := ("METERLINE_PLUGINS__c__enabled", "false")
  plugin := "c"

/-- The level of the log is asked from the plugin's settings. -/
def asked : Trial where
  file := [("plugins", .record [("a", .record [("config", .record [("l", .text "DEBUG")])])]),
    ("logging", .record [("level", .text "@get PLUGINS.a.config.l")])]
  added := ("METERLINE_PLUGINS__a__config__l", "INFO")
  plugin := "a"

-- Each trial has a check of its own, so that what the kernel keeps of one is gone before the next.
theorem strays_by_variables :
    afterText.strays = true ∧ beforeRecord.strays = true ∧ otherSign.strays = true := by
  refine ⟨?_, ?_, ?_⟩
  all_goals decide +kernel

theorem strays_by_names :
    blankForUnderscore.strays = true ∧ dotted.strays = true ∧ markForName.strays = true ∧
      markInside.strays = true := by
  refine ⟨?_, ?_, ?_, ?_⟩
  all_goals decide +kernel

theorem strays_by_file :
    markInFile.strays = true ∧ readTwice.strays = true ∧ shown.strays = true ∧
      asked.strays = true := by
  refine ⟨?_, ?_, ?_, ?_⟩
  all_goals decide +kernel

end Trial
end Preflight.Settings
