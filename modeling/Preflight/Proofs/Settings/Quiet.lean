import Preflight.Proofs.Entries
import Preflight.Proofs.Rows
import Preflight.Settings.Overlay

/-! Quiet settings: no change waits in them, and no text, item or key is a mark. They stay what they
are when their texts are read, when something is set beside them and when they are laid over
themselves; and what is made of quiet settings by laying them over each other is quiet again. -/
namespace Preflight.Settings
open Draft

/-- The words by which data say how they are joined. -/
def joinWords : List String := [joinMark, uniqueMark]

/-- A text that stands for nothing but itself. -/
structure Unmarked (s : String) : Prop where
  read : readText s = .ok (text s)
  word : s ∉ joinWords

inductive Quiet : Draft → Prop where
  | plain {d : Datum} (atom : ofDatum d = .plain d) (text : ∀ s, d = .text s → Unmarked s) :
      Quiet (.plain d)
  | list {items : List Draft} (all : ∀ d ∈ items, Quiet d) : Quiet (.list items)
  | record {fields : List (String × Draft)} (nodup : (Entries.keys fields).Nodup)
      (keys : ∀ key ∈ Entries.keys fields, key ∉ joinWords) (all : ∀ f ∈ fields, Quiet f.2) :
      Quiet (.record fields)

/-- The fields of a record whose keys are no marks and whose values are all of one kind. -/
structure FieldsOf (Q : Draft → Prop) (fields : List (String × Draft)) : Prop where
  nodup : (Entries.keys fields).Nodup
  keys : ∀ key ∈ Entries.keys fields, key ∉ joinWords
  all : ∀ f ∈ fields, Q f.2

/-- The fields of a quiet record. -/
abbrev QuietFields : List (String × Draft) → Prop := FieldsOf Quiet

variable {d e : Draft} {fields : List (String × Draft)} {items : List Draft} {Q : Draft → Prop}

theorem quiet_record_iff : Quiet (.record fields) ↔ QuietFields fields :=
  ⟨fun | .record nodup keys all => ⟨nodup, keys, all⟩, fun h => .record h.nodup h.keys h.all⟩

theorem FieldsOf.nil : FieldsOf Q [] :=
  ⟨List.nodup_nil, List.forall_mem_nil _, List.forall_mem_nil _⟩

/-! ## Texts without marks -/

theorem marks_begin (word : String) (hword : word.toList.head? ≠ some '@') :
    Entries.get? word marks = none := by
  refine Entries.get?_eq_none_iff.mpr fun hmem => ?_
  have hall : ∀ w ∈ Entries.keys marks, w.toList.head? = some '@' := by decide +kernel
  exact hword (hall word hmem)

theorem beforeTemplate?_of_unmarked {s : String} (hs : s.toList.head? ≠ some '@') :
    beforeTemplate? s = none := by
  refine List.findSome?_eq_none_iff.mpr fun m hm => ?_
  obtain ⟨word, mark⟩ := m
  refine List.findSome?_eq_none_iff.mpr fun l _ => ?_
  obtain ⟨language, inner⟩ := l
  have hall : ∀ w ∈ Entries.keys marks, w.toList.head? = some '@' := by decide +kernel
  have hword : word.toList.head? = some '@' := hall word (List.mem_map_of_mem (f := (·.1)) hm)
  have hbegins : (word ++ " " ++ language).toList.isPrefixOf s.toList = false := by
    rw [String.toList_append, String.toList_append]
    cases hw : word.toList with
    | nil => simp [hw] at hword
    | cons c cs =>
      rw [hw] at hword
      cases hword
      cases hc : s.toList with
      | nil => rfl
      | cons d ds =>
        have hne : '@' ≠ d := by
          rintro rfl
          simp [hc] at hs
        simp [List.isPrefixOf, hne]
  simp only [hbegins]
  rfl

theorem readMarked_of_unmarked (plain : String → Draft) (n : Nat) {s : String}
    (hs : s.toList.head? ≠ some '@') : readMarked plain n s = .ok (plain s) := by
  cases n with
  | zero => rfl
  | succ n =>
    have hword : (String.ofList (s.toList.takeWhile (· ≠ ' '))).toList.head? ≠ some '@' := by
      rw [String.toList_ofList]
      cases hc : s.toList with
      | nil => simp
      | cons c cs =>
        rw [hc] at hs
        by_cases hb : c = ' ' <;> simp_all
    rw [readMarked, beforeTemplate?_of_unmarked hs]
    simp only [marks_begin _ hword]

theorem expandItems_of (h : ∀ d ∈ items, expand d = .ok d) : expandItems items = .ok items := by
  induction items with
  | nil => rfl
  | cons d rest ih =>
    rw [expandItems, h d List.mem_cons_self, ih fun e he => h e (List.mem_cons_of_mem d he)]
    rfl

theorem expandFields_of (h : ∀ f ∈ fields, expand f.2 = .ok f.2) :
    expandFields fields = .ok fields := by
  induction fields with
  | nil => rfl
  | cons f rest ih =>
    rw [expandFields, expandField, h f List.mem_cons_self,
      ih fun e he => h e (List.mem_cons_of_mem f he)]
    rfl

theorem expand_quiet (h : Quiet d) : expand d = .ok d := by
  induction h with
  | @plain d atom text =>
    cases d with
    | text s => exact (text s rfl).read
    | _ => rfl
  | list _ ih => rw [expand, expandItems_of ih]; rfl
  | record _ _ _ ih => rw [expand, expandFields_of ih]; rfl

/-! ## Settled -/

theorem settleItems_of (h : ∀ d ∈ items, ∃ x, ∀ look, settle look d = .ok x) :
    ∃ xs, ∀ look, settleItems look items = .ok xs := by
  induction items with
  | nil => exact ⟨[], fun _ => rfl⟩
  | cons d rest ih =>
    obtain ⟨x, hx⟩ := h d List.mem_cons_self
    obtain ⟨xs, hxs⟩ := ih fun e he => h e (List.mem_cons_of_mem d he)
    exact ⟨x :: xs, fun look => by rw [settleItems, hx look, hxs look]; rfl⟩

theorem settleFields_of (h : ∀ f ∈ fields, ∃ x, ∀ look, settle look f.2 = .ok x) :
    ∃ xs, ∀ look, settleFields look fields = .ok xs := by
  induction fields with
  | nil => exact ⟨[], fun _ => rfl⟩
  | cons f rest ih =>
    obtain ⟨x, hx⟩ := h f List.mem_cons_self
    obtain ⟨xs, hxs⟩ := ih fun e he => h e (List.mem_cons_of_mem f he)
    exact ⟨(f.1, x) :: xs, fun look => by rw [settleFields, settleField, hx look, hxs look]; rfl⟩

/-- Nothing has to be looked up. -/
theorem settle_quiet (h : Quiet d) : ∃ x, ∀ look, settle look d = .ok x := by
  induction h with
  | @plain d _ _ => exact ⟨d, fun look => settle_plain look d⟩
  | list _ ih =>
    obtain ⟨xs, hxs⟩ := settleItems_of ih
    exact ⟨.list xs, fun look => by rw [settle, hxs look]; rfl⟩
  | record _ _ _ ih =>
    obtain ⟨xs, hxs⟩ := settleFields_of ih
    exact ⟨.record xs, fun look => by rw [settle, hxs look]; rfl⟩

/-! ## Compared -/

theorem beq_self_of_atom {x : Datum} (atom : ofDatum x = .plain x) : (x == x) = true := by
  cases x with
  | null => rfl
  | bool b => exact beq_self_eq_true b
  | int n => exact beq_self_eq_true n
  | float x => exact @beq_self_eq_true Binary64 _ _ x
  | text s => exact beq_self_eq_true s
  | moment s => exact beq_self_eq_true s
  | list xs => cases atom
  | record fs => cases atom

theorem samePlain_self {x : Datum} (h : (x == x) = true) : samePlain x x = true := by
  rw [samePlain]
  cases integer? x with
  | none => exact h
  | some n => exact beq_self_eq_true _

theorem sameItems_self (h : ∀ d ∈ items, same d d = true) : sameItems items items = true := by
  induction items with
  | nil => rfl
  | cons d rest ih =>
    rw [sameItems, h d List.mem_cons_self, ih fun e he => h e (List.mem_cons_of_mem d he)]
    rfl

theorem sameFields_iff {all : List (String × Draft)} : sameFields fields all = true ↔
    ∀ f ∈ fields, ∃ d, Entries.get? f.1 all = some d ∧ same f.2 d = true := by
  induction fields with
  | nil => simp [sameFields]
  | cons f rest ih =>
    obtain ⟨key, d⟩ := f
    rw [sameFields, sameField, Bool.and_eq_true, ih, List.forall_mem_cons, Option.any_eq_true]

theorem same_self (h : Quiet d) : same d d = true := by
  induction h with
  | plain atom _ => rw [same]; exact samePlain_self (beq_self_of_atom atom)
  | list _ ih => rw [same]; exact sameItems_self ih
  | record nodup _ _ ih =>
    rw [same, beq_self_eq_true, Bool.true_and, sameFields_iff]
    exact fun f hf => ⟨f.2, Entries.get?_of_mem nodup hf, ih f hf⟩

/-- No quiet value is a mark. -/
theorem not_same_word (h : Quiet d) {word : String} (hword : word ∈ joinWords) :
    same (.text word) d = false := by
  cases h with
  | @plain x atom text =>
    cases x with
    | text s =>
      have hne : word ≠ s := fun heq => (text s rfl).word (heq ▸ hword)
      have hsame : same (.text word) (.plain (.text s)) = (word == s) := rfl
      rw [hsame]
      exact beq_eq_false_iff_ne.mpr hne
    | _ => rfl
  | _ => rfl

theorem not_hasItem_word (all : ∀ d ∈ items, Quiet d) {word : String} (hword : word ∈ joinWords) :
    hasItem (.text word) items = false := by
  rw [hasItem, List.any_eq_false]
  exact fun d hd => by simp [not_same_word (all d hd) hword]

/-! ## Changed and kept -/

theorem takeMarks_of_unmarked (keys : ∀ key ∈ Entries.keys fields, key ∉ joinWords) :
    takeMarks fields = (none, fields) := by
  have hfree : ∀ word ∈ joinWords, word ∉ Entries.keys fields :=
    fun word hword hmem => keys word hmem hword
  have hjoin := Entries.get?_eq_none_iff.mpr (hfree joinMark (by simp [joinWords]))
  have hunique := Entries.get?_eq_none_iff.mpr (hfree uniqueMark (by simp [joinWords]))
  have hwithout : Entries.without [joinMark, uniqueMark] fields = fields :=
    Entries.without_of_not_mem hfree
  rw [takeMarks, hjoin, hunique, hwithout]
  rfl

theorem applyMarks_of_unmarked (join : Draft → Draft) (old : Option Draft)
    (keys : ∀ key ∈ Entries.keys fields, key ∉ joinWords) :
    applyMarks join old (.record fields) = .record fields := by
  rw [applyMarks, takeMarks_of_unmarked keys]
  rfl

theorem applyMarks_quiet (join : Draft → Draft) (old : Option Draft) (h : Quiet d) :
    applyMarks join old d = d := by
  cases h with
  | plain => rfl
  | list all =>
    rw [applyMarks, not_hasItem_word all (by simp [joinWords]),
      not_hasItem_word all (by simp [joinWords])]
    rfl
  | record nodup keys all => exact applyMarks_of_unmarked join old keys

theorem alter_quiet (join : Bool → Draft → Draft) (old : Option Draft) (h : Quiet d) :
    alter join old d = some d := by
  cases h <;> rfl

theorem change_quiet (join : Bool → Draft → Draft) (old : Option Draft) (h : Quiet d) :
    change join old d = some d := by
  rw [change, alter_quiet _ _ h, Option.map_some, applyMarks_quiet _ _ h]

theorem keep_quiet (h : Quiet d) : keep d = some d := change_quiet _ _ h

theorem leave_quiet (h : Quiet d) : leave d = some d := by
  cases h with
  | record nodup keys all => rw [leave, takeMarks_of_unmarked keys]
  | _ => rfl

/-! ## Laid over each other -/

/-- What is the same already is not joined again. -/
theorem merge_of_same {old : Draft} (h : same old d = true) (unique : Bool) :
    merge old unique d = d := by
  cases old <;> cases d <;> try rfl
  · rw [same] at h
    rw [merge, if_pos h]
  · rw [merge, if_pos h]

theorem merge_self (h : Quiet d) (unique : Bool) : merge d unique d = d :=
  merge_of_same (same_self h) unique

theorem dropItem_subset (x : Draft) (items : List Draft) : dropItem x items ⊆ items := by
  induction items with
  | nil => exact List.Subset.refl _
  | cons y ys ih =>
    rw [dropItem]
    split
    · exact List.subset_cons_self y ys
    · exact List.cons_subset_cons y ih

theorem prepend_subset (unique : Bool) (xs ys : List Draft) : prepend unique xs ys ⊆ xs ++ ys := by
  induction xs with
  | nil => exact List.Subset.refl _
  | cons x xs ih =>
    have hstep : prepend unique (x :: xs) ys =
        if unique && hasItem x (prepend unique xs ys) then prepend unique xs ys
        else x :: prepend unique xs ys := rfl
    rw [hstep]
    split
    · exact List.Subset.trans ih (List.subset_cons_self x (xs ++ ys))
    · exact List.cons_subset_cons x ih

theorem quiet_joinItems {more : List Draft} (all : ∀ d ∈ items, Quiet d) (new : ∀ d ∈ more, Quiet d)
    (unique : Bool) : ∀ d ∈ joinItems unique items more, Quiet d := fun d hd => by
  rcases List.mem_append.mp (prepend_subset _ _ _ hd) with hd | hd
  · exact all d hd
  · exact new d (dropItem_subset _ _ hd)

theorem put_unmarked (keys : ∀ k ∈ Entries.keys fields, k ∉ joinWords) {key : String}
    (hkey : key ∉ joinWords) (d : Draft) :
    ∀ k ∈ Entries.keys (Entries.put key d fields), k ∉ joinWords := fun k hk => by
  rcases Entries.mem_keys_put.mp hk with rfl | hk
  · exact hkey
  · exact keys k hk

namespace FieldsOf

theorem get (h : FieldsOf Q fields) {key : String} (hget : Entries.get? key fields = some d) :
    Q d := h.all _ (Entries.mem_of_get? hget)

theorem put (h : FieldsOf Q fields) {key : String} (hkey : key ∉ joinWords) (hd : Q d) :
    FieldsOf Q (Entries.put key d fields) where
  nodup := Entries.nodup_keys_put h.nodup key d
  keys := put_unmarked h.keys hkey d
  all f hf := by
    rcases Entries.mem_put hf with hf | rfl
    · exact h.all f hf
    · exact hd

theorem filter (h : FieldsOf Q fields) (p : String × Draft → Bool) :
    FieldsOf Q (fields.filter p) where
  nodup := h.nodup.sublist (List.filter_sublist.map _)
  keys k hk := h.keys k ((List.filter_sublist.map _).subset hk)
  all f hf := h.all f (List.mem_of_mem_filter hf)

theorem putField (h : FieldsOf Q fields) {key : String} (hkey : key ∉ joinWords)
    {x : Option Draft} (hx : ∀ d ∈ x, Q d) : FieldsOf Q (putField key x fields) := by
  cases x with
  | none => exact h.filter _
  | some d => exact h.put hkey (hx d rfl)

theorem append_new (h : FieldsOf Q fields) {key : String} (hkey : key ∉ joinWords)
    (hnew : key ∉ Entries.keys fields) (hd : Q d) : FieldsOf Q (fields ++ [(key, d)]) :=
  Entries.put_of_not_mem hnew d ▸ h.put hkey hd

end FieldsOf

/-! ## Records laid over each other -/

theorem mem_keys_putField {k key : String} {x : Option Draft}
    (h : k ∈ Entries.keys (putField key x fields)) : k = key ∨ k ∈ Entries.keys fields := by
  cases x with
  | none => exact .inr ((List.filter_sublist.map _).subset h)
  | some d => exact Entries.mem_keys_put.mp h

theorem mem_keys_rename {k : String} {names : List String}
    (h : k ∈ Entries.keys (rename names fields)) : k ∈ names ∨ k ∈ Entries.keys fields := by
  refine List.foldlRecOn (motive := fun renamed => ∀ k ∈ Entries.keys renamed,
    k ∈ names ∨ k ∈ Entries.keys fields) _ _ (fun k hk => .inr hk) (fun renamed ih name _ => ?_) k h
  split
  next key d hkey _ =>
    intro k hk
    rw [Entries.keys, List.map_append] at hk
    rcases List.mem_append.mp hk with hk | hk
    · exact ih k ((List.filter_sublist.map _).subset hk)
    · exact .inl (List.mem_singleton.mp hk ▸ mem_of_findKey? hkey)
  next => exact ih

/-- New fields put again as they are where there were none. -/
def putFresh (names : List String) (laid : List (String × Draft)) : List (String × Draft) :=
  names.foldl (fun laid name =>
    putField name ((Entries.get? name laid).bind (change (fun _ d => d) none)) laid) laid

/-- New fields by the names of the old ones, joined to these and put in their order. -/
def layFields (old named : List (String × Draft)) : List (String × Draft) :=
  arrange (Entries.keys old) (Entries.keys named)
    (putFresh ((Entries.keys named).filter fun name => !(Entries.keys old).contains name)
      (mergeFields true (Entries.keys named) old named))

/-- Without marks every old field is wanted. -/
theorem merge_records {old new : List (String × Draft)}
    (hold : ∀ key ∈ Entries.keys old, key ∉ joinWords)
    (hnew : ∀ key ∈ Entries.keys new, key ∉ joinWords) (unique : Bool) :
    merge (.record old) unique (.record new) =
      if same (.record old) (.record new) then .record new
      else .record (layFields old (rename (Entries.keys old) new)) := by
  have hfree : joinMark ∉ Entries.keys (rename (Entries.keys old) new) := fun hmem =>
    (mem_keys_rename hmem).elim (hold joinMark · (by simp [joinWords]))
      (hnew joinMark · (by simp [joinWords]))
  have hwithout : Entries.without [joinMark] (rename (Entries.keys old) new) =
      rename (Entries.keys old) new :=
    Entries.without_of_not_mem fun k hk => List.mem_singleton.mp hk ▸ hfree
  rw [merge]
  simp only [Entries.get?_eq_none_iff.mpr hfree, hwithout, Option.map_none, Option.getD_none,
    if_true]
  rfl

theorem quiet_rename {old : List String} (hold : ∀ key ∈ old, key ∉ joinWords)
    (h : QuietFields fields) : QuietFields (rename old fields) := by
  refine List.foldlRecOn (motive := QuietFields) _ _ h fun renamed hrenamed name _ => ?_
  split
  next key d hkey hd =>
    refine (hrenamed.filter _).append_new (hold key (mem_of_findKey? hkey)) ?_ (hrenamed.get hd)
    simp [Entries.keys]
  next => exact hrenamed

theorem quiet_arrange {old new : List String} (nodup : old.Nodup)
    (hold : ∀ key ∈ old, key ∉ joinWords) (h : QuietFields fields) :
    QuietFields (arrange old new fields) := by
  have hplaced : ∀ place : String → Option (String × Draft),
      (∀ key f, place key = some f → f.1 = key ∧ Quiet f.2) →
      QuietFields (old.filterMap place) ∧ Entries.keys (old.filterMap place) ⊆ old := by
    intro place hplace
    have hkeys : Entries.keys (old.filterMap place) =
        old.filter fun key => (place key).isSome := by
      rw [Entries.keys, List.map_filterMap, ← List.filterMap_eq_filter]
      refine List.filterMap_congr fun key _ => ?_
      cases hkey : place key with
      | none => simp [Option.guard, hkey]
      | some f => simp [Option.guard, hkey, (hplace key f hkey).1]
    refine ⟨⟨?_, fun k hk => ?_, fun f hf => ?_⟩, ?_⟩
    · rw [hkeys]
      exact nodup.sublist List.filter_sublist
    · rw [hkeys] at hk
      exact hold k (List.mem_of_mem_filter hk)
    · obtain ⟨key, _, hkey⟩ := List.mem_filterMap.mp hf
      exact (hplace key f hkey).2
    · rw [hkeys]
      exact List.filter_subset_self _
  obtain ⟨hfront, hsub⟩ := hplaced (fun key => ((Entries.get? key fields).or
      ((new.find? (means key)).bind (Entries.get? · fields))).map (key, ·)) fun key f hf => by
    obtain ⟨d, hd, rfl⟩ := Option.map_eq_some_iff.mp hf
    refine ⟨rfl, ?_⟩
    rcases Option.or_eq_some_iff.mp hd with hd | ⟨-, hd⟩
    · exact h.get hd
    · obtain ⟨name, -, hd⟩ := Option.bind_eq_some_iff.mp hd
      exact h.get hd
  have hback := h.filter fun f => !old.contains f.1
  rw [arrange]
  refine ⟨?_, fun k hk => ?_, List.forall_mem_append.mpr ⟨hfront.all, hback.all⟩⟩
  · rw [Entries.keys, List.map_append]
    refine hfront.nodup.append hback.nodup fun k hk hmem => ?_
    obtain ⟨f, hf, rfl⟩ := List.mem_map.mp hmem
    have hout : f.1 ∉ old := by simpa using (List.mem_filter.mp hf).2
    exact hout (hsub hk)
  · rw [Entries.keys, List.map_append] at hk
    rcases List.mem_append.mp hk with hk | hk
    · exact hfront.keys k hk
    · exact hback.keys k hk

theorem quiet_mergeFields {names : List String} {old : List (String × Draft)}
    (merged : ∀ f ∈ old, ∀ unique d, Quiet d → Quiet (merge f.2 unique d))
    (hold : QuietFields old) (hnames : ∀ name ∈ names, name ∉ joinWords)
    (h : QuietFields fields) : QuietFields (mergeFields true names old fields) := by
  induction old generalizing fields with
  | nil => exact h
  | cons f rest ih =>
    obtain ⟨key, x⟩ := f
    obtain ⟨hmerged, hmore⟩ := List.forall_mem_cons.mp merged
    obtain ⟨hx, -⟩ := List.forall_mem_cons.mp hold.all
    have hfield : QuietFields (mergeField true names (key, x) fields) := by
      rw [mergeField]
      simp only [if_true]
      split
      next name hname =>
        refine h.putField (hnames name (mem_of_findKey? hname)) fun d hd => ?_
        obtain ⟨e, he, hchange⟩ := Option.bind_eq_some_iff.mp hd
        have hquiet := hmerged false e (h.get he)
        rw [change_quiet _ _ hquiet] at hchange
        exact Option.some.inj hchange ▸ hquiet
      next =>
        rw [keep_quiet hx]
        exact h.put (hold.keys key List.mem_cons_self) hx
    exact ih hmore ⟨(List.nodup_cons.mp hold.nodup).2,
      fun k hk => hold.keys k (List.mem_cons_of_mem key hk),
      fun f hf => hold.all f (List.mem_cons_of_mem _ hf)⟩ hfield

theorem quiet_putFresh (names : List String) (hnames : ∀ name ∈ names, name ∉ joinWords)
    (h : QuietFields fields) : QuietFields (putFresh names fields) := by
  refine List.foldlRecOn (motive := QuietFields) names _ h fun laid hlaid name hname => ?_
  refine hlaid.putField (hnames name hname) fun d hd => ?_
  obtain ⟨e, he, hchange⟩ := Option.bind_eq_some_iff.mp hd
  have hquiet := hlaid.get he
  rw [change_quiet _ _ hquiet] at hchange
  exact Option.some.inj hchange ▸ hquiet

/-- Quiet settings laid over quiet ones are quiet. -/
theorem quiet_merge (hd : Quiet d) (unique : Bool) (he : Quiet e) : Quiet (merge d unique e) := by
  induction hd generalizing unique e with
  | @plain x atom text =>
    have hmerge : merge (.plain x) unique e = e := by cases e <;> rfl
    rwa [hmerge]
  | list all =>
    cases he with
    | list new =>
      rw [merge]
      split
      · exact .list new
      · exact .list (quiet_joinItems all new unique)
    | plain atom text => exact .plain atom text
    | record nodup keys new => exact .record nodup keys new
  | @record old nodup keys all ih =>
    cases he with
    | @record new newNodup newKeys newAll =>
      have hold : QuietFields old := ⟨nodup, keys, all⟩
      have hnamed : QuietFields (rename (Entries.keys old) new) :=
        quiet_rename keys ⟨newNodup, newKeys, newAll⟩
      have hlaid := quiet_mergeFields (fun f hf unique d hd => ih f hf unique hd) hold hnamed.keys
        hnamed
      rw [merge_records keys newKeys]
      split
      · exact .record newNodup newKeys newAll
      · refine quiet_record_iff.mpr (quiet_arrange nodup keys (quiet_putFresh _ ?_ hlaid))
        exact fun name hname => hnamed.keys name (List.mem_of_mem_filter hname)
    | plain atom text => exact .plain atom text
    | list new => exact .list new

/-- Values of a kind that nothing set beside them changes, and that are of this kind again when they
are laid over each other. -/
structure Lasting (Q : Draft → Prop) : Prop where
  change {d : Draft} (h : Q d) (join : Bool → Draft → Draft) (old : Option Draft) :
    change join old d = some d
  leave {d : Draft} (h : Q d) : leave d = some d
  merge {d e : Draft} (hd : Q d) (unique : Bool) (he : Q e) : Q (merge d unique e)

theorem Lasting.keep (lasting : Lasting Q) (h : Q d) : keep d = some d := lasting.change h _ _

theorem lasting_quiet : Lasting Quiet where
  change h join old := change_quiet join old h
  leave := leave_quiet
  merge := quiet_merge

end Preflight.Settings
