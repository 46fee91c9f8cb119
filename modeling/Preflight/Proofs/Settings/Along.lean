import Preflight.Proofs.Settings.Aside
import Preflight.Settings.Store

/-! A value set at the end of a path through records, when some fields of the first record are set
aside. A path that begins at one of these leaves all other fields as they are; any other path
changes one field, and how depends on the fields that are not set aside alone. -/
namespace Preflight.Settings
open Draft
open Entries (outside)
open Text (sameIgnoringCase)

variable {Q : Draft → Prop} {p : String → Bool} {fields old : List (String × Draft)}
  {name key : String} {d : Draft}
  {path rest : List String}

theorem ne_joinMark (h : key ∉ joinWords) : key ≠ joinMark := by
  rintro rfl
  exact h (by simp [joinWords])

/-! ## One field -/

/-- What a new field comes to over an old record. -/
def made (key : String) (d : Draft) (old : List (String × Draft)) : Option Draft :=
  change (fun unique d => ((Entries.get? key old).map (merge · unique d)).getD d)
    (Entries.get? key old) d

theorem layField_left (h : key ≠ joinMark) (d : Draft) (old : List (String × Draft)) :
    (layField key d old).1 = old.filterMap fun f =>
      (if f.1 = key then (made key d old).map fun _ => f.2 else leave f.2).map (f.1, ·) := by
  rw [layField, if_neg h]
  rfl

theorem layField_laid (h : key ≠ joinMark) (d : Draft) (old : List (String × Draft)) :
    (layField key d old).2 =
      (old.filterMap fun f => (if f.1 = key then made key d old else keep f.2).map (f.1, ·)) ++
        if key ∈ Entries.keys old then [] else ((made key d old).map (key, ·)).toList := by
  have hsome : (Entries.get? key old).isSome = true ↔ key ∈ Entries.keys old := by
    rw [← Option.ne_none_iff_isSome, ne_eq, Entries.get?_eq_none_iff, not_not]
  rw [layField, if_neg h]
  simp only [hsome, made]
  split <;> simp

theorem layField_unmarked (keys : ∀ k ∈ Entries.keys old, k ∉ joinWords) (hkey : key ∉ joinWords)
    (d : Draft) :
    (∀ k ∈ Entries.keys (layField key d old).1, k ∉ joinWords) ∧
      ∀ k ∈ Entries.keys (layField key d old).2, k ∉ joinWords := by
  have hkeys : ∀ f : String × Draft → Option Draft,
      ∀ k ∈ Entries.keys (old.filterMap fun e => (f e).map (e.1, ·)), k ∉ joinWords := by
    intro f k hk
    obtain ⟨e, he, rfl⟩ := List.mem_map.mp hk
    obtain ⟨g, hg, hvalue⟩ := List.mem_filterMap.mp he
    obtain ⟨x, -, rfl⟩ := Option.map_eq_some_iff.mp hvalue
    exact keys g.1 (List.mem_map_of_mem hg)
  rw [layField_left (ne_joinMark hkey), layField_laid (ne_joinMark hkey)]
  refine ⟨hkeys _, fun k hk => ?_⟩
  rw [Entries.keys, List.map_append] at hk
  rcases List.mem_append.mp hk with hk | hk
  · exact hkeys _ k hk
  · split at hk
    · cases hk
    · obtain ⟨e, he, rfl⟩ := List.mem_map.mp hk
      obtain ⟨x, -, rfl⟩ := Option.map_eq_some_iff.mp (Option.mem_toList.mp he)
      exact hkey

section Field
variable (lasting : Lasting Q) (tidy : Tidy Q p old) (hkey : key ∉ joinWords)
include lasting tidy hkey

theorem outside_layField_of_mem (hp : p key = true) (d : Draft) :
    outside p (layField key d old).1 = outside p old ∧
      outside p (layField key d old).2 = outside p old := by
  have hne : ∀ e : String × Draft, p e.1 = false → e.1 ≠ key :=
    fun e he heq => Bool.false_ne_true (he.symm.trans (heq ▸ hp))
  have hvalue : ∀ e ∈ old, p e.1 = false → Q e.2 :=
    fun e he hout => tidy.apart.all e (Entries.mem_outside.mpr ⟨he, hout⟩)
  rw [layField_left (ne_joinMark hkey), layField_laid (ne_joinMark hkey), Entries.outside_append]
  constructor
  · refine (Entries.outside_filterMap fun e he hout => ?_).trans (List.map_id _)
    rw [if_neg (hne e hout), lasting.leave (hvalue e he hout)]
  · have hlaid := Entries.outside_filterMap (p := p) (g := fun e => e.2)
      (f := fun e => if e.1 = key then made key d old else keep e.2) fun e (he : e ∈ old) hout => by
        rw [if_neg (hne e hout), lasting.keep (hvalue e he hout)]
    have hnew : outside p (if key ∈ Entries.keys old then []
        else ((made key d old).map (key, ·)).toList) = [] := by
      split
      · rfl
      · cases made key d old with
        | none => rfl
        | some x => exact Entries.outside_cons_of_mem hp x []
    rw [hlaid, hnew, List.append_nil]
    exact List.map_id _

theorem outside_layField (hp : p key = false) (hd : Q d) :
    outside p (layField key d old).1 = outside p old ∧
      outside p (layField key d old).2 = Entries.put key d (outside p old) := by
  have hmade : made key d old = some d := lasting.change hd _ _
  have hvalue : ∀ e ∈ old, p e.1 = false → Q e.2 :=
    fun e he hout => tidy.apart.all e (Entries.mem_outside.mpr ⟨he, hout⟩)
  rw [layField_left (ne_joinMark hkey), layField_laid (ne_joinMark hkey), hmade,
    Entries.outside_append]
  constructor
  · refine (Entries.outside_filterMap fun e he hout => ?_).trans (List.map_id _)
    split
    · rfl
    · exact lasting.leave (hvalue e he hout)
  · have hlaid := Entries.outside_filterMap (p := p)
      (g := fun e => if e.1 = key then d else e.2)
      (f := fun e => if e.1 = key then some d else keep e.2) fun e (he : e ∈ old) hout => by
        split
        · rfl
        · exact lasting.keep (hvalue e he hout)
    have hmem : key ∈ Entries.keys (outside p old) ↔ key ∈ Entries.keys old :=
      Entries.mem_keys_outside.trans (and_iff_left hp)
    rw [hlaid]
    by_cases hthere : key ∈ Entries.keys old
    · rw [if_pos hthere, Entries.put_of_mem tidy.apart.nodup (hmem.mpr hthere)]
      exact List.append_nil _
    · have hnew := mt hmem.mp hthere
      rw [if_neg hthere, Entries.map_ite_of_not_mem hnew, Entries.put_of_not_mem hnew]
      exact congrArg _ (Entries.outside_cons_of_not_mem hp d [])

end Field

theorem layField_quiet (hold : QuietFields old) (hkey : key ∉ joinWords) (hd : Quiet d) :
    layField key d old = (old, Entries.put key d old) := by
  have hfield := outside_layField lasting_quiet (hold.tidy fun _ => false) hkey rfl hd
  simp only [Entries.outside_nothing] at hfield
  exact Prod.ext hfield.1 hfield.2

/-! ## A path -/

theorem quiet_nest (hpath : ∀ name ∈ path, name ∉ joinWords) (hd : Quiet d) :
    Quiet (nest path d) := by
  induction path with
  | nil => exact hd
  | cons name rest ih =>
    obtain ⟨hname, hrest⟩ := List.forall_mem_cons.mp hpath
    exact quiet_record_iff.mpr (FieldsOf.nil.put hname (ih hrest))

theorem layAlong_quiet (hpath : ∀ name ∈ path, name ∉ joinWords) (hd : Quiet d)
    (hold : QuietFields old) :
    (layAlong path d old).1 = old ∧ QuietFields (layAlong path d old).2 := by
  induction path generalizing old with
  | nil => exact ⟨rfl, hold⟩
  | cons name rest ih =>
    obtain ⟨hname, hrest⟩ := List.forall_mem_cons.mp hpath
    have hkey := matchKey_unmarked hname hold.keys
    have hfield : ∀ {x : Draft}, Quiet x → (layField (matchKey name old) x old).1 = old ∧
        QuietFields (layField (matchKey name old) x old).2 := fun hx => by
      rw [layField_quiet hold hkey hx]
      exact ⟨rfl, hold.put hkey hx⟩
    cases rest with
    | nil =>
      rw [layAlong]
      refine hfield ?_
      split
      · exact hd
      · cases hget : Entries.get? (matchKey name old) old with
        | none => exact hd
        | some x => exact quiet_merge (hold.get hget) false hd
    | cons next more =>
      rw [layAlong]
      · split
        next inner hget =>
          obtain ⟨hleft, hlaid⟩ := ih hrest (quiet_record_iff.mp (hold.get hget))
          have hpair : layAlong (next :: more) d inner =
              (inner, (layAlong (next :: more) d inner).2) := Prod.ext hleft rfl
          rw [hpair]
          simp only [Entries.put_of_get? hget]
          exact hfield (quiet_record_iff.mpr hlaid)
        next => exact hfield (quiet_nest hrest hd)
      · simp

/-- The value that a path, which goes on with `rest`, makes of the field that its first name
means. -/
def valueAlong (name : String) (rest : List String) (d : Draft) (old : List (String × Draft)) :
    Draft :=
  match rest with
  | [] =>
    if sameIgnoringCase (matchKey name old) name then d
    else ((Entries.get? (matchKey name old) old).map (merge · false d)).getD d
  | next :: more =>
    match Entries.get? (matchKey name old) old with
    | some (.record inner) => .record (layAlong (next :: more) d inner).2
    | _ => nest (next :: more) d

theorem quiet_valueAlong (name : String) (hrest : ∀ name ∈ rest, name ∉ joinWords) (hd : Quiet d)
    (hold : QuietFields old) : Quiet (valueAlong name rest d old) := by
  cases rest with
  | nil =>
    rw [valueAlong]
    split
    · exact hd
    · cases hget : Entries.get? (matchKey name old) old with
      | none => exact hd
      | some x => exact quiet_merge (hold.get hget) false hd
  | cons next more =>
    rw [valueAlong]
    split
    next inner hget =>
      exact quiet_record_iff.mpr
        (layAlong_quiet hrest hd (quiet_record_iff.mp (hold.get hget))).2
    next => exact quiet_nest hrest hd

/-- A path into the fields that are not set aside does to them what it does to them alone. -/
theorem outside_layAlong (closed : Closed p) (tidy : Tidy Quiet p old) (hname : name ∉ joinWords)
    (hp : p name = false) (hrest : ∀ name ∈ rest, name ∉ joinWords) (hd : Quiet d) :
    outside p (layAlong (name :: rest) d old).1 = outside p old ∧
      outside p (layAlong (name :: rest) d old).2 = Entries.put (matchKey name (outside p old))
        (valueAlong name rest d (outside p old)) (outside p old) := by
  have hkey := matchKey_unmarked hname tidy.keys
  have hout : p (matchKey name old) = false := (closed.of_matchKey name old).trans hp
  have hquiet := quiet_valueAlong name hrest hd tidy.apart
  have hfield := outside_layField lasting_quiet tidy hkey hout hquiet
  rw [closed.matchKey_outside hp]
  have hlay : layAlong (name :: rest) d old =
      layField (matchKey name old) (valueAlong name rest d (outside p old)) old := by
    cases rest with
    | nil =>
      rw [layAlong, valueAlong, closed.matchKey_outside hp, Entries.get?_outside hout]
    | cons next more =>
      rw [valueAlong, closed.matchKey_outside hp, Entries.get?_outside hout, layAlong]
      · cases hget : Entries.get? (matchKey name old) old with
        | none => rfl
        | some x =>
          cases x with
          | record inner =>
            have hinner : Quiet (.record inner) :=
              tidy.apart.get ((Entries.get?_outside hout old).trans hget)
            have hleft := (layAlong_quiet hrest hd (quiet_record_iff.mp hinner)).1
            simp only [hleft, Entries.put_of_get? hget]
          | _ => rfl
      · simp
  rw [hlay]
  exact hfield

theorem Tidy.put_of_mem (tidy : Tidy Q p old) (hp : p key = true) (hkey : key ∉ joinWords)
    (d : Draft) : Tidy Q p (Entries.put key d old) where
  apart := (Entries.outside_put_of_mem hp d old).symm ▸ tidy.apart
  keys := put_unmarked tidy.keys hkey d

/-- What a path comes to is what one field comes to. -/
theorem layAlong_eq_layField (name : String) (rest : List String) (d : Draft)
    (old : List (String × Draft)) : ∃ x more, layAlong (name :: rest) d old =
      layField (matchKey name old) x more ∧
      (more = old ∨ ∃ y, more = Entries.put (matchKey name old) y old) := by
  cases rest with
  | nil => exact ⟨_, old, by rw [layAlong], .inl rfl⟩
  | cons next rest =>
    rw [layAlong]
    · split
      · exact ⟨_, _, rfl, .inr ⟨_, rfl⟩⟩
      · exact ⟨_, old, rfl, .inl rfl⟩
    · simp

theorem layAlong_unmarked (keys : ∀ k ∈ Entries.keys old, k ∉ joinWords) (hname : name ∉ joinWords)
    (rest : List String) (d : Draft) :
    (∀ k ∈ Entries.keys (layAlong (name :: rest) d old).1, k ∉ joinWords) ∧
      ∀ k ∈ Entries.keys (layAlong (name :: rest) d old).2, k ∉ joinWords := by
  have hkey := matchKey_unmarked hname keys
  obtain ⟨x, more, hlay, rfl | ⟨y, rfl⟩⟩ := layAlong_eq_layField name rest d old
  · rw [hlay]
    exact layField_unmarked keys hkey x
  · rw [hlay]
    exact layField_unmarked (put_unmarked keys hkey y) hkey x

/-- A path into a field that is set aside leaves the others as they are, whatever is laid there. -/
theorem outside_layAlong_of_mem (lasting : Lasting Q) (closed : Closed p) (tidy : Tidy Q p old)
    (hname : name ∉ joinWords) (hp : p name = true) (rest : List String) (d : Draft) :
    outside p (layAlong (name :: rest) d old).1 = outside p old ∧
      outside p (layAlong (name :: rest) d old).2 = outside p old := by
  have hkey := matchKey_unmarked hname tidy.keys
  have hin : p (matchKey name old) = true := (closed.of_matchKey name old).trans hp
  obtain ⟨x, more, hlay, rfl | ⟨y, rfl⟩⟩ := layAlong_eq_layField name rest d old
  · rw [hlay]
    exact outside_layField_of_mem lasting tidy hkey hin x
  · have hfield := outside_layField_of_mem lasting (tidy.put_of_mem hin hkey y) hkey hin x
    rw [Entries.outside_put_of_mem hin] at hfield
    rw [hlay]
    exact hfield

end Preflight.Settings
