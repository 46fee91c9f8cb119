import Mathlib.Data.List.Induction
import Mathlib.Data.List.Nodup
import Preflight.Entries

/-! Laws of values under keys: what is put back where it was found changes nothing, and a list in
which no key comes twice is as good as a map. -/
namespace Preflight.Entries
variable {α β : Type} {key : String} {value : α} {entries more : List (String × α)}

theorem get?_cons_self (key : String) (value : α) (entries : List (String × α)) :
    get? key ((key, value) :: entries) = some value := if_pos rfl

theorem get?_cons_of_ne {other : String} (h : other ≠ key) (value : α)
    (entries : List (String × α)) : get? key ((other, value) :: entries) = get? key entries :=
  if_neg h

theorem get?_eq_none_iff : get? key entries = none ↔ key ∉ keys entries := by
  induction entries with
  | nil => simp [get?, keys]
  | cons e rest ih =>
    obtain ⟨k, v⟩ := e
    have hkeys : keys ((k, v) :: rest) = k :: keys rest := rfl
    rw [hkeys, List.mem_cons]
    by_cases hk : k = key
    · subst hk
      simp [get?_cons_self]
    · rw [get?_cons_of_ne hk, ih]
      simp [Ne.symm hk]

theorem mem_keys_of_get? (h : get? key entries = some value) : key ∈ keys entries := by
  by_contra hkey
  rw [get?_eq_none_iff.mpr hkey] at h
  cases h

theorem get?_of_mem (nodup : (keys entries).Nodup) (h : (key, value) ∈ entries) :
    get? key entries = some value := by
  induction entries with
  | nil => cases h
  | cons e rest ih =>
    obtain ⟨k, v⟩ := e
    obtain ⟨hk, hrest⟩ := List.nodup_cons.mp nodup
    rcases List.mem_cons.mp h with heq | h
    · cases heq
      exact get?_cons_self key value rest
    · have hne : k ≠ key := fun he => hk (he ▸ List.mem_map_of_mem (f := (·.1)) h)
      rw [get?_cons_of_ne hne]
      exact ih hrest h

theorem get?_append (key : String) (entries more : List (String × α)) :
    get? key (entries ++ more) = (get? key entries).or (get? key more) := by
  induction entries with
  | nil => rfl
  | cons e rest ih =>
    obtain ⟨k, v⟩ := e
    by_cases hk : k = key
    · subst hk
      rw [List.cons_append, get?_cons_self, get?_cons_self, Option.some_or]
    · rw [List.cons_append, get?_cons_of_ne hk, get?_cons_of_ne hk, ih]

theorem put_of_get? (h : get? key entries = some value) : put key value entries = entries := by
  induction entries with
  | nil => cases h
  | cons e rest ih =>
    obtain ⟨k, v⟩ := e
    by_cases hk : k = key
    · subst hk
      rw [get?_cons_self] at h
      cases h
      simp [put]
    · rw [get?_cons_of_ne hk] at h
      simp [put, hk, ih h]

theorem put_of_not_mem (h : key ∉ keys entries) (value : α) :
    put key value entries = entries ++ [(key, value)] := by
  induction entries with
  | nil => rfl
  | cons e rest ih =>
    obtain ⟨k, v⟩ := e
    have hkeys : keys ((k, v) :: rest) = k :: keys rest := rfl
    rw [hkeys, List.mem_cons, not_or] at h
    simp [put, Ne.symm h.1, ih h.2]

theorem put_put (key : String) (first value : α) (entries : List (String × α)) :
    put key value (put key first entries) = put key value entries := by
  induction entries with
  | nil => simp [put]
  | cons e rest ih =>
    obtain ⟨k, v⟩ := e
    by_cases hk : k = key
    · simp [put, hk]
    · simp [put, hk, ih]

theorem map_ite_of_not_mem (h : key ∉ keys entries) (value : α) :
    entries.map (fun e => (e.1, if e.1 = key then value else e.2)) = entries := by
  refine (List.map_congr_left fun e he => ?_).trans entries.map_id
  have hkey : e.1 ∈ keys entries := List.mem_map_of_mem he
  have hne : e.1 ≠ key := fun heq => h (heq ▸ hkey)
  rw [if_neg hne, id]

theorem put_of_mem (nodup : (keys entries).Nodup) (h : key ∈ keys entries) (value : α) :
    put key value entries = entries.map fun e => (e.1, if e.1 = key then value else e.2) := by
  induction entries with
  | nil => cases h
  | cons e rest ih =>
    obtain ⟨k, v⟩ := e
    obtain ⟨hk, hrest⟩ := List.nodup_cons.mp nodup
    by_cases hkey : k = key
    · subst hkey
      simp [put, map_ite_of_not_mem hk]
    · have hmem : key ∈ keys rest := (List.mem_cons.mp h).resolve_left (Ne.symm hkey)
      simp [put, hkey, ih hrest hmem]

theorem mem_put {e : String × α} (h : e ∈ put key value entries) :
    e ∈ entries ∨ e = (key, value) := by
  induction entries with
  | nil => exact .inr (List.mem_singleton.mp h)
  | cons first rest ih =>
    obtain ⟨k, v⟩ := first
    by_cases hk : k = key
    · subst hk
      rw [put, if_pos rfl] at h
      rcases List.mem_cons.mp h with rfl | h
      · exact .inr rfl
      · exact .inl (List.mem_cons_of_mem _ h)
    · rw [put, if_neg hk] at h
      rcases List.mem_cons.mp h with rfl | h
      · exact .inl List.mem_cons_self
      · exact (ih h).imp_left (List.mem_cons_of_mem _)

theorem nodup_keys_put (nodup : (keys entries).Nodup) (key : String) (value : α) :
    (keys (put key value entries)).Nodup := by
  rw [keys_put]
  by_cases h : key ∈ keys entries
  · rwa [if_pos h]
  · rw [if_neg h]
    simpa using nodup.concat h

theorem mem_keys_put {k key : String} {value : α} :
    k ∈ keys (put key value entries) ↔ k = key ∨ k ∈ keys entries := by
  rw [keys_put]
  by_cases h : key ∈ keys entries
  · rw [if_pos h]
    exact ⟨.inr, fun hk => hk.elim (· ▸ h) id⟩
  · rw [if_neg h, List.mem_append, List.mem_singleton, or_comm]

theorem subset_keys_put (key : String) (value : α) (entries : List (String × α)) :
    keys entries ⊆ keys (put key value entries) := fun _ hk => mem_keys_put.mpr (.inr hk)

theorem mem_keys_put_self (key : String) (value : α) (entries : List (String × α)) :
    key ∈ keys (put key value entries) := mem_keys_put.mpr (.inl rfl)

theorem without_of_not_mem {gone : List String} (h : ∀ k ∈ gone, k ∉ keys entries) :
    without gone entries = entries := by
  refine List.filter_eq_self.mpr fun e he => ?_
  have hkey : e.1 ∉ gone := fun hmem => h e.1 hmem (List.mem_map_of_mem he)
  simp [hkey]

/-- Of entries under one key the last one counts. -/
theorem get?_ofList (key : String) (pairs : List (String × α)) :
    get? key (ofList pairs) = get? key pairs.reverse := by
  induction pairs using List.reverseRecOn with
  | nil => rfl
  | append_singleton pairs p ih =>
    obtain ⟨k, v⟩ := p
    have hput : ofList (pairs ++ [(k, v)]) = put k v (ofList pairs) := by simp [ofList]
    rw [hput, List.reverse_append, List.reverse_singleton, List.singleton_append]
    by_cases hk : k = key
    · subst hk
      rw [get?_put_self, get?_cons_self]
    · rw [get?_put_of_ne (Ne.symm hk), get?_cons_of_ne hk, ih]

theorem keys_map (f : α → β) (entries : List (String × α)) :
    keys (entries.map fun e => (e.1, f e.2)) = keys entries := by simp [keys]

theorem keys_map_entries (f : String × α → β) (entries : List (String × α)) :
    keys (entries.map fun e => (e.1, f e)) = keys entries := by simp [keys, Function.comp_def]

theorem get?_map (f : α → β) (key : String) (entries : List (String × α)) :
    get? key (entries.map fun e => (e.1, f e.2)) = (get? key entries).map f := by
  induction entries with
  | nil => rfl
  | cons e rest ih =>
    obtain ⟨k, v⟩ := e
    by_cases hk : k = key
    · subst hk
      rw [List.map_cons, get?_cons_self, get?_cons_self, Option.map_some]
    · rw [List.map_cons, get?_cons_of_ne hk, get?_cons_of_ne hk, ih]

theorem put_map (f : α → β) (key : String) (value : α) (entries : List (String × α)) :
    put key (f value) (entries.map fun e => (e.1, f e.2)) =
      (put key value entries).map fun e => (e.1, f e.2) := by
  induction entries with
  | nil => rfl
  | cons e rest ih =>
    obtain ⟨k, v⟩ := e
    by_cases hk : k = key
    · simp [put, hk]
    · simp [put, hk, ih]

theorem ofList_map (f : α → β) (pairs : List (String × α)) :
    ofList (pairs.map fun e => (e.1, f e.2)) = (ofList pairs).map fun e => (e.1, f e.2) := by
  induction pairs using List.reverseRecOn with
  | nil => rfl
  | append_singleton pairs p ih =>
    obtain ⟨k, v⟩ := p
    have hput : ofList (pairs ++ [(k, v)]) = put k v (ofList pairs) := by simp [ofList]
    have hmapped : ofList ((pairs ++ [(k, v)]).map fun e => (e.1, f e.2)) =
        put k (f v) (ofList (pairs.map fun e => (e.1, f e.2))) := by simp [ofList]
    rw [hmapped, ih, hput, put_map]

theorem mem_ofList {e : String × α} {pairs : List (String × α)} (h : e ∈ ofList pairs) :
    e ∈ pairs := by
  refine List.foldlRecOn (motive := fun entries => ∀ e ∈ entries, e ∈ pairs) pairs _
    (fun _ he => (List.not_mem_nil he).elim) (fun entries ih p hp e he => ?_) e h
  rcases mem_put he with he | rfl
  · exact ih e he
  · exact hp

theorem nodup_keys_ofList (pairs : List (String × α)) : (keys (ofList pairs)).Nodup :=
  List.foldlRecOn (motive := fun entries => (keys entries).Nodup) pairs _ List.nodup_nil
    fun _ ih p _ => nodup_keys_put ih p.1 p.2

/-! ## Under other keys -/

theorem get?_reverse_cons (key : String) (e : String × α) (entries : List (String × α)) :
    get? key (e :: entries).reverse = (get? key entries.reverse).or (get? key [e]) := by
  rw [List.reverse_cons, get?_append]

/-- A key that no other one is renamed to is found under its new name. -/
theorem get?_renamed (f : String → String) (nodup : (keys entries).Nodup)
    (hkey : ∀ k ∈ keys entries, f k = f key → k = key) :
    get? (f key) (ofList (entries.map fun e => (f e.1, e.2))) = get? key entries := by
  rw [get?_ofList]
  induction entries with
  | nil => rfl
  | cons e rest ih =>
    obtain ⟨k, v⟩ := e
    obtain ⟨hk, hrest⟩ := List.nodup_cons.mp nodup
    have hlater := ih hrest fun k' hk' => hkey k' (List.mem_cons_of_mem k hk')
    rw [List.map_cons, get?_reverse_cons, hlater]
    by_cases heq : k = key
    · subst heq
      rw [get?_cons_self, get?_cons_self, get?_eq_none_iff.mpr hk, Option.none_or]
    · have hne : f k ≠ f key := fun h => heq (hkey k List.mem_cons_self h)
      rw [get?_cons_of_ne heq, get?_cons_of_ne hne, get?, Option.or_none]

theorem get?_renamed_put (f : String → String) {other : String} (hne : f key ≠ other) (value : α)
    (entries : List (String × α)) :
    get? other (ofList ((put key value entries).map fun e => (f e.1, e.2))) =
      get? other (ofList (entries.map fun e => (f e.1, e.2))) := by
  rw [get?_ofList, get?_ofList]
  induction entries with
  | nil => exact get?_cons_of_ne hne value []
  | cons e rest ih =>
    obtain ⟨k, v⟩ := e
    by_cases heq : k = key
    · subst heq
      rw [put, if_pos rfl, List.map_cons, List.map_cons, get?_reverse_cons, get?_reverse_cons,
        get?_cons_of_ne hne, get?_cons_of_ne hne]
    · rw [put, if_neg heq, List.map_cons, List.map_cons, get?_reverse_cons, get?_reverse_cons, ih]

/-! ## In another order -/

theorem keys_perm (perm : entries.Perm more) : (keys entries).Perm (keys more) :=
  perm.map Prod.fst

theorem get?_perm (perm : entries.Perm more) (nodup : (keys entries).Nodup) (key : String) :
    get? key more = get? key entries := by
  cases h : get? key entries with
  | some value =>
    exact get?_of_mem ((keys_perm perm).nodup_iff.mp nodup) (perm.mem_iff.mp (mem_of_get? h))
  | none =>
    refine get?_eq_none_iff.mpr fun hkey => get?_eq_none_iff.mp h ?_
    exact (keys_perm perm).mem_iff.mpr hkey

/-- An entry may be moved to the end. -/
theorem perm_without_append (nodup : (keys entries).Nodup) (h : get? key entries = some value) :
    (without [key] entries ++ [(key, value)]).Perm entries := by
  induction entries with
  | nil => cases h
  | cons e rest ih =>
    obtain ⟨k, v⟩ := e
    obtain ⟨hk, hrest⟩ := List.nodup_cons.mp nodup
    by_cases hkey : k = key
    · subst hkey
      rw [get?_cons_self] at h
      have hv : v = value := Option.some.inj h
      subst hv
      have hwithout : without [k] ((k, v) :: rest) = rest := by
        have hstay : without [k] rest = rest :=
          without_of_not_mem fun name hname => by rwa [List.mem_singleton.mp hname]
        simpa [without] using hstay
      rw [hwithout]
      exact List.perm_append_singleton _ _
    · rw [get?_cons_of_ne hkey] at h
      have hwithout : without [key] ((k, v) :: rest) = (k, v) :: without [key] rest := by
        simp [without, hkey]
      rw [hwithout]
      exact (ih hrest h).cons _

/-- Lists with the same keys, none twice, and the same values under them are the same list. -/
theorem eq_of_get? (hkeys : keys entries = keys more) (nodup : (keys entries).Nodup)
    (hget : ∀ key ∈ keys entries, get? key entries = get? key more) : entries = more := by
  induction entries generalizing more with
  | nil => exact (List.map_eq_nil_iff.mp hkeys.symm).symm
  | cons e rest ih =>
    obtain ⟨k, v⟩ := e
    cases more with
    | nil => cases hkeys
    | cons f others =>
      obtain ⟨l, w⟩ := f
      obtain ⟨rfl, hrest⟩ : k = l ∧ keys rest = keys others := List.cons.inj hkeys
      obtain ⟨hk, nodupRest⟩ := List.nodup_cons.mp nodup
      have hvalue := hget k List.mem_cons_self
      rw [get?_cons_self, get?_cons_self] at hvalue
      obtain rfl : v = w := Option.some.inj hvalue
      refine congrArg (List.cons (k, v)) (ih hrest nodupRest fun key hkey => ?_)
      have hne : k ≠ key := fun heq => hk (heq ▸ hkey)
      have hlater := hget key (List.mem_cons_of_mem k hkey)
      rwa [get?_cons_of_ne hne, get?_cons_of_ne hne] at hlater

/-! ## Outside a set of keys -/

section Outside
variable {p : String → Bool}

/-- The entries whose keys are not in the set. -/
def outside (p : String → Bool) (entries : List (String × α)) : List (String × α) :=
  entries.filter fun e => !p e.1

theorem outside_nothing (entries : List (String × α)) :
    outside (fun _ => false) entries = entries :=
  List.filter_eq_self.mpr fun _ _ => rfl

theorem mem_outside {e : String × α} : e ∈ outside p entries ↔ e ∈ entries ∧ p e.1 = false := by
  simp [outside]

theorem keys_outside (p : String → Bool) (entries : List (String × α)) :
    keys (outside p entries) = (keys entries).filter (!p ·) := by
  rw [outside, keys, keys, List.filter_map]
  rfl

theorem mem_keys_outside : key ∈ keys (outside p entries) ↔ key ∈ keys entries ∧ p key = false := by
  simp [keys_outside]

theorem outside_append (p : String → Bool) (entries more : List (String × α)) :
    outside p (entries ++ more) = outside p entries ++ outside p more := List.filter_append ..

theorem outside_cons_of_mem (h : p key = true) (value : α) (entries : List (String × α)) :
    outside p ((key, value) :: entries) = outside p entries := by simp [outside, h]

theorem outside_cons_of_not_mem (h : p key = false) (value : α) (entries : List (String × α)) :
    outside p ((key, value) :: entries) = (key, value) :: outside p entries := by
  simp [outside, h]

theorem get?_outside (h : p key = false) (entries : List (String × α)) :
    get? key (outside p entries) = get? key entries := by
  induction entries with
  | nil => rfl
  | cons e rest ih =>
    obtain ⟨k, v⟩ := e
    by_cases hk : k = key
    · subst hk
      rw [outside_cons_of_not_mem h, get?_cons_self, get?_cons_self]
    · cases hp : p k with
      | true => rw [outside_cons_of_mem hp, get?_cons_of_ne hk, ih]
      | false => rw [outside_cons_of_not_mem hp, get?_cons_of_ne hk, get?_cons_of_ne hk, ih]

theorem outside_put_of_mem (h : p key = true) (value : α) (entries : List (String × α)) :
    outside p (put key value entries) = outside p entries := by
  induction entries with
  | nil => exact outside_cons_of_mem h value []
  | cons e rest ih =>
    obtain ⟨k, v⟩ := e
    by_cases hk : k = key
    · subst hk
      rw [put, if_pos rfl, outside_cons_of_mem h, outside_cons_of_mem h]
    · rw [put, if_neg hk]
      cases hp : p k with
      | true => rw [outside_cons_of_mem hp, outside_cons_of_mem hp, ih]
      | false => rw [outside_cons_of_not_mem hp, outside_cons_of_not_mem hp, ih]

theorem outside_put_of_not_mem (h : p key = false) (value : α) (entries : List (String × α)) :
    outside p (put key value entries) = put key value (outside p entries) := by
  induction entries with
  | nil => exact outside_cons_of_not_mem h value []
  | cons e rest ih =>
    obtain ⟨k, v⟩ := e
    by_cases hk : k = key
    · subst hk
      rw [put, if_pos rfl, outside_cons_of_not_mem h, outside_cons_of_not_mem h, put, if_pos rfl]
    · rw [put, if_neg hk]
      cases hp : p k with
      | true => rw [outside_cons_of_mem hp, outside_cons_of_mem hp, ih]
      | false =>
        rw [outside_cons_of_not_mem hp, outside_cons_of_not_mem hp, ih, put, if_neg hk]

theorem outside_without (p : String → Bool) (gone : List String) (entries : List (String × α)) :
    outside p (without gone entries) = without gone (outside p entries) := by
  simp only [outside, without, List.filter_filter, Bool.and_comm]

theorem outside_without_of_mem {gone : List String} (h : ∀ k ∈ gone, p k = true)
    (entries : List (String × α)) : outside p (without gone entries) = outside p entries := by
  rw [outside_without]
  refine without_of_not_mem fun k hk hmem => ?_
  exact Bool.false_ne_true ((mem_keys_outside.mp hmem).2.symm.trans (h k hk))

/-- What happens to the other entries does not matter. -/
theorem outside_filterMap {f : String × α → Option β} {g : String × α → β}
    (h : ∀ e ∈ entries, p e.1 = false → f e = some (g e)) :
    outside p (entries.filterMap fun e => (f e).map (e.1, ·)) =
      (outside p entries).map fun e => (e.1, g e) := by
  induction entries with
  | nil => rfl
  | cons e rest ih =>
    obtain ⟨k, v⟩ := e
    obtain ⟨hfirst, hrest⟩ := List.forall_mem_cons.mp h
    rw [List.filterMap_cons]
    cases hp : p k with
    | true =>
      rw [outside_cons_of_mem hp]
      cases hf : f (k, v) with
      | none => exact ih hrest
      | some w => exact (outside_cons_of_mem hp w _).trans (ih hrest)
    | false =>
      rw [hfirst hp, outside_cons_of_not_mem hp, List.map_cons, ← ih hrest]
      exact outside_cons_of_not_mem hp _ _

end Outside
end Preflight.Entries
