import Mathlib.Data.List.Forall2

/-! Rows of checks and of readings, which end at the first that fails. A row comes to an end exactly
if each of its parts does, and what it makes is made part by part. -/
namespace Preflight
variable {ε α β : Type}

theorem exists_of_forall₂ {R : α → β → Prop} {xs : List α} {ys : List β}
    (h : List.Forall₂ R xs ys) {x : α} (hx : x ∈ xs) : ∃ y ∈ ys, R x y := by
  induction h with
  | nil => cases hx
  | @cons a b as bs hab h ih =>
    rcases List.mem_cons.mp hx with rfl | hx
    · exact ⟨b, List.mem_cons_self, hab⟩
    · obtain ⟨y, hy, hxy⟩ := ih hx
      exact ⟨y, List.mem_cons_of_mem b hy, hxy⟩

/-! ## Checks -/

theorem forM_eq_ok_iff {check : α → Except ε Unit} {xs : List α} :
    xs.forM check = .ok () ↔ ∀ x ∈ xs, check x = .ok () := by
  induction xs with
  | nil => simp [List.forM, pure, Except.pure]
  | cons x xs ih =>
    have hcons : (x :: xs).forM check = check x >>= fun _ => xs.forM check := rfl
    rw [hcons, List.forall_mem_cons, ← ih]
    cases check x with
    | ok u => simp [bind, Except.bind]
    | error e => simp [bind, Except.bind]

theorem forM_congr {check check' : α → Except ε Unit} {xs : List α}
    (h : ∀ x ∈ xs, check x = check' x) : xs.forM check = xs.forM check' := by
  induction xs with
  | nil => rfl
  | cons x rest ih =>
    simp only [List.forM, h x List.mem_cons_self, ih fun y hy => h y (List.mem_cons_of_mem x hy)]

/-- What fails a row of checks is the first that is not passed. -/
theorem exists_of_forM_eq_error {check : α → Except ε Unit} {xs : List α} {e : ε}
    (h : xs.forM check = .error e) : ∃ before x after, xs = before ++ x :: after ∧
      (∀ y ∈ before, check y = .ok ()) ∧ check x = .error e := by
  induction xs with
  | nil => cases h
  | cons x xs ih =>
    have hcons : (x :: xs).forM check = check x >>= fun _ => xs.forM check := rfl
    rw [hcons] at h
    cases hx : check x with
    | ok u =>
      rw [hx] at h
      obtain ⟨before, y, after, rfl, hbefore, hy⟩ := ih h
      exact ⟨x :: before, y, after, rfl, List.forall_mem_cons.mpr ⟨hx, hbefore⟩, hy⟩
    | error d =>
      rw [hx] at h
      cases h
      exact ⟨[], x, xs, rfl, by simp, hx⟩

/-! ## Readings -/

theorem exists_of_bind_eq_ok {x : Except ε α} {f : α → Except ε β} {b : β}
    (h : x >>= f = .ok b) : ∃ a, x = .ok a ∧ f a = .ok b := by
  cases x with
  | error e => cases h
  | ok a => exact ⟨a, rfl, h⟩

theorem exists_of_map_eq_ok {x : Except ε α} {f : α → β} {b : β}
    (h : x.map f = .ok b) : ∃ a, x = .ok a ∧ f a = b := by
  cases x with
  | error e => cases h
  | ok a => exact ⟨a, rfl, Except.ok.inj h⟩

section Readings
variable {f : α → Except ε β} {xs ys : List α} {zs : List β}

theorem exists_of_mapM_append (h : (xs ++ ys).mapM f = .ok zs) :
    ∃ front back, xs.mapM f = .ok front ∧ ys.mapM f = .ok back ∧ zs = front ++ back := by
  rw [List.mapM_append] at h
  obtain ⟨front, hfront, h⟩ := exists_of_bind_eq_ok h
  obtain ⟨back, hback, h⟩ := exists_of_bind_eq_ok h
  exact ⟨front, back, hfront, hback, (Except.ok.inj h).symm⟩

theorem exists_of_mapM_cons {x : α} (h : (x :: xs).mapM f = .ok zs) :
    ∃ y more, f x = .ok y ∧ xs.mapM f = .ok more ∧ zs = y :: more := by
  rw [List.mapM_cons] at h
  obtain ⟨y, hy, h⟩ := exists_of_bind_eq_ok h
  obtain ⟨more, hmore, h⟩ := exists_of_bind_eq_ok h
  exact ⟨y, more, hy, hmore, (Except.ok.inj h).symm⟩

theorem mapM_eq_ok_iff : xs.mapM f = .ok zs ↔ List.Forall₂ (fun x z => f x = .ok z) xs zs := by
  constructor
  · intro h
    induction xs generalizing zs with
    | nil =>
      cases h
      exact .nil
    | cons x xs ih =>
      obtain ⟨y, more, hy, hmore, rfl⟩ := exists_of_mapM_cons h
      exact .cons hy (ih hmore)
  · intro h
    induction h with
    | nil => rfl
    | cons hfirst _ ih =>
      rw [List.mapM_cons, hfirst, ih]
      rfl

theorem exists_of_mem_mapM (h : xs.mapM f = .ok zs) {z : β} (hz : z ∈ zs) :
    ∃ x ∈ xs, f x = .ok z := exists_of_forall₂ (mapM_eq_ok_iff.mp h).flip hz

/-- What fails a row of readings is the first that cannot be made. -/
theorem exists_of_mapM_eq_error {e : ε} (h : xs.mapM f = .error e) :
    ∃ before x after, xs = before ++ x :: after ∧ (∀ y ∈ before, ∃ z, f y = .ok z) ∧
      f x = .error e := by
  induction xs with
  | nil => cases h
  | cons x xs ih =>
    rw [List.mapM_cons] at h
    cases hx : f x with
    | error d =>
      rw [hx] at h
      cases h
      exact ⟨[], x, xs, rfl, by simp, hx⟩
    | ok y =>
      rw [hx] at h
      cases hxs : xs.mapM f with
      | error d =>
        rw [hxs] at h
        cases h
        obtain ⟨before, x', after, rfl, hbefore, hx'⟩ := ih hxs
        exact ⟨x :: before, x', after, rfl, List.forall_mem_cons.mpr ⟨⟨y, hx⟩, hbefore⟩, hx'⟩
      | ok more =>
        rw [hxs] at h
        cases h

theorem exists_mapM_iff : (∃ zs, xs.mapM f = .ok zs) ↔ ∀ x ∈ xs, ∃ z, f x = .ok z := by
  constructor
  · rintro ⟨zs, h⟩ x hx
    obtain ⟨z, -, hz⟩ := exists_of_forall₂ (mapM_eq_ok_iff.mp h) hx
    exact ⟨z, hz⟩
  · intro h
    cases hxs : xs.mapM f with
    | ok zs => exact ⟨zs, rfl⟩
    | error e =>
      obtain ⟨before, x, after, rfl, -, hx⟩ := exists_of_mapM_eq_error hxs
      obtain ⟨z, hz⟩ := h x (List.mem_append_right _ List.mem_cons_self)
      cases hx.symm.trans hz

end Readings
end Preflight
