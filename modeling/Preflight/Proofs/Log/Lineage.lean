import Preflight.Log.Routing

/-! Which loggers stand under which. The lineage of a logger is found by cutting its name at the
dots. It holds no name but those that the logger's name begins with, before a dot, and it misses
none of them unless a second dot follows that one. -/
namespace Preflight

namespace Text

/-- A separator of one character cuts as a list is cut at an element. -/
theorem splitFrom_singleton (x : Char) (cs : List Char) :
    (splitFrom [x] 0 cs).1 :: (splitFrom [x] 0 cs).2 = cs.splitOn x := by
  induction cs with
  | nil => rfl
  | cons c cs ih =>
    rw [List.splitOn_cons_eq_if_modifyHead, ← ih]
    by_cases hc : c = x
    · simp [splitFrom, List.isPrefixOf, hc]
    · simp [splitFrom, List.isPrefixOf, hc, Ne.symm hc]

theorem split_dot (s : String) : split "." s = (s.toList.splitOn '.').map .ofList := by
  rw [← splitFrom_singleton]
  rfl

theorem split_dot_ne_nil (s : String) : split "." s ≠ [] := by
  simp [split_dot, List.splitOn_ne_nil]

theorem splitFrom_drop (separator : List Char) (n : Nat) (cs : List Char) :
    splitFrom separator n cs = splitFrom separator 0 (cs.drop n) := by
  induction cs generalizing n with
  | nil => cases n <;> rfl
  | cons c cs ih =>
    cases n with
    | zero => rfl
    | succ n => exact ih n

theorem intercalate_splitFrom {separator : List Char} (hseparator : separator ≠ [])
    (cs : List Char) : separator.intercalate
      ((splitFrom separator 0 cs).1 :: (splitFrom separator 0 cs).2) = cs := by
  induction hn : cs.length using Nat.strongRecOn generalizing cs with
  | ind n ih =>
    cases cs with
    | nil => simp [splitFrom]
    | cons c cs =>
      have hlength : cs.length < n := by simp [← hn]
      rw [splitFrom]
      split
      next hbegins =>
        have hrest := ih _ (Nat.lt_of_le_of_lt (List.drop_sublist _ _).length_le hlength)
          (cs.drop (separator.length - 1)) rfl
        obtain ⟨more, hmore⟩ := List.isPrefixOf_iff_prefix.mp hbegins
        obtain ⟨d, ds, rfl⟩ := List.exists_cons_of_ne_nil hseparator
        obtain ⟨rfl, rfl⟩ : d = c ∧ ds ++ more = cs := by simpa using hmore
        rw [← splitFrom_drop] at hrest
        rw [List.intercalate_cons_cons, hrest]
        simp
      next =>
        have hrest := ih _ hlength cs rfl
        cases hparts : (splitFrom separator 0 cs).2 with
        | nil =>
          rw [hparts] at hrest
          simpa using hrest
        | cons part parts =>
          rw [hparts, List.intercalate_cons_cons] at hrest
          rw [List.intercalate_cons_cons, List.cons_append, List.cons_append, hrest]

/-- The parts make up the text again. -/
theorem intercalate_split {separator : String} (hseparator : separator ≠ "") (s : String) :
    separator.intercalate (split separator s) = s := by
  have hparts : (split separator s).map String.toList =
      (splitFrom separator.toList 0 s.toList).1 :: (splitFrom separator.toList 0 s.toList).2 := by
    rw [split, List.map_map]
    simp [Function.comp_def]
  rw [← String.toList_inj, String.toList_intercalate, hparts]
  exact intercalate_splitFrom (by simpa using hseparator) s.toList

theorem split_dot_append {name : String} (h : '.' ∉ name.toList) (rest : String) :
    split "." (name ++ "." ++ rest) = name :: split "." rest := by
  have hchars : (name ++ "." ++ rest).toList = name.toList ++ '.' :: rest.toList := by simp
  rw [split_dot, hchars, List.splitOn_append_cons_self_of_not_mem h, split_dot]
  simp

/-- Only an empty text can have an empty first part without beginning with the separator. -/
theorem split_dot_of_head_empty {s : String} (hs : s.toList.head? ≠ some '.')
    (h : (split "." s).head? = some "") : split "." s = [""] := by
  rw [split_dot] at h ⊢
  cases hchars : s.toList with
  | nil => simp
  | cons c cs =>
    have hc : c ≠ '.' := by simpa [hchars] using hs
    rw [hchars, List.splitOn_cons_eq_if_modifyHead] at h
    cases hcs : cs.splitOn '.' with
    | nil => exact absurd hcs (List.splitOn_ne_nil '.' cs)
    | cons part parts => simp [hc, hcs, ← String.toList_inj] at h

end Text

namespace Log
open Text (split)
variable {name logger : String}

/-- An ancestor is made of the parts that stand from some place on. -/
theorem exists_suffix_of_mem_ancestors {parts : List String} (h : name ∈ ancestors parts) :
    ∃ kept, kept <:+ parts ∧ kept ≠ [] ∧ name = ".".intercalate kept.reverse := by
  fun_induction ancestors parts with
  | case1 => cases h
  | case2 part =>
    exact ⟨[part], List.suffix_rfl, by simp, by simpa using h⟩
  | case3 part next rest ih ih' =>
    rcases List.mem_cons.mp h with h | h
    · exact ⟨_, List.suffix_rfl, by simp, h⟩
    · split at h
      · obtain ⟨kept, hkept, hne, hname⟩ := ih h
        exact ⟨kept, (hkept.trans (List.suffix_cons _ _)).trans (List.suffix_cons _ _), hne, hname⟩
      · obtain ⟨kept, hkept, hne, hname⟩ := ih' h
        exact ⟨kept, hkept.trans (List.suffix_cons _ _), hne, hname⟩

/-- The shortest name is an ancestor, unless an empty part hides it. -/
theorem mem_ancestors_concat {parts : List String} (h : parts.getLast? ≠ some "") :
    name ∈ ancestors (parts ++ [name]) := by
  fun_induction ancestors parts with
  | case1 => simp [ancestors]
  | case2 part =>
    have hpart : part ≠ "" := by simpa using h
    simp [ancestors, String.isEmpty_iff, hpart]
  | case3 part next rest ih ih' =>
    have hunfold : ancestors (part :: next :: rest ++ [name]) =
        ".".intercalate (part :: next :: (rest ++ [name])).reverse ::
          (if part.isEmpty then ancestors (rest ++ [name])
            else ancestors (next :: rest ++ [name])) := rfl
    rw [hunfold]
    refine List.mem_cons_of_mem _ ?_
    split
    · refine ih ?_
      cases rest with
      | nil => simp
      | cons part' rest' => simpa using h
    · exact ih' (by simpa using h)

/-- The logger's name begins with the other name and a dot. -/
def Beneath (name logger : String) : Prop := ∃ rest, logger = name ++ "." ++ rest

/-- Of a logger beneath another one, no second dot follows the first. -/
def CloseBeneath (name logger : String) : Prop :=
  ∃ rest : String, logger = name ++ "." ++ rest ∧ rest.toList.head? ≠ some '.'

theorem eq_or_beneath_of_mem_lineage (h : name ∈ lineage logger) :
    logger = name ∨ Beneath name logger := by
  rcases List.mem_cons.mp h with h | h
  · exact .inl h.symm
  · obtain ⟨kept, ⟨gone, hgone⟩, hne, hname⟩ := exists_suffix_of_mem_ancestors h
    refine .inr ?_
    cases hparts : (split "." logger).reverse with
    | nil => exact absurd (List.reverse_eq_nil_iff.mp hparts) (Text.split_dot_ne_nil logger)
    | cons last rest =>
      rw [hparts, List.tail_cons] at hgone
      have hsplit : split "." logger = kept.reverse ++ (gone.reverse ++ [last]) := by
        rw [← List.reverse_reverse (split "." logger), hparts, ← hgone]
        simp
      refine ⟨".".intercalate (gone.reverse ++ [last]), ?_⟩
      calc logger = ".".intercalate (split "." logger) :=
            (Text.intercalate_split (by decide) logger).symm
        _ = ".".intercalate kept.reverse ++ "." ++ ".".intercalate (gone.reverse ++ [last]) := by
          rw [hsplit, String.intercalate_append_of_ne_nil (by simpa using hne) (by simp)]
        _ = name ++ "." ++ ".".intercalate (gone.reverse ++ [last]) := by rw [hname]

theorem mem_lineage_of_closeBeneath (hname : '.' ∉ name.toList) (h : CloseBeneath name logger) :
    name ∈ lineage logger := by
  obtain ⟨rest, rfl, hrest⟩ := h
  refine List.mem_cons_of_mem _ ?_
  rw [Text.split_dot_append hname]
  cases hparts : (split "." rest).reverse with
  | nil => exact absurd (List.reverse_eq_nil_iff.mp hparts) (Text.split_dot_ne_nil rest)
  | cons last before =>
    rw [List.reverse_cons, hparts, List.cons_append, List.tail_cons]
    refine mem_ancestors_concat fun hlast => ?_
    have hsplit : split "." rest = before.reverse ++ [last] := by
      rw [← List.reverse_reverse (split "." rest), hparts, List.reverse_cons]
    have hempty : split "." rest = [""] := by
      refine Text.split_dot_of_head_empty hrest ?_
      rw [hsplit, List.head?_append, List.head?_reverse, hlast]
      rfl
    have hlength : before.length + 1 = 1 := by simpa [hsplit] using congrArg List.length hempty
    obtain rfl : before = [] := List.length_eq_zero_iff.mp (by omega)
    cases hlast

theorem mem_lineage (hname : '.' ∉ name.toList) (h : logger = name ∨ CloseBeneath name logger) :
    name ∈ lineage logger := by
  rcases h with rfl | h
  · exact List.mem_cons_self
  · exact mem_lineage_of_closeBeneath hname h

end Log
end Preflight
