/-! A text taken apart at a separator, or with something else in the separator's place. Separators
are found from left to right and do not overlap. -/
namespace Preflight.Text

/-- The part before the first separator, and those after it. The number is that of the characters
of a separator that are still to be passed over. -/
def splitFrom (separator : List Char) : Nat → List Char → List Char × List (List Char)
  | _, [] => ([], [])
  | n + 1, _ :: cs => splitFrom separator n cs
  | 0, c :: cs =>
    if separator.isPrefixOf (c :: cs) then
      let (part, parts) := splitFrom separator (separator.length - 1) cs
      ([], part :: parts)
    else
      let (part, parts) := splitFrom separator 0 cs
      (c :: part, parts)

/-- The parts of a text. The separator is not empty. -/
def split (separator s : String) : List String :=
  let (part, parts) := splitFrom separator.toList 0 s.toList
  (part :: parts).map .ofList

def replace (old new s : String) : String := new.intercalate (split old s)

/-- A text without the separator is one part. -/
theorem splitFrom_of_not_mem {separator : List Char} {first : Char} {cs : List Char}
    (hs : separator.head? = some first) (h : first ∉ cs) : splitFrom separator 0 cs = (cs, []) := by
  induction cs with
  | nil => rfl
  | cons c cs ih =>
    have hc : first ≠ c := fun hc => h (hc ▸ List.mem_cons_self)
    have hcs : first ∉ cs := fun hcs => h (List.mem_cons_of_mem c hcs)
    have hbegins : separator.isPrefixOf (c :: cs) = false := by
      cases separator with
      | nil => cases hs
      | cons d ds =>
        cases hs
        simp [List.isPrefixOf, hc]
    simp [splitFrom, hbegins, ih hcs]

end Preflight.Text
