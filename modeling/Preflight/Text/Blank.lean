/-! White space: what is trimmed from the ends of a text and stands between its words. These are
the characters of bidirectional type WS, B or S, or of general category Zs, in Unicode 14. -/
namespace Preflight.Text

def isSpace (c : Char) : Bool :=
  let n := c.toNat
  (0x09 ≤ n && n ≤ 0x0d) || (0x1c ≤ n && n ≤ 0x20) || n == 0x85 || n == 0xa0 || n == 0x1680 ||
    (0x2000 ≤ n && n ≤ 0x200a) || n == 0x2028 || n == 0x2029 || n == 0x202f || n == 0x205f ||
    n == 0x3000

/-- A text without the characters of a class at its end. -/
def dropEnd (drop : Char → Bool) (cs : List Char) : List Char :=
  (cs.reverse.dropWhile drop).reverse

def trimLeft (s : String) : String := .ofList (s.toList.dropWhile isSpace)
def trimRight (s : String) : String := .ofList (dropEnd isSpace s.toList)
def trim (s : String) : String := .ofList (dropEnd isSpace (s.toList.dropWhile isSpace))

/-- The words of a text. The first argument is the word that has begun, last character first. -/
def wordsFrom (begun : List Char) : List Char → List (List Char)
  | [] => if begun.isEmpty then [] else [begun.reverse]
  | c :: cs =>
    if isSpace c then
      if begun.isEmpty then wordsFrom [] cs else begun.reverse :: wordsFrom [] cs
    else wordsFrom (c :: begun) cs

def words (s : String) : List String := (wordsFrom [] s.toList).map .ofList

theorem isSpace_of_isWhitespace {c : Char} (h : c.isWhitespace) : isSpace c := by
  simp only [Char.isWhitespace, Bool.or_eq_true, decide_eq_true_eq] at h
  rcases h with ((h | h) | h) | h <;> subst h <;> decide

end Preflight.Text
