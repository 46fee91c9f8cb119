import Preflight.Text.Printable
import Preflight.Text.TitleTable

/-! The case of a text: upper, lower, title and swapped case, and case folding. A character may
become several (`ß` is `SS`), and a capital sigma that ends a word becomes the final form `ς`. -/
namespace Preflight.Text

def applyCase (ranges : List CaseRange) (expansions : List (Nat × List Nat)) (c : Char) :
    List Char :=
  match ranges.find? (·.holds c.toNat) with
  | some r => [Char.ofNat (c.toNat + r.shift).toNat]
  | none =>
    match expansions.find? (·.1 == c.toNat) with
    | some (_, ns) => ns.map Char.ofNat
    | none => [c]

def upperChar : Char → List Char := applyCase upperRanges upperExpansions
def lowerChar : Char → List Char := applyCase lowerRanges lowerExpansions

def isCased (c : Char) : Bool := inRanges casedRanges c.toNat
def isCaseIgnorable (c : Char) : Bool := inRanges caseIgnorableRanges c.toNat

/-- A sigma is final when a cased character stands before it and none after it, case-ignorable
characters skipped. `before` is the text in front of it, nearest character first. -/
def isFinalSigma (before rest : List Char) : Bool :=
  ((before.dropWhile isCaseIgnorable).head?.any isCased) &&
    !((rest.dropWhile isCaseIgnorable).head?.any isCased)

/-- Lower case of a character between others. -/
def lowerBetween (before : List Char) (c : Char) (rest : List Char) : List Char :=
  if c == 'Σ' then [if isFinalSigma before rest then 'ς' else 'σ'] else lowerChar c

def lowerFrom (before : List Char) : List Char → List Char
  | [] => []
  | c :: rest => lowerBetween before c rest ++ lowerFrom (c :: before) rest

def upper (s : String) : String := .ofList (s.toList.flatMap upperChar)
def lower (s : String) : String := .ofList (lowerFrom [] s.toList)

/-- The form of a character at the start of a word. -/
def titleChar (c : Char) : List Char :=
  match titleRanges.find? (·.holds c.toNat), titleExpansions.find? (·.1 == c.toNat) with
  | some r, _ => [Char.ofNat (c.toNat + r.shift).toNat]
  | none, some (_, ns) => ns.map Char.ofNat
  | none, none => upperChar c

/-- The first character of a text in title case and the rest in lower case. -/
def capitalize (s : String) : String :=
  match s.toList with
  | [] => ""
  | c :: rest => .ofList (titleChar c ++ lowerFrom [c] rest)

/-- A letter is in title case unless a letter stands right before it. -/
def titleFrom (before : List Char) : List Char → List Char
  | [] => []
  | c :: rest =>
    (if before.head?.any isCased then lowerBetween before c rest else titleChar c) ++
      titleFrom (c :: before) rest

def title (s : String) : String := .ofList (titleFrom [] s.toList)

/-- What has a lower case takes it, and any other character its upper case. -/
def swapFrom (before : List Char) : List Char → List Char
  | [] => []
  | c :: rest =>
    (if inRanges titlecaseRanges c.toNat then [c]
      else if lowerChar c == [c] then upperChar c
      else lowerBetween before c rest) ++ swapFrom (c :: before) rest

def swapCase (s : String) : String := .ofList (swapFrom [] s.toList)

/-- Folding brings a character's forms together by way of its upper case. A dotless i stands for
itself. -/
def foldChar (c : Char) : List Char :=
  if inRanges cherokeeRanges c.toNat then upperChar c
  else if c == 'ı' then [c]
  else ((lowerChar c).flatMap upperChar).flatMap lowerChar

def fold (s : String) : String := .ofList (s.toList.flatMap foldChar)

/-- Two texts are one name when they differ in case alone. -/
def sameIgnoringCase (s t : String) : Bool := lower s == lower t

theorem upper_append (s t : String) : upper (s ++ t) = upper s ++ upper t := by
  simp [upper]

end Preflight.Text
