import Preflight.Settings.Lookup
import Preflight.Settings.Reading
import Preflight.Text.FilePath

/-! Settings from a file with environment variables laid over it. The variable
`METERLINE_A__b__C` sets what is at `A`, then `b`, then `C`. -/
namespace Preflight.Settings
open Text (lower)

/-! ## The file -/

def isLineBreak (c : Char) : Bool := c == '\u0085' || c == '\u2028' || c == '\u2029'

/-- Line breaks as they are folded: a single next-line character is a blank, and more of them are
one line break less; the separators of lines and paragraphs stay. -/
def foldBreaks (first : Char) (more : List Char) : List Char :=
  let more := more.map fun c => if c == '\u0085' then '\n' else c
  if first ≠ '\u0085' then first :: more else if more.isEmpty then [' '] else more

/-- Line breaks inside a text are folded with the blanks around them. The first two arguments are
the blanks and the line breaks right before the rest. -/
def foldFrom (blanks : Nat) : List Char → List Char → List Char
  | [], [] => List.replicate blanks ' '
  | b :: bs, [] => foldBreaks b bs
  | [], c :: cs =>
    if c == ' ' then foldFrom (blanks + 1) [] cs
    else if isLineBreak c then foldFrom 0 [c] cs
    else List.replicate blanks ' ' ++ c :: foldFrom 0 [] cs
  | b :: bs, c :: cs =>
    if c == ' ' then foldFrom 0 (b :: bs) cs
    else if isLineBreak c then foldFrom 0 (b :: bs ++ [c]) cs
    else foldBreaks b bs ++ c :: foldFrom 0 [] cs

/-- A text in which no line ends stays as it is. -/
theorem foldFrom_of_line (blanks : Nat) (cs : List Char) (h : ∀ c ∈ cs, isLineBreak c = false) :
    foldFrom blanks [] cs = List.replicate blanks ' ' ++ cs := by
  induction cs generalizing blanks with
  | nil => simp [foldFrom]
  | cons c cs ih =>
    have hc : isLineBreak c = false := h c (by simp)
    have hcs : ∀ d ∈ cs, isLineBreak d = false := fun d hd => h d (by simp [hd])
    by_cases hb : c = ' '
    · subst hb
      simp [foldFrom, ih (blanks + 1) hcs, List.replicate_succ']
    · simp [foldFrom, hb, hc, ih 0 hcs]

mutual
/-- The value that is written in a file. The words for numbers that are not finite are texts. -/
def ofFile : Datum → Draft
  | .text s => .text (.ofList (foldFrom 0 [] s.toList))
  | .float .nan => .text "NaN"
  | .float (.infinite negative) => .text (if negative then "-Infinity" else "Infinity")
  | .list items => .list (ofFileItems items)
  | .record fields => .record (ofFileFields fields)
  | d => .plain d

def ofFileItems : List Datum → List Draft
  | [] => []
  | d :: rest => ofFile d :: ofFileItems rest

def ofFileFields : List (String × Datum) → List (String × Draft)
  | [] => []
  | f :: rest => ofFileField f :: ofFileFields rest

def ofFileField : String × Datum → String × Draft
  | (key, d) => (key, ofFile d)
end

namespace Store

def setAll (joined : Option Draft) : List (String × Draft) → Store → Except Fault Store
  | [], s => .ok s
  | (name, d) :: rest, s => do setAll joined rest (← s.set joined name d)

/-- The settings of a file, which is a record or holds nothing. -/
def ofFile (file : Datum) : Except Fault Store :=
  if file.isTrivial then .ok []
  else match file with
    | .record fields =>
      let fields := ofFileFields fields
      setAll (Entries.get? joinMark fields)
        (Entries.ofList (fields.map fun f => (topKey f.1, f.2))) []
    | d => .error (.lacks d.typeName "get")

/-! ## The environment -/

/-- What the variables of settings begin with. The later ones are laid over the earlier ones. -/
def variableStarts : List String := ["DYNACONF_", "METERLINE_"]

/-- The variables that begin so, by the rest of their names. -/
def variablesOf (start : String) (environment : List (String × String)) :
    List (String × String) :=
  environment.filterMap fun (name, text) =>
    if start.toList.isPrefixOf name.toList then
      some (.ofList (name.toList.drop start.length), text)
    else none

/-- All variables that begin so are read, and then set. -/
def overlay (environment : List (String × String)) (s : Store) (start : String) :
    Except Fault Store := do
  let fields ← (variablesOf start environment).mapM fun (name, text) =>
    return (name, ← readVariable (s.isOn "AUTO_CAST") text)
  s.setAll none fields

end Store

/-- The settings of a file under an environment. -/
def load (file : Datum) (environment : List (String × String)) : Except Fault AgentSettings := do
  let store ← Store.variableStarts.foldlM (Store.overlay environment) (← Store.ofFile file)
  let fields ← Scope.settle { store, environment }
  let lowered := Entries.ofList (fields.map fun f => (lower f.1, f.2))
  (readAgent (.record lowered)).orFault .agent

/-- Loading from a path where there is no file. -/
def loadMissing (path : String) : Except Fault AgentSettings :=
  let path := Text.tidyPath path
  .error (if Text.isPathTooLong path then .longName path else .missingFile path)

end Preflight.Settings
