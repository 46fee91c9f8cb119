import Preflight.Text.Placeholder
import Preflight.Text.Template.Conversion

/-! The layout of a hole: how wide its value is and where it stands, the sign and the groups of a
number, how exact it is and the code of its form. A layout is written
`[[fill]side][sign][z][#][0][width][separator][.precision][code]`. -/
namespace Preflight.Text.Placeholder
open Text (decimalValue?)

/-- Where a value stands in its room. -/
inductive Side where
  | left | right | centre
  /-- The room is between the sign and the digits. -/
  | inside
deriving DecidableEq, Repr

def Side.ofChar? : Char → Option Side
  | '<' => some .left
  | '>' => some .right
  | '^' => some .centre
  | '=' => some .inside
  | _ => none

structure Layout where
  fill : Char
  side : Side
  sign : Option Char
  /-- What is rounded to zero has no sign. -/
  plainZero : Bool
  alternate : Bool
  width : Nat
  separator : Option Char
  precision : Option Nat
  code : Option Char
deriving DecidableEq, Repr

/-! ## Reading -/

def readSide : List Char → Option Char × Option Side × List Char
  | c :: d :: cs =>
    match Side.ofChar? d, Side.ofChar? c with
    | some side, _ => (some c, some side, cs)
    | none, some side => (none, some side, d :: cs)
    | none, none => (none, none, c :: d :: cs)
  | [c] =>
    match Side.ofChar? c with
    | some side => (none, some side, [])
    | none => (none, none, [c])
  | [] => (none, none, [])

/-- A character of a class, if one comes next. -/
def readIf (p : Char → Bool) : List Char → Option Char × List Char
  | [] => (none, [])
  | c :: cs => if p c then (some c, cs) else (none, c :: cs)

/-- The number that the digits in front make. -/
def readCount (cs : List Char) : Except PlaceholderError (Option Nat × List Char) :=
  let ds := cs.takeWhile fun c => (decimalValue? c).isSome
  (index? ds).map fun n => (n, cs.drop ds.length)

/-- Digits of a base other than ten are grouped by underscores alone. -/
def maySeparate (separator code : Char) : Bool :=
  ['d', 'e', 'f', 'g', 'E', 'G', '%', 'F'].contains code ||
    (separator == '_' && ['b', 'o', 'x', 'X'].contains code)

/-- The layout of a value of a type that is shown by the code `usual` when none is given. Numbers
stand on the right and texts on the left. -/
def Layout.read (typeName : String) (usual : Option Char) (written : List Char) :
    Except PlaceholderError Layout := do
  let isText := usual == some 's'
  let (fill, side, cs) := readSide written
  let (sign, cs) := readIf (fun c => c == ' ' || c == '+' || c == '-') cs
  let (plain, cs) := readIf (· == 'z') cs
  let (alternate, cs) := readIf (· == '#') cs
  let (zero, cs) := if fill.isNone then readIf (· == '0') cs else (none, cs)
  let (width, cs) ← readCount cs
  let (comma, cs) := readIf (· == ',') cs
  let (underscore, cs) := readIf (· == '_') cs
  if underscore.isSome && (comma.isSome || cs.head? == some ',') then throw .twoSeparators
  let (point, cs) := readIf (· == '.') cs
  let (precision, cs) ← if point.isSome then readCount cs else pure (none, cs)
  if point.isSome && precision.isNone then throw .noPrecision
  let code ← match cs with
    | [] => pure usual
    | [c] => pure (some c)
    | _ => throw (.invalidLayout (.ofList written) typeName)
  let separator := comma.or underscore
  match separator, code with
  | some separator, some code =>
    if !maySeparate separator code then throw (.noSeparator separator code)
  | _, _ => pure ()
  if capacity < width.getD 0 then throw .outOfMemory
  let usualSide := if isText then .left else if zero.isSome then .inside else .right
  return {
    fill := fill.getD (zero.getD ' ')
    side := side.getD usualSide
    sign, plainZero := plain.isSome, alternate := alternate.isSome
    width := width.getD 0
    separator, precision, code }

/-! ## Showing -/

/-- The room of a layout filled: `front` comes first in what is shown. -/
def Layout.place (l : Layout) (front body : List Char) : List Char :=
  let room := List.replicate (l.width - front.length - body.length) l.fill
  match l.side with
  | .left => front ++ body ++ room
  | .right => room ++ front ++ body
  | .centre => room.take (room.length / 2) ++ front ++ body ++ room.drop (room.length / 2)
  | .inside => front ++ room ++ body

theorem le_length_place (l : Layout) (front body : List Char) :
    l.width ≤ (l.place front body).length := by
  cases h : l.side <;> simp [Layout.place, h] <;> omega

/-- Digits in groups counted from the right. -/
def separate (size : Nat) (separator : Char) : List Char → List Char
  | [] => []
  | c :: cs =>
    if !cs.isEmpty && cs.length % size = 0 then c :: separator :: separate size separator cs
    else c :: separate size separator cs

/-- Without the separators the digits are what they were. -/
theorem filter_separate {size : Nat} {separator : Char} {ds : List Char}
    (h : separator ∉ ds) : (separate size separator ds).filter (· ≠ separator) = ds := by
  induction ds with
  | nil => rfl
  | cons c cs ih =>
    obtain ⟨hc, hcs⟩ : ¬ separator = c ∧ separator ∉ cs := by simpa using h
    have hc' : ¬ c = separator := fun e => hc e.symm
    unfold separate
    split <;> simpa [hc'] using ih hcs

/-- Digits in groups, zeros in front of them until they are at least so wide. -/
def group (size : Nat) (separator : Char) (least : Nat) (ds : List Char) : List Char :=
  separate size separator (ds.leftpad (least - (least - 1) / (size + 1)) '0')

def Layout.signOf (l : Layout) (negative : Bool) : List Char :=
  if negative then ['-']
  else match l.sign with
    | some '-' | none => []
    | some c => [c]

/-- A number: its sign, what marks its base, its digits, and what follows them. -/
def Layout.placeNumber (l : Layout) (negative : Bool) (mark ds rest : List Char) : List Char :=
  let front := l.signOf negative ++ mark
  let size := if l.code.any ['b', 'o', 'x', 'X'].contains then 4 else 3
  let least := if l.fill == '0' && l.side == .inside then l.width - front.length - rest.length
    else 0
  let grouped := match l.separator with
    | some c => if ds.isEmpty then [] else group size c least ds
    | none => ds
  l.place front (grouped ++ rest)

def showText (l : Layout) (s : List Char) : Except PlaceholderError (List Char) :=
  if l.code ≠ some 's' then .error (.unknownCode (l.code.getD ' ') "str")
  else if l.sign = some ' ' then .error .textSpace
  else if l.sign.isSome then .error .textSign
  else if l.plainZero then .error (.plainZero "string")
  else if l.alternate then .error .textAlternate
  else if l.side = .inside then .error .textPadding
  else .ok (l.place [] (match l.precision with
    | some n => s.take n
    | none => s))

def longLimit : Nat := Nat.pow 2 63

def showCharacter (l : Layout) (n : Int) : Except PlaceholderError (List Char) :=
  if l.sign.isSome then .error .characterSign
  else if l.alternate then .error .characterAlternate
  else if n < -longLimit ∨ longLimit ≤ n then .error .numberTooBig
  else if n < 0 ∨ 0x110000 ≤ n then .error .noCharacter
  else .ok (l.place [] [Char.ofNat n.toNat])

def showInteger (l : Layout) (n : Int) : Except PlaceholderError (List Char) :=
  if l.precision.isSome then .error .numberPrecision
  else if l.plainZero then .error (.plainZero "integer")
  else match l.code with
    | some 'c' => showCharacter l n
    | some 'b' => .ok (shown ['0', 'b'] (Nat.toDigits 2 n.natAbs))
    | some 'o' => .ok (shown ['0', 'o'] (Nat.toDigits 8 n.natAbs))
    | some 'x' => .ok (shown ['0', 'x'] (Nat.toDigits 16 n.natAbs))
    | some 'X' => .ok (shown ['0', 'X'] ((Nat.toDigits 16 n.natAbs).map Char.toUpper))
    | _ => .ok (shown [] (Nat.toDigits 10 n.natAbs))
where
  shown (mark ds : List Char) : List Char :=
    l.placeNumber (n < 0) (if l.alternate then mark else []) ds []

/-- The alternate form has a point before the exponent. -/
def withPoint (alternate : Bool) (cs : List Char) : List Char :=
  if !alternate || cs.contains '.' then cs
  else cs.takeWhile (· ≠ 'e') ++ '.' :: cs.dropWhile (· ≠ 'e')

/-- The size of a finite number. Without a code it has a digit behind the point, or else an
exponent. -/
def sizeText (l : Layout) (m : Nat) (e : Int) : List Char :=
  let count := l.precision.getD usualPlaces
  match l.code.map Char.toLower, l.precision with
  | some 'f', _ | some '%', _ => fixedText l.alternate m e count
  | some 'e', _ => scientificText l.alternate m e count
  | some _, _ => generalText l.alternate m e count 0
  | none, none =>
    withPoint l.alternate (if m = 0 then ['0', '.', '0'] else (Binary64.shortest m e).layout)
  | none, some count =>
    let shown := generalText l.alternate m e count 1
    if shown.all isDigit then shown ++ ['.', '0']
    else if shown.getLast? == some '.' then shown ++ ['0'] else shown

def hundredfold : Binary64 → Binary64
  | .finite negative m e =>
    let (num, den) := Binary64.ratio m e
    .ofRatio negative (100 * num) den
  | x => x

def placesLimit : Nat := Nat.pow 2 31 - 1

def showReal (l : Layout) (x : Binary64) : Except PlaceholderError (List Char) :=
  if placesLimit < l.precision.getD 0 then .error .precisionTooBig
  else if capacity < l.precision.getD 0 then .error .outOfMemory
  else
    let percent := l.code == some '%'
    let (negative, body) := match if percent then hundredfold x else x with
      | .nan => (false, ['n', 'a', 'n'])
      | .infinite negative => (negative, ['i', 'n', 'f'])
      | .finite negative m e =>
        let body := sizeText l m e
        let isZero := (body.takeWhile (· ≠ 'e')).all fun c => c == '0' || c == '.'
        (negative && !(l.plainZero && isZero), body)
    let body := if l.code.any Char.isUpper then body.map Char.toUpper else body
    let body := if percent then body ++ ['%'] else body
    .ok (l.placeNumber negative [] (body.takeWhile isDigit) (body.dropWhile isDigit))

def isRealCode (c : Char) : Bool := ['e', 'E', 'f', 'F', 'g', 'G', '%'].contains c
def isIntegerCode (c : Char) : Bool := ['d', 'n', 'b', 'o', 'x', 'X', 'c'].contains c

/-- An integer by the codes of integers, or as a number with a fraction by theirs. -/
def showWhole (typeName : String) (n : Int) (l : Layout) :
    Except PlaceholderError (List Char) :=
  let code := l.code.getD 'd'
  if isIntegerCode code then showInteger l n
  else if isRealCode code then
    match Binary64.ofRatio (n < 0) n.natAbs 1 with
    | .infinite _ => .error .tooLarge
    | x => showReal l x
  else .error (.unknownCode code typeName)

/-- A value under a layout. Without one it is shown as it is. -/
def arrange (written : List Char) (d : Datum) : Except PlaceholderError (List Char) :=
  if written.isEmpty then .ok d.plainText.toList
  else match d with
    | .text s => do showText (← Layout.read "str" (some 's') written) s.toList
    | .int n => do showWhole "int" n (← Layout.read "int" (some 'd') written)
    | .bool b => do showWhole "bool" b.toNat (← Layout.read "bool" (some 'd') written)
    | .float x => do
      let l ← Layout.read "float" none written
      match l.code.filter fun c => !isRealCode c && c != 'n' with
      | some code => throw (.unknownCode code "float")
      | none => showReal l x
    | .moment _ => .ok written
    | d => .error (.noLayout d.typeName)

/-! ## Holes -/

/-- A value in the form that a hole asks for. -/
def convert (d : Datum) : Option Char → Except PlaceholderError Datum
  | none => .ok d
  | some 's' => .ok (.text d.plainText)
  | some 'r' => .ok (.text d.display)
  | some 'a' => .ok (.text (.ofList (d.display.toList.flatMap escapeBeyondAscii)))
  | some c => .error (.unknownConversion c)

/-- What a hole shows. Its layout may have holes in turn, so many levels of them as the first
argument says. -/
def showHole {ε : Type} (fail : PlaceholderError → ε) (value : Hole → Except ε Datum) :
    Nat → Hole → Except ε String
  | levels, hole => do
    let d ← (convert (← value hole) hole.conversion).mapError fail
    let written ← match hole.layout.any isOpening, levels with
      | false, _ => pure hole.layout
      | true, 0 => throw (fail .tooDeep)
      | true, levels + 1 =>
        (fill fail (showHole fail value levels) hole.layout).map String.toList
    ((arrange written d).map String.ofList).mapError fail

/-- A template with the values of its holes. -/
def render {ε : Type} (fail : PlaceholderError → ε) (value : Hole → Except ε Datum)
    (template : String) : Except ε String :=
  fill fail (showHole fail value 1) template.toList

theorem arrange_nil (d : Datum) : arrange [] d = .ok d.plainText.toList := rfl

end Preflight.Text.Placeholder
