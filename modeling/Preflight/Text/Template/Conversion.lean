import Preflight.Number.Rounded
import Preflight.Text.Template.Failure
import Preflight.Text.Template.Hole
import Preflight.Value

/-! How a percent template shows one value: as a text (`s`, `r`, `a`, `c`), an integer (`d`, `i`,
`u`, `x`, `X`, `o`) or a number with a fraction (`e`, `f`, `g` and their capitals). -/
namespace Preflight.Text

/-- How wide and how exactly a value is shown. -/
structure Layout where
  flags : Flags
  width : Nat
  precision : Option Nat

/-- No text can be longer. -/
def capacity : Nat := Nat.pow 10 9

/-- The largest number of digits that an integer can be asked to have. -/
def digitLimit : Nat := Nat.pow 2 31 - 4

/-- Fills up to the width: with blanks on either side, or with zeros behind `front`. -/
def Layout.place (l : Layout) (front body : List Char) : Except TemplateError (List Char) :=
  if capacity < l.width then .error .outOfMemory
  else if l.flags.left then .ok ((front ++ body).rightpad l.width ' ')
  else if l.flags.zero then .ok (front ++ body.leftpad (l.width - front.length) '0')
  else .ok ((front ++ body).leftpad l.width ' ')

def Layout.placeText (l : Layout) (body : List Char) : Except TemplateError (List Char) :=
  { l with flags := { l.flags with zero := false } }.place [] body

/-- The precision, where it is a number of digits. -/
def Layout.digits (l : Layout) (default : Nat) : Except TemplateError Nat :=
  let count := l.precision.getD default
  if capacity < count then .error .outOfMemory else .ok count

/-! ## Texts -/

/-- A precision cuts a text off. -/
def showText (l : Layout) (s : List Char) : Except TemplateError (List Char) :=
  l.placeText (match l.precision with
    | some n => s.take n
    | none => s)

def escapeBeyondAscii (c : Char) : List Char :=
  if c.toNat < 0x80 then [c] else escapeCode c.toNat

def characterOf : Datum → Except TemplateError Char
  | .text s =>
    match s.toList with
    | [c] => .ok c
    | _ => .error .needsCharacter
  | .int n => if 0 ≤ n ∧ n < 0x110000 then .ok (Char.ofNat n.toNat) else .error .noCharacter
  | .bool b => .ok (Char.ofNat b.toNat)
  | _ => .error .needsCharacter

/-! ## Integers -/

def Flags.sign (f : Flags) (negative : Bool) : List Char :=
  if negative then ['-'] else if f.plus then ['+'] else if f.blank then [' '] else []

/-- Only the decimal conversions take a number with a fraction, which they cut off. -/
def isDecimal (conversion : Char) : Bool := ['d', 'i', 'u'].contains conversion

def integerOf (conversion : Char) : Datum → Except TemplateError Int
  | .int n => .ok n
  | .bool b => .ok b.toNat
  | .float x =>
    if isDecimal conversion then
      match x with
      | .nan => .error .notANumber
      | .infinite _ => .error .infinite
      | x => .ok (x.truncate?.getD 0)
    else .error (.needsInteger conversion "float")
  | d =>
    if isDecimal conversion then .error (.needsNumber conversion d.typeName)
    else .error (.needsInteger conversion d.typeName)

def integerDigits (conversion : Char) (n : Nat) : List Char :=
  match conversion with
  | 'x' => Nat.toDigits 16 n
  | 'X' => (Nat.toDigits 16 n).map Char.toUpper
  | 'o' => Nat.toDigits 8 n
  | _ => Nat.toDigits 10 n

/-- What shows the base of the digits, on request. -/
def baseMark (conversion : Char) : List Char :=
  if isDecimal conversion then [] else ['0', conversion]

def showInteger (l : Layout) (conversion : Char) (n : Int) : Except TemplateError (List Char) :=
  if digitLimit < l.precision.getD 0 then .error .tooPrecise
  else do
    let least ← l.digits 0
    let mark := if l.flags.alternate then baseMark conversion else []
    l.place (l.flags.sign (n < 0) ++ mark)
      ((integerDigits conversion n.natAbs).leftpad least '0')

/-! ## Numbers with a fraction -/

/-- The alternate form keeps a point that nothing follows. -/
def joinAtPoint (alternate : Bool) (whole fraction : List Char) : List Char :=
  if fraction.isEmpty && !alternate then whole else whole ++ '.' :: fraction

def fixedText (alternate : Bool) (mantissa : Nat) (exponent : Int) (places : Nat) : List Char :=
  let (whole, fraction) := Binary64.fixed mantissa exponent places
  joinAtPoint alternate whole fraction

def scientificText (alternate : Bool) (mantissa : Nat) (exponent : Int) (places : Nat) :
    List Char :=
  let (ds, power) := Binary64.significant mantissa exponent (places + 1)
  joinAtPoint alternate (ds.take 1) (ds.drop 1) ++ Binary64.exponentPart power

/-- So many digits in all, and without an exponent when the number is not below `0.0001` and
leaves room for `behind` of them after the point. The alternate form keeps zeros at the end. -/
def generalText (alternate : Bool) (mantissa : Nat) (exponent : Int) (digits : Nat)
    (behind : Nat) : List Char :=
  let count := max digits 1
  let (ds, power) := Binary64.significant mantissa exponent count
  let fraction (ds : List Char) : List Char :=
    if alternate then ds else (ds.reverse.dropWhile (· == '0')).reverse
  if power < -4 || count ≤ power + behind then
    joinAtPoint alternate (ds.take 1) (fraction (ds.drop 1)) ++ Binary64.exponentPart power
  else if power < 0 then
    joinAtPoint alternate ['0'] (fraction (List.replicate (-power - 1).toNat '0' ++ ds))
  else
    let whole := power.toNat + 1
    joinAtPoint alternate (ds.take whole) (fraction (ds.drop whole))

def realOf : Datum → Except TemplateError Binary64
  | .float x => .ok x
  | .int n =>
    match Binary64.ofRatio (n < 0) n.natAbs 1 with
    | .infinite _ => .error .tooLarge
    | x => .ok x
  | .bool b => .ok (.ofRatio false b.toNat 1)
  | d => .error (.needsReal d.typeName)

def usualPlaces : Nat := 6

def showReal (l : Layout) (conversion : Char) (x : Binary64) :
    Except TemplateError (List Char) := do
  let count ← l.digits usualPlaces
  let (negative, body) := match x with
    | .nan => (false, ['n', 'a', 'n'])
    | .infinite negative => (negative, ['i', 'n', 'f'])
    | .finite negative m e =>
      (negative, match conversion.toLower with
        | 'f' => fixedText l.flags.alternate m e count
        | 'e' => scientificText l.flags.alternate m e count
        | _ => generalText l.flags.alternate m e count 0)
  l.place (l.flags.sign negative) (if conversion.isUpper then body.map Char.toUpper else body)

/-- A value under a conversion, whose place in the template is `index`. -/
def convert (l : Layout) (conversion : Char) (index : Nat) (d : Datum) :
    Except TemplateError (List Char) :=
  match conversion with
  | 's' => showText l d.plainText.toList
  | 'r' => showText l d.display.toList
  | 'a' => showText l (d.display.toList.flatMap escapeBeyondAscii)
  | 'c' => do l.placeText [← characterOf d]
  | 'd' | 'i' | 'u' | 'x' | 'X' | 'o' => do showInteger l conversion (← integerOf conversion d)
  | 'e' | 'E' | 'f' | 'F' | 'g' | 'G' => do showReal l conversion (← realOf d)
  | _ => .error (.unsupported conversion index)

end Preflight.Text
