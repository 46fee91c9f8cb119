import Preflight.Json.Reader
import Preflight.Number.Written

/-! Data in a looser notation than JSON: texts in quotes of either sort, `None`, `True` and
`False`, lists in round brackets too, numbers with underscores or in other bases, and a comma
after the last item. -/
namespace Preflight.Json.Relaxed
open Text (isDigit hexValue? isHexDigit valueIn)

def isBlank (c : Char) : Bool := c == ' ' || c == '\n' || c == '\r' || c == '\t' || c == '\x0c'

def skipBlanks (cs : List Char) : List Char := cs.dropWhile isBlank

def shortEscape? : Char → Option Char
  | '\\' => some '\\'
  | '\'' => some '\''
  | '"' => some '"'
  | 'n' => some '\n'
  | 'r' => some '\r'
  | 't' => some '\t'
  | 'b' => some '\x08'
  | 'f' => some '\x0c'
  | 'a' => some '\x07'
  | 'v' => some '\x0b'
  | _ => none

def scalar? (ds : List Char) : Option Char :=
  let n := valueIn 16 ds
  if ds.all isHexDigit ∧ n.isValidChar then some (Char.ofNat n) else none

/-- The rest of a text after its opening quote. A backslash that escapes nothing stays. -/
def readChars (quote : Char) : List Char → Option (List Char × List Char)
  | [] => none
  | '\\' :: 'x' :: a :: b :: cs =>
    (scalar? [a, b]).bind fun x => (readChars quote cs).map fun (s, r) => (x :: s, r)
  | '\\' :: 'u' :: a :: b :: c :: d :: cs =>
    (scalar? [a, b, c, d]).bind fun x => (readChars quote cs).map fun (s, r) => (x :: s, r)
  | '\\' :: '\n' :: cs => readChars quote cs
  | '\\' :: c :: cs =>
    (readChars quote cs).map fun (s, r) =>
      match shortEscape? c with
      | some x => (x :: s, r)
      | none => ('\\' :: c :: s, r)
  | c :: cs =>
    if c = quote then some ([], cs)
    else if c = '\n' then none
    else (readChars quote cs).map fun (s, r) => (c :: s, r)

/-- The characters of a number and what follows them. A sign belongs to it after the letter of an
exponent. -/
def numberToken : (afterExponent : Bool) → List Char → List Char × List Char
  | _, [] => ([], [])
  | afterExponent, c :: cs =>
    if c.isAlphanum || c == '_' || c == '.' || (afterExponent && (c == '+' || c == '-')) then
      let (token, rest) := numberToken (c == 'e' || c == 'E') cs
      (c :: token, rest)
    else ([], c :: cs)

def based? (base : Nat) (ds : List Char) : Option Datum :=
  let plain := ds.filter (· ≠ '_')
  if plain.isEmpty || !plain.all fun c => (hexValue? c).any (· < base) then none
  else some (.int (valueIn base plain))

def number? : List Char → Option Datum
  | '0' :: 'x' :: ds | '0' :: 'X' :: ds => based? 16 ds
  | '0' :: 'o' :: ds | '0' :: 'O' :: ds => based? 8 ds
  | '0' :: 'b' :: ds | '0' :: 'B' :: ds => based? 2 ds
  | token =>
    match Written.integer? (.ofList token) with
    | some n => if token.head? = some '0' ∧ n ≠ 0 then none else some (.int n)
    | none => (Written.real? (.ofList token)).map .float

def negate : Datum → Datum
  | .int n => .int (-n)
  | .float (.finite negative m e) => .float (.finite (!negative) m e)
  | .float (.infinite negative) => .float (.infinite !negative)
  | d => d

def readNumber (cs : List Char) : Option (Datum × List Char) :=
  let (token, rest) := numberToken false cs
  if token.head?.any fun c => isDigit c || c == '.' then (number? token).map (·, rest) else none

def word? : String → Option Datum
  | "None" => some .null
  | "True" => some (.bool true)
  | "False" => some (.bool false)
  | _ => none

def readWord (cs : List Char) : Option (Datum × List Char) :=
  (word? (.ofList (cs.takeWhile Char.isAlphanum))).map (·, cs.dropWhile Char.isAlphanum)

/-- One item without a comma is only put in brackets. -/
def group : List Datum → (comma : Bool) → Datum
  | [d], false => d
  | ds, _ => .list ds

mutual
/-- One value and what follows it. The first argument bounds the nesting and the items. -/
def readDatum : Nat → List Char → Option (Datum × List Char)
  | 0, _ => none
  | n + 1, cs =>
    match skipBlanks cs with
    | '[' :: r => (readItems n ']' r).map fun (items, _, r) => (.list items, r)
    | '(' :: r => (readItems n ')' r).map fun (items, comma, r) => (group items comma, r)
    | '\x7b' :: r => (readFields n r).map fun (fs, r) => (.record (Entries.ofList fs), r)
    | '-' :: r => (readNumber (skipBlanks r)).map fun (d, r) => (negate d, r)
    | '+' :: r => readNumber (skipBlanks r)
    | c :: r =>
      if c = '"' ∨ c = '\'' then (readChars c r).map fun (s, r) => (.text (.ofList s), r)
      else (readWord (c :: r)).or (readNumber (c :: r))
    | [] => none

/-- Items up to a closing bracket, and whether there was a comma among them. -/
def readItems : Nat → Char → List Char → Option (List Datum × Bool × List Char)
  | 0, _, _ => none
  | n + 1, close, cs =>
    match skipBlanks cs with
    | [] => none
    | c :: r =>
      if c = close then some ([], false, r)
      else
        (readDatum n (c :: r)).bind fun (d, r) =>
          match skipBlanks r with
          | [] => none
          | ',' :: r => (readItems n close r).map fun (ds, _, r) => (d :: ds, true, r)
          | c :: r => if c = close then some ([d], false, r) else none

def readFields : Nat → List Char → Option (List (String × Datum) × List Char)
  | 0, _ => none
  | n + 1, cs =>
    match skipBlanks cs with
    | '\x7d' :: r => some ([], r)
    | c :: r =>
      if c = '"' ∨ c = '\'' then
        (readChars c r).bind fun (key, r) =>
          match skipBlanks r with
          | ':' :: r =>
            (readDatum n r).bind fun (d, r) =>
              match skipBlanks r with
              | ',' :: r => (readFields n r).map fun (fs, r) => ((.ofList key, d) :: fs, r)
              | '\x7d' :: r => some ([(.ofList key, d)], r)
              | _ => none
          | _ => none
      else none
    | [] => none
end

/-- The value of a whole text. Several values with commas between them are a list. -/
def read? (s : String) : Option Datum :=
  let cs := s.toList
  match readItems (2 * cs.length + 4) ')' (cs ++ [')']) with
  | some ([], _) => none
  | some ([d], false, []) => some d
  | some (ds, true, []) => some (.list ds)
  | _ => none

end Preflight.Json.Relaxed

namespace Preflight.Json

/-- What can be read as an object at the first place where one can. -/
def firstObject? : Nat → List Char → Option (Datum × List Char)
  | 0, _ => none
  | n + 1, cs =>
    match cs.dropWhile (· ≠ '\x7b') with
    | [] => none
    | c :: r => (readDatum (2 * r.length + 4) (c :: r)).or (firstObject? n r)

/-- The objects that stand in a text, whatever else is there. -/
def objectsFrom : Nat → List Char → List Datum
  | 0, _ => []
  | n + 1, cs =>
    match firstObject? (cs.length + 1) cs with
    | some (d, rest) => d :: objectsFrom n rest
    | none => []

def objects (s : String) : List Datum := objectsFrom s.length s.toList

end Preflight.Json
