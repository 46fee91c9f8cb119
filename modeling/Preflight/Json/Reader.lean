import Preflight.Datum
import Preflight.Text.Digits

/-! Reading JSON text. A number with a fraction or an exponent is a double-precision number, any
other an integer; numbers that are not finite are words. Of equal keys in one object the last value
counts. -/
namespace Preflight.Json
open Text (hexValue? digitsValue readDigits)

def isBlank (c : Char) : Bool := c == ' ' || c == '\n' || c == '\r' || c == '\t'

def skipBlanks (cs : List Char) : List Char := cs.dropWhile isBlank

def unit? (a b c d : Char) : Option Nat := do
  return (((← hexValue? a) * 16 + (← hexValue? b)) * 16 + (← hexValue? c)) * 16 + (← hexValue? d)

def isHigh (u : Nat) : Bool := 0xd800 ≤ u && u < 0xdc00
def isLow (u : Nat) : Bool := 0xdc00 ≤ u && u < 0xe000

def shortEscape? : Char → Option Char
  | '"' => some '"'
  | '\\' => some '\\'
  | '/' => some '/'
  | 'n' => some '\n'
  | 'r' => some '\r'
  | 't' => some '\t'
  | 'b' => some '\x08'
  | 'f' => some '\x0c'
  | _ => none

/-- The rest of a text after its opening quote. A lone surrogate is refused. -/
def readChars : List Char → Option (List Char × List Char)
  | [] => none
  | '"' :: rest => some ([], rest)
  | '\\' :: 'u' :: a :: b :: c :: d :: rest =>
    match unit? a b c d with
    | none => none
    | some u =>
      if isHigh u then
        match rest with
        | '\\' :: 'u' :: e :: f :: g :: h :: rest =>
          match unit? e f g h with
          | none => none
          | some v =>
            if isLow v then
              (readChars rest).map fun (s, r) =>
                (Char.ofNat (0x10000 + (u - 0xd800) * 0x400 + (v - 0xdc00)) :: s, r)
            else none
        | _ => none
      else if isLow u then none
      else (readChars rest).map fun (s, r) => (Char.ofNat u :: s, r)
  | '\\' :: e :: rest =>
    match shortEscape? e with
    | none => none
    | some c => (readChars rest).map fun (s, r) => (c :: s, r)
  | c :: rest =>
    if c.toNat < 0x20 then none else (readChars rest).map fun (s, r) => (c :: s, r)

/-- The digits before a point: a zero stands alone. -/
def readWhole : List Char → List Char × List Char
  | '0' :: rest => (['0'], rest)
  | cs => readDigits cs

/-- A point without a digit after it is no part of the number. -/
def readFraction : List Char → List Char × List Char
  | '.' :: rest =>
    let (ds, r) := readDigits rest
    if ds.isEmpty then ([], '.' :: rest) else (ds, r)
  | cs => ([], cs)

def readExponent : List Char → Option (Int × List Char)
  | c :: rest =>
    if c = 'e' ∨ c = 'E' then
      let (negative, rest) := match rest with
        | '-' :: r => (true, r)
        | '+' :: r => (false, r)
        | r => (false, r)
      let (ds, rest) := readDigits rest
      if ds.isEmpty then none
      else some (if negative then -(digitsValue ds : Int) else digitsValue ds, rest)
    else none
  | [] => none

def readNumber (cs : List Char) : Option (Datum × List Char) :=
  let (negative, cs) := match cs with
    | '-' :: r => (true, r)
    | r => (false, r)
  let (whole, cs) := readWhole cs
  if whole.isEmpty then none
  else
    let (part, rest) := readFraction cs
    match readExponent rest with
    | some (e, rest) =>
      some (.float (.ofDecimal negative (digitsValue (whole ++ part)) (e - part.length)), rest)
    | none =>
      if part.isEmpty then
        some (.int (if negative then -(digitsValue whole : Int) else digitsValue whole), cs)
      else some (.float (.ofDecimal negative (digitsValue (whole ++ part)) (-part.length)), rest)

mutual
/-- One value and what follows it. The first argument bounds the nesting and the items. -/
def readDatum : Nat → List Char → Option (Datum × List Char)
  | 0, _ => none
  | n + 1, cs =>
    match skipBlanks cs with
    | 'n' :: 'u' :: 'l' :: 'l' :: r => some (.null, r)
    | 't' :: 'r' :: 'u' :: 'e' :: r => some (.bool true, r)
    | 'f' :: 'a' :: 'l' :: 's' :: 'e' :: r => some (.bool false, r)
    | 'N' :: 'a' :: 'N' :: r => some (.float .nan, r)
    | 'I' :: 'n' :: 'f' :: 'i' :: 'n' :: 'i' :: 't' :: 'y' :: r =>
      some (.float (.infinite false), r)
    | '-' :: 'I' :: 'n' :: 'f' :: 'i' :: 'n' :: 'i' :: 't' :: 'y' :: r =>
      some (.float (.infinite true), r)
    | '"' :: r => (readChars r).map fun (s, r) => (.text (.ofList s), r)
    | '[' :: r =>
      match skipBlanks r with
      | ']' :: r => some (.list [], r)
      | _ => (readItems n r).map fun (xs, r) => (.list xs, r)
    | '{' :: r =>
      match skipBlanks r with
      | '}' :: r => some (.record [], r)
      | _ => (readFields n r).map fun (fs, r) => (.record (Entries.ofList fs), r)
    | r => readNumber r

def readItems : Nat → List Char → Option (List Datum × List Char)
  | 0, _ => none
  | n + 1, cs =>
    match readDatum n cs with
    | none => none
    | some (x, r) =>
      match skipBlanks r with
      | ',' :: r => (readItems n r).map fun (xs, r) => (x :: xs, r)
      | ']' :: r => some ([x], r)
      | _ => none

def readFields : Nat → List Char → Option (List (String × Datum) × List Char)
  | 0, _ => none
  | n + 1, cs =>
    match skipBlanks cs with
    | '"' :: r =>
      match readChars r with
      | none => none
      | some (key, r) =>
        match skipBlanks r with
        | ':' :: r =>
          match readDatum n r with
          | none => none
          | some (x, r) =>
            match skipBlanks r with
            | ',' :: r => (readFields n r).map fun (fs, r) => ((.ofList key, x) :: fs, r)
            | '}' :: r => some ([(.ofList key, x)], r)
            | _ => none
        | _ => none
    | _ => none
end

/-- The value of a whole text, blanks around it allowed. -/
def readChars? (cs : List Char) : Option Datum :=
  match readDatum (2 * cs.length + 2) cs with
  | some (x, rest) => if (skipBlanks rest).isEmpty then some x else none
  | none => none

def read? (s : String) : Option Datum := readChars? s.toList

end Preflight.Json
