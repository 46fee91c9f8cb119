import Preflight.Datum
import Preflight.Toml.Moment

/-! Reading a TOML value: texts in one or three quotes of either sort, flags, moments, numbers,
lists and records. -/
namespace Preflight.Toml
open Text (isDigit isHexDigit valueIn digitsValue)

def isBlank (c : Char) : Bool := c == ' ' || c == '\t'

def skipBlanks (cs : List Char) : List Char := cs.dropWhile isBlank

/-- Characters that stand nowhere but as a line break. -/
def isControl (c : Char) : Bool := (c.toNat < 0x20 && c != '\t') || c.toNat == 0x7f

/-- What follows blanks, line breaks and comments, of which the first may have begun. -/
def skipLines : (inComment : Bool) → List Char → Option (List Char)
  | _, [] => some []
  | true, c :: cs =>
    if c = '\n' then skipLines false cs else if isControl c then none else skipLines true cs
  | false, c :: cs =>
    if isBlank c || c == '\n' then skipLines false cs
    else if c = '#' then skipLines true cs
    else some (c :: cs)

/-! ## Texts -/

def shortEscape? : Char → Option Char
  | 'b' => some '\x08'
  | 't' => some '\t'
  | 'n' => some '\n'
  | 'f' => some '\x0c'
  | 'r' => some '\r'
  | '"' => some '"'
  | '\\' => some '\\'
  | _ => none

/-- The character of a number written in hexadecimal digits. -/
def scalar? (ds : List Char) : Option Char :=
  let n := valueIn 16 ds
  if ds.all isHexDigit ∧ n.isValidChar then some (Char.ofNat n) else none

/-- Up to two quotes before the three that close a text belong to it. -/
def closing (quote : Char) (cs : List Char) : List Char × List Char :=
  let extra := (cs.take 2).takeWhile (· == quote)
  (extra, cs.drop extra.length)

/-- A text in double quotes. Over several lines, a backslash at the end of a line joins it to what
stands next, and blanks and line breaks are `skipping` up to there. -/
def readBasic (multiline : Bool) : (skipping : Bool) → List Char → Option (List Char × List Char)
  | _, [] => none
  | _, '"' :: cs =>
    if multiline then
      match cs with
      | '"' :: '"' :: rest => some (closing '"' rest)
      | _ => (readBasic multiline false cs).map fun (s, r) => ('"' :: s, r)
    else some ([], cs)
  | _, '\\' :: 'u' :: a :: b :: c :: d :: cs =>
    (scalar? [a, b, c, d]).bind fun x =>
      (readBasic multiline false cs).map fun (s, r) => (x :: s, r)
  | _, '\\' :: 'U' :: a :: b :: c :: d :: e :: f :: g :: h :: cs =>
    (scalar? [a, b, c, d, e, f, g, h]).bind fun x =>
      (readBasic multiline false cs).map fun (s, r) => (x :: s, r)
  | _, '\\' :: c :: cs =>
    if multiline && (isBlank c || c == '\n') then
      if (skipBlanks (c :: cs)).head? = some '\n' then readBasic multiline true cs else none
    else
      (shortEscape? c).bind fun x =>
        (readBasic multiline false cs).map fun (s, r) => (x :: s, r)
  | skipping, c :: cs =>
    if skipping && (isBlank c || c == '\n') then readBasic multiline true cs
    else if isControl c && !(multiline && c == '\n') then none
    else (readBasic multiline false cs).map fun (s, r) => (c :: s, r)

/-- A text in single quotes, which has no escapes. -/
def readLiteral (multiline : Bool) : List Char → Option (List Char × List Char)
  | [] => none
  | '\'' :: cs =>
    if multiline then
      match cs with
      | '\'' :: '\'' :: rest => some (closing '\'' rest)
      | _ => (readLiteral multiline cs).map fun (s, r) => ('\'' :: s, r)
    else some ([], cs)
  | c :: cs =>
    if isControl c && !(multiline && c == '\n') then none
    else (readLiteral multiline cs).map fun (s, r) => (c :: s, r)

/-- A line break right after the opening quotes is no part of a text of several lines. -/
def dropLineBreak : List Char → List Char
  | '\n' :: cs => cs
  | cs => cs

def readText (cs : List Char) : Option (String × List Char) :=
  let found := match cs with
    | '"' :: '"' :: '"' :: r => readBasic true false (dropLineBreak r)
    | '\'' :: '\'' :: '\'' :: r => readLiteral true (dropLineBreak r)
    | '"' :: r => readBasic false false r
    | '\'' :: r => readLiteral false r
    | _ => none
  found.map fun (s, r) => (.ofList s, r)

/-! ## Numbers and flags -/

/-- Further digits, each with at most one underscore before it. -/
def readMore (digit : Char → Bool) : List Char → List Char × List Char
  | '_' :: c :: cs =>
    if digit c then let (ds, r) := readMore digit cs; (c :: ds, r) else ([], '_' :: c :: cs)
  | c :: cs => if digit c then let (ds, r) := readMore digit cs; (c :: ds, r) else ([], c :: cs)
  | [] => ([], [])

def readDigits (digit : Char → Bool) : List Char → Option (List Char × List Char)
  | c :: cs =>
    if digit c then let (ds, r) := readMore digit cs; some (c :: ds, r) else none
  | [] => none

/-- The digits before a point: a zero stands alone. -/
def readWhole : List Char → Option (List Char × List Char)
  | '0' :: cs => some (['0'], cs)
  | cs => readDigits isDigit cs

def readSign : List Char → Bool × List Char
  | '-' :: cs => (true, cs)
  | '+' :: cs => (false, cs)
  | cs => (false, cs)

def readFraction : List Char → Option (List Char × List Char)
  | '.' :: cs => readDigits isDigit cs
  | cs => some ([], cs)

def readExponent : List Char → Option (Option Int × List Char)
  | c :: cs =>
    if c = 'e' ∨ c = 'E' then
      let (negative, cs) := readSign cs
      (readDigits isDigit cs).map fun (ds, r) =>
        (some (if negative then -(digitsValue ds : Int) else digitsValue ds), r)
    else some (none, c :: cs)
  | [] => some (none, [])

/-- Only a decimal number has a sign, a fraction or an exponent; without the latter two it is an
integer. -/
def readDecimal (negative : Bool) (cs : List Char) : Option (Datum × List Char) := do
  let (whole, cs) ← readWhole cs
  let (part, cs) ← readFraction cs
  let (exponent, cs) ← readExponent cs
  if part.isEmpty && exponent.isNone then
    let n := digitsValue whole
    return (.int (if negative then -n else n), cs)
  else
    let power := exponent.getD 0 - part.length
    return (.float (.ofDecimal negative (digitsValue (whole ++ part)) power), cs)

def readNumber (cs : List Char) : Option (Datum × List Char) :=
  let based (base : Nat) (digit : Char → Bool) (cs : List Char) : Option (Datum × List Char) :=
    (readDigits digit cs).map fun (ds, r) => (.int (valueIn base ds), r)
  match cs with
  | '0' :: 'x' :: r => based 16 isHexDigit r
  | '0' :: 'o' :: r => based 8 (fun c => '0' ≤ c && c ≤ '7') r
  | '0' :: 'b' :: r => based 2 (fun c => c == '0' || c == '1') r
  | cs =>
    match readSign cs with
    | (negative, 'i' :: 'n' :: 'f' :: r) => some (.float (.infinite negative), r)
    | (_, 'n' :: 'a' :: 'n' :: r) => some (.float .nan, r)
    | (negative, r) => readDecimal negative r

/-! ## Keys -/

def isBare (c : Char) : Bool := c.isAlphanum || c == '_' || c == '-'

def readKeyPart : List Char → Option (String × List Char)
  | '"' :: cs => (readBasic false false cs).map fun (s, r) => (.ofList s, r)
  | '\'' :: cs => (readLiteral false cs).map fun (s, r) => (.ofList s, r)
  | cs =>
    let part := cs.takeWhile isBare
    if part.isEmpty then none else some (.ofList part, cs.dropWhile isBare)

/-- The parts of a key with points between them, and what follows it and the blanks after it. -/
def readKey : Nat → List Char → Option (List String × List Char)
  | 0, _ => none
  | n + 1, cs => do
    let (part, cs) ← readKeyPart cs
    match skipBlanks cs with
    | '.' :: cs =>
      let (parts, cs) ← readKey n (skipBlanks cs)
      return (part :: parts, cs)
    | cs => return ([part], cs)

/-- Sets what a key leads to. Nothing is set twice, and only a record is led through. -/
def insertAt : List String → Datum → List (String × Datum) → Option (List (String × Datum))
  | [], _, _ => none
  | [part], d, fields => if part ∈ Entries.keys fields then none else some (fields ++ [(part, d)])
  | part :: next :: parts, d, fields => do
    let inner ← match Entries.get? part fields with
      | none => some []
      | some d => d.fields?
    return Entries.put part (.record (← insertAt (next :: parts) d inner)) fields

/-! ## Values -/

mutual
/-- One value and what follows it. The first argument bounds the nesting and the items. -/
def readValue : Nat → List Char → Option (Datum × List Char)
  | 0, _ => none
  | n + 1, cs =>
    match cs with
    | '[' :: r => do
      let (items, r) ← readItems n (← skipLines false r)
      return (.list items, r)
    | '\x7b' :: r => do
      let (fields, r) ← readFields n r
      return (.record fields, r)
    | 't' :: 'r' :: 'u' :: 'e' :: r => some (.bool true, r)
    | 'f' :: 'a' :: 'l' :: 's' :: 'e' :: r => some (.bool false, r)
    | r =>
      ((readText r).map fun (s, r) => (.text s, r)) <|>
        ((readMoment r).map fun (s, r) => (.moment s, r)) <|> readNumber r

/-- Items may be on lines of their own, and a comma may follow the last one. -/
def readItems : Nat → List Char → Option (List Datum × List Char)
  | 0, _ => none
  | n + 1, cs =>
    match cs with
    | ']' :: r => some ([], r)
    | r => do
      let (d, r) ← readValue n r
      match ← skipLines false r with
      | ',' :: r =>
        let (ds, r) ← readItems n (← skipLines false r)
        return (d :: ds, r)
      | ']' :: r => return ([d], r)
      | _ => none

/-- Fields stand on one line, and no comma follows the last one. -/
def readFields : Nat → List Char → Option (List (String × Datum) × List Char)
  | 0, _ => none
  | n + 1, cs =>
    match skipBlanks cs with
    | '\x7d' :: r => some ([], r)
    | r => readField n [] [] r

/-- A field and those after it. No key leads into a list or record that is written out: the keys of
those are `closed`. -/
def readField : Nat → List (String × Datum) → List (List String) → List Char →
    Option (List (String × Datum) × List Char)
  | 0, _, _, _ => none
  | n + 1, fields, closed, cs => do
    let (key, cs) ← readKey n cs
    match cs with
    | '=' :: r =>
      let (d, r) ← readValue n (skipBlanks r)
      if closed.any (·.isPrefixOf key) then none
      else
        let fields ← insertAt key d fields
        match skipBlanks r with
        | ',' :: r =>
          let closed := match d with
            | .list _ | .record _ => key :: closed
            | _ => closed
          readField n fields closed (skipBlanks r)
        | '\x7d' :: r => return (fields, r)
        | _ => none
    | _ => none
end

end Preflight.Toml
