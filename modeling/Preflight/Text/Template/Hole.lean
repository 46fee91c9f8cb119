import Preflight.Text.Digits

/-! The parts of a percent template. A hole is written as a percent sign, then if need be a key in
parentheses, flags, a width, a precision behind a point and a length letter, and last the letter of
its conversion. Reading never fails: what is missing or cut short is part of the hole, and is a
fault only when the hole is filled. -/
namespace Preflight.Text

structure Flags where
  left : Bool := false
  plus : Bool := false
  blank : Bool := false
  alternate : Bool := false
  zero : Bool := false
deriving DecidableEq, Repr

/-- Which value a hole shows. -/
inductive Key where
  | absent
  | named (key : String)
  /-- The template ends inside the parentheses. -/
  | unclosed
deriving DecidableEq, Repr

/-- A width or a precision. -/
inductive Amount where
  | absent
  | given (n : Nat)
  /-- A star: the next argument says how much. -/
  | asked
deriving DecidableEq, Repr

structure Hole where
  key : Key
  flags : Flags
  width : Amount
  precision : Amount
  /-- Absent when the template ends before it. -/
  conversion : Option Char
  /-- Where in the template the conversion stands. -/
  index : Nat
deriving DecidableEq, Repr

inductive Piece where
  | char (c : Char)
  | hole (h : Hole)
deriving DecidableEq, Repr

def readFlags : Flags → List Char → Flags × List Char
  | f, '-' :: cs => readFlags { f with left := true } cs
  | f, '+' :: cs => readFlags { f with plus := true } cs
  | f, ' ' :: cs => readFlags { f with blank := true } cs
  | f, '#' :: cs => readFlags { f with alternate := true } cs
  | f, '0' :: cs => readFlags { f with zero := true } cs
  | f, cs => (f, cs)

def readAmount (cs : List Char) : Amount × List Char :=
  match cs with
  | '*' :: rest => (.asked, rest)
  | c :: _ =>
    if isDigit c then
      let (ds, rest) := readDigits cs
      (.given (digitsValue ds), rest)
    else (.absent, cs)
  | [] => (.absent, [])

/-- A point alone is a precision of zero. -/
def readPrecision : List Char → Amount × List Char
  | '.' :: cs =>
    match readAmount cs with
    | (.absent, rest) => (.given 0, rest)
    | found => found
  | cs => (.absent, cs)

/-- A key up to the parenthesis that closes it, `depth` further ones being open. -/
def readKey : Nat → List Char → Option (List Char × List Char)
  | _, [] => none
  | depth, c :: cs =>
    if c = ')' then
      match depth with
      | 0 => some ([], cs)
      | d + 1 => (readKey d cs).map fun (k, r) => (c :: k, r)
    else (readKey (if c = '(' then depth + 1 else depth) cs).map fun (k, r) => (c :: k, r)

def readKeyed : List Char → Key × List Char
  | '(' :: cs =>
    match readKey 0 cs with
    | some (key, rest) => (.named (.ofList key), rest)
    | none => (.unclosed, [])
  | cs => (.absent, cs)

def skipLength : List Char → List Char
  | c :: cs => if c = 'h' ∨ c = 'l' ∨ c = 'L' then cs else c :: cs
  | [] => []

/-- The hole after a percent sign and what follows it. `size` is the length of the template. -/
def readHole (size : Nat) (cs : List Char) : Hole × List Char :=
  let (key, cs) := readKeyed cs
  let (flags, cs) := readFlags {} cs
  let (width, cs) := readAmount cs
  let (precision, cs) := readPrecision cs
  let cs := skipLength cs
  let rest := cs.tail
  ({ key, flags, width, precision, conversion := cs.head?, index := size - rest.length - 1 }, rest)

/-- The pieces of the rest of a template. Two percent signs next to each other are one character;
any other begins a hole. The second argument bounds their number. -/
def pieces (size : Nat) : Nat → List Char → List Piece
  | 0, _ => []
  | _, [] => []
  | n + 1, '%' :: '%' :: cs => .char '%' :: pieces size n cs
  | n + 1, '%' :: cs =>
    let (h, rest) := readHole size cs
    .hole h :: pieces size n rest
  | n + 1, c :: cs => .char c :: pieces size n cs

def piecesOf (template : String) : List Piece :=
  let cs := template.toList
  pieces cs.length cs.length cs

end Preflight.Text
