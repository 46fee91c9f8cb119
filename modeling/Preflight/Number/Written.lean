import Preflight.Number.Binary64
import Preflight.Text.Blank
import Preflight.Text.Decimal

/-! Numbers as people write them: blanks around them, a sign, decimal digits of any script with
single underscores between them; for a real number also a point, an exponent, or a word. -/
namespace Preflight.Written
open Text (isSpace decimalValue? dropEnd)

/-- The blanks of a number; the four separators of data are none. -/
def isPadding (c : Char) : Bool := isSpace c && !(0x1c ≤ c.toNat && c.toNat ≤ 0x1f)

/-- Further digits, each with at most one underscore before it. -/
def moreDigits : List Char → List Nat × List Char
  | '_' :: c :: cs =>
    match decimalValue? c with
    | some d => let (ds, r) := moreDigits cs; (d :: ds, r)
    | none => ([], '_' :: c :: cs)
  | c :: cs =>
    match decimalValue? c with
    | some d => let (ds, r) := moreDigits cs; (d :: ds, r)
    | none => ([], c :: cs)
  | [] => ([], [])

/-- A run of digits, which may be empty. -/
def digits : List Char → List Nat × List Char
  | '_' :: cs => ([], '_' :: cs)
  | cs => moreDigits cs

def value (ds : List Nat) : Nat := ds.foldl (fun n d => 10 * n + d) 0

def sign : List Char → Bool × List Char
  | '-' :: cs => (true, cs)
  | '+' :: cs => (false, cs)
  | cs => (false, cs)

def unpad (s : String) : List Char := dropEnd isPadding (s.toList.dropWhile isPadding)

/-- The sign of an integer and its digits. -/
def integerDigits? (s : String) : Option (Bool × List Nat) :=
  let (negative, cs) := sign (unpad s)
  match digits cs with
  | ([], _) => none
  | (ds, []) => some (negative, ds)
  | _ => none

def integer? (s : String) : Option Int :=
  (integerDigits? s).map fun (negative, ds) => if negative then -(value ds : Int) else value ds

def word? (cs : List Char) : Option (Bool → Binary64) :=
  match (String.ofList cs).toLower with
  | "inf" | "infinity" => some .infinite
  | "nan" => some fun _ => .nan
  | _ => none

def fraction : List Char → List Nat × List Char
  | '.' :: cs => digits cs
  | cs => ([], cs)

def exponent? : List Char → Option Int
  | [] => some 0
  | c :: cs =>
    if c = 'e' ∨ c = 'E' then
      let (negative, cs) := sign cs
      match digits cs with
      | ([], _) => none
      | (ds, []) => some (if negative then -(value ds : Int) else value ds)
      | _ => none
    else none

/-- The number nearest to a real one. There are digits before or after the point. -/
def real? (s : String) : Option Binary64 :=
  let (negative, cs) := sign (unpad s)
  match word? cs with
  | some number => some (number negative)
  | none =>
    let (whole, cs) := digits cs
    let (part, cs) := fraction cs
    if whole.isEmpty && part.isEmpty then none
    else
      (exponent? cs).map fun power =>
        .ofDecimal negative (value (whole ++ part)) (power - part.length)

theorem value_append (ds : List Nat) (d : Nat) : value (ds ++ [d]) = 10 * value ds + d := by
  simp [value]

end Preflight.Written
